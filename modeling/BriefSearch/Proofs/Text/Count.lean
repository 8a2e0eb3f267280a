import BriefSearch.Text.Basic
import Mathlib.Data.List.TakeWhile

/-!
# Written counts

* **`digitsOnto_eq_ofDigitChars`** — reading digits is reading a decimal numeral;
* **`Denotes`**, **`count?_eq_some_iff`** — numerals, and which of them are read as counts;
* **`trim_eq_self`** — trimming leaves a text without white space as it is;
* **`count?_trim_toString`** — a count written in decimal is read back;
* **`saturatingMul_lt_iff`** — a product that stays at the largest count compares like the exact
  one.
-/

namespace BriefSearch.Text

/-! ### Digits -/

theorem digitsOnto_eq_ofDigitChars {cs : List Char} (h : ∀ c ∈ cs, c.isDigit = true) (n : Nat) :
    digitsOnto n cs = some (Nat.ofDigitChars 10 cs n) := by
  induction cs generalizing n with
  | nil => rfl
  | cons c cs ih =>
    obtain ⟨hc, hcs⟩ := List.forall_mem_cons.1 h
    rw [digitsOnto, if_pos hc, ih hcs, Nat.ofDigitChars_cons]
    rfl

theorem isDigit_of_mem_toString {n : Nat} {c : Char} (h : c ∈ (toString n).toList) :
    c.isDigit = true := by
  rw [Nat.toString_eq_repr, Nat.toList_repr] at h
  exact Nat.isDigit_of_mem_toDigits (by decide) (by decide) h

theorem ofDigitChars_toString (n : Nat) : Nat.ofDigitChars 10 (toString n).toList 0 = n := by
  rw [Nat.toString_eq_repr, Nat.toList_repr]
  exact Nat.ofDigitChars_ten_toDigits

/-- A decimal numeral stands for its number. -/
theorem natural?_toString (n : Nat) : natural? (toString n).toList = some n := by
  have hdigits := fun c => @isDigit_of_mem_toString n c
  have hvalue := ofDigitChars_toString n
  have hne : (toString n).toList ≠ [] := by
    rw [Nat.toString_eq_repr, Nat.toList_repr]
    exact Nat.toDigits_ne_nil
  generalize (toString n).toList = cs at hdigits hvalue hne
  obtain ⟨c, cs, rfl⟩ := List.exists_cons_of_ne_nil hne
  have hplus : c ≠ '+' := by
    rintro rfl
    exact absurd (hdigits '+' List.mem_cons_self) (by decide)
  have hnatural : natural? (c :: cs) = digits? (c :: cs) := by
    unfold natural?
    split
    · rename_i h
      cases h
      exact absurd rfl hplus
    · rfl
  rw [hnatural]
  show digitsOnto 0 (c :: cs) = some n
  rw [digitsOnto_eq_ofDigitChars hdigits, hvalue]

/-! ### Numerals -/

/-- The number that a text of decimal digits stands for, with or without a plus sign before it. -/
def Denotes (cs : List Char) (n : Nat) : Prop :=
  ∃ digits : List Char, (cs = digits ∨ cs = '+' :: digits) ∧ digits ≠ [] ∧
    (∀ c ∈ digits, c.isDigit = true) ∧ Nat.ofDigitChars 10 digits 0 = n

theorem digitsOnto_eq_some_iff {cs : List Char} {n value : Nat} :
    digitsOnto n cs = some value ↔
      (∀ c ∈ cs, c.isDigit = true) ∧ Nat.ofDigitChars 10 cs n = value := by
  constructor
  · intro h
    have hdigits : ∀ c ∈ cs, c.isDigit = true := by
      induction cs generalizing n with
      | nil => exact fun c hc => absurd hc List.not_mem_nil
      | cons c cs ih =>
        rw [digitsOnto] at h
        split at h
        · rename_i hc
          exact List.forall_mem_cons.2 ⟨hc, ih h⟩
        · cases h
    rw [digitsOnto_eq_ofDigitChars hdigits] at h
    exact ⟨hdigits, Option.some.inj h⟩
  · rintro ⟨hdigits, rfl⟩
    exact digitsOnto_eq_ofDigitChars hdigits n

theorem digits?_eq_some_iff {cs : List Char} {n : Nat} :
    digits? cs = some n ↔
      cs ≠ [] ∧ (∀ c ∈ cs, c.isDigit = true) ∧ Nat.ofDigitChars 10 cs 0 = n := by
  cases cs with
  | nil => simp [digits?]
  | cons c cs =>
    rw [digits?, digitsOnto_eq_some_iff]
    · simp
    · simp

/-- **What is read as a number are the numerals.** -/
theorem natural?_eq_some_iff {cs : List Char} {n : Nat} : natural? cs = some n ↔ Denotes cs n := by
  unfold natural?
  split
  · rename_i rest
    rw [digits?_eq_some_iff]
    constructor
    · intro h
      exact ⟨rest, .inr rfl, h⟩
    · rintro ⟨digits, hcs | hcs, hne, hdigits, hvalue⟩
      · subst hcs
        exact absurd (hdigits '+' List.mem_cons_self) (by decide)
      · cases hcs
        exact ⟨hne, hdigits, hvalue⟩
  · rename_i hplus
    rw [digits?_eq_some_iff]
    constructor
    · intro h
      exact ⟨cs, .inl rfl, h⟩
    · rintro ⟨digits, hcs | hcs, hrest⟩
      · subst hcs
        exact hrest
      · exact absurd hcs (hplus digits)

/-- **What is read as a count are the numerals of numbers below 2 ^ 64.** -/
theorem count?_eq_some_iff {s : String} {n : UInt64} :
    count? s = some n ↔ Denotes s.toList n.toNat := by
  rw [← natural?_eq_some_iff, count?]
  cases hvalue : natural? s.toList with
  | none => simp
  | some value =>
    dsimp only
    rw [Option.some.injEq]
    split
    · rename_i hlt
      rw [Option.some.injEq]
      constructor
      · rintro rfl
        exact (UInt64.toNat_ofNat_of_lt' hlt).symm
      · rintro rfl
        exact UInt64.ofNat_toNat
    · rename_i hle
      constructor
      · intro h
        cases h
      · rintro rfl
        exact absurd n.toNat_lt hle

/-! ### White space at the ends -/

theorem isBlank_of_isDigit {c : Char} (h : c.isDigit = true) : isBlank c = false := by
  rw [Char.isDigit, Bool.and_eq_true, decide_eq_true_eq, decide_eq_true_eq] at h
  have hlow : 48 ≤ c.toNat := h.1
  have hhigh : c.toNat ≤ 57 := h.2
  simp only [isBlank, blankRanges, inRanges, Bool.and_eq_false_iff, Bool.or_eq_false_iff,
    decide_eq_false_iff_not]
  omega

theorem dropWhile_isBlank_eq_self {cs : List Char} (h : ∀ c ∈ cs, isBlank c = false) :
    cs.dropWhile isBlank = cs := by
  cases cs with
  | nil => rfl
  | cons c cs => rw [List.dropWhile_cons_of_neg (by simp [h c List.mem_cons_self])]

/-- A text without white space is left as it is. -/
theorem trim_eq_self {s : String} (h : ∀ c ∈ s.toList, isBlank c = false) : trim s = s := by
  have hreverse : ∀ c ∈ s.toList.reverse, isBlank c = false := fun c hc =>
    h c (List.mem_reverse.1 hc)
  rw [trim, trimLeft, dropWhile_isBlank_eq_self h, trimRight, dropWhile_isBlank_eq_self hreverse,
    List.reverse_reverse, String.ofList_toList]

/-- **A count that is written in decimal is read back.** -/
theorem count?_trim_toString (n : UInt64) : count? (trim (toString n.toNat)) = some n := by
  have hblank : ∀ c ∈ (toString n.toNat).toList, isBlank c = false := fun c hc =>
    isBlank_of_isDigit (isDigit_of_mem_toString hc)
  have hlimit : n.toNat < countLimit := n.toNat_lt
  rw [trim_eq_self hblank, count?, natural?_toString]
  dsimp only
  rw [if_pos hlimit, UInt64.ofNat_toNat]

/-! ### Products -/

theorem toNat_saturatingMul (a b : UInt64) :
    (saturatingMul a b).toNat = min (a.toNat * b.toNat) (countLimit - 1) := by
  have hlimit : countLimit - 1 < countLimit := by decide
  have hlt : min (a.toNat * b.toNat) (countLimit - 1) < countLimit := by omega
  rw [saturatingMul, UInt64.toNat_ofNat_of_lt' hlt]

/-- No count exceeds the largest one, so a product is below a count only where the exact one is. -/
theorem saturatingMul_lt_iff (a b c : UInt64) :
    saturatingMul a b < c ↔ a.toNat * b.toNat < c.toNat := by
  have hc : c.toNat ≤ countLimit - 1 := Nat.le_pred_of_lt c.toNat_lt
  rw [UInt64.lt_iff_toNat_lt, toNat_saturatingMul]
  omega

end BriefSearch.Text
