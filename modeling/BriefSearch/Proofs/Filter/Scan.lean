import BriefSearch.Filter.Expression
import Mathlib.Data.List.TakeWhile

/-!
# Reading the tokens of a text

One equation for each kind of token, from the characters that write it to what is read, and what
every list of tokens has in common.

* **`IsName`** — the words that can name a field;
* **`Reads`** — a text in front of another is read as tokens of its own: white space, punctuation,
  keywords, names and values, one after the other by **`Reads.append`**.
-/

namespace BriefSearch.Token

open Text

/-! ### Classes of characters -/

theorem exists_range_of_inRanges {ranges : List (Nat × Nat)} {n : Nat}
    (h : inRanges ranges n = true) : ∃ r ∈ ranges, r.1 ≤ n ∧ n ≤ r.2 := by
  induction ranges with
  | nil => cases h
  | cons r ranges ih =>
    rw [inRanges, Bool.and_eq_true, Bool.or_eq_true, decide_eq_true_eq, decide_eq_true_eq] at h
    obtain ⟨hlow, hhigh | hmore⟩ := h
    · exact ⟨r, List.mem_cons_self, hlow, hhigh⟩
    · obtain ⟨r', hr', hn⟩ := ih hmore
      exact ⟨r', List.mem_cons_of_mem r hr', hn⟩

/-- No blank is a letter or a digit; the table of blanks has few numbers, so they are tried. -/
theorem isAlphanumeric_of_isBlank {c : Char} (h : isBlank c = true) : isAlphanumeric c = false := by
  have htable : ∀ r ∈ blankRanges, ∀ n ∈ List.range' r.1 (r.2 + 1 - r.1),
      inRanges alphanumericRanges n = false := by decide +kernel
  obtain ⟨r, hr, hlow, hhigh⟩ := exists_range_of_inRanges h
  refine htable r hr c.toNat (List.mem_range'_1.2 ⟨hlow, ?_⟩)
  omega

/-- No blank is part of a word. -/
theorem isWordChar_of_isBlank {c : Char} (h : isBlank c = true) : isWordChar c = false := by
  have hne : ∀ d : Char, isBlank d = false → c ≠ d := by
    rintro d hd rfl
    rw [h] at hd
    cases hd
  rw [isWordChar, isAlphanumeric_of_isBlank h, decide_eq_false (hne '_' (by decide)),
    decide_eq_false (hne '.' (by decide)), decide_eq_false (hne '-' (by decide)),
    decide_eq_false (hne '\'' (by decide))]
  rfl

theorem isBlank_of_isWordChar {c : Char} (h : isWordChar c = true) : isBlank c = false := by
  cases hb : isBlank c with
  | false => rfl
  | true =>
    rw [isWordChar_of_isBlank hb] at h
    cases h

theorem ne_of_isWordChar {c d : Char} (h : isWordChar c = true) (hd : isWordChar d = false) :
    c ≠ d := by
  rintro rfl
  rw [h] at hd
  cases hd

/-! ### Words, names and keywords -/

/-- White space, possibly none. -/
def IsBlank (cs : List Char) : Prop :=
  ∀ c ∈ cs, isBlank c = true

/-- White space, at least one character. -/
def IsGap (cs : List Char) : Prop :=
  cs ≠ [] ∧ IsBlank cs

/-- A run of characters that words are made of. -/
def IsWord (cs : List Char) : Prop :=
  cs ≠ [] ∧ ∀ c ∈ cs, isWordChar c = true

/-- The operator's word in upper or lower case, letter by letter. -/
def Spells (op : Operator) (cs : List Char) : Prop :=
  cs.map Char.toLower = op.word.toList.map Char.toLower

/-- A word that is no keyword. -/
def IsName (cs : List Char) : Prop :=
  IsWord cs ∧ ∀ op, ¬ Spells op cs

theorem keyword?_eq_some_iff {cs : List Char} {op : Operator} :
    keyword? cs = some op ↔ Spells op cs := by
  have hand : Operator.and.word.toList.map Char.toLower = ['a', 'n', 'd'] := by decide
  have hor : Operator.or.word.toList.map Char.toLower = ['o', 'r'] := by decide
  rw [keyword?]
  cases op with
  | and =>
    rw [Spells, hand]
    split
    · rename_i h
      exact ⟨fun _ => h, fun _ => rfl⟩
    · rename_i h
      split
      · exact ⟨fun he => (by cases he), fun he => absurd he h⟩
      · exact ⟨fun he => (by cases he), fun he => absurd he h⟩
  | or =>
    rw [Spells, hor]
    split
    · rename_i h
      rw [h]
      exact ⟨fun he => (by cases he), fun he => absurd he (by decide)⟩
    · split
      · rename_i h
        exact ⟨fun _ => h, fun _ => rfl⟩
      · rename_i h
        exact ⟨fun he => (by cases he), fun he => absurd he h⟩

theorem keyword?_eq_none {cs : List Char} (h : ∀ op, ¬ Spells op cs) : keyword? cs = none := by
  cases hk : keyword? cs with
  | none => rfl
  | some op => exact absurd (keyword?_eq_some_iff.1 hk) (h op)

instance (cs : List Char) : Decidable (IsBlank cs) :=
  List.decidableBAll (fun c => isBlank c = true) cs

instance (cs : List Char) : Decidable (IsGap cs) :=
  inferInstanceAs (Decidable (cs ≠ [] ∧ IsBlank cs))

instance (cs : List Char) : Decidable (IsWord cs) :=
  haveI := List.decidableBAll (fun c => isWordChar c = true) cs
  inferInstanceAs (Decidable (cs ≠ [] ∧ ∀ c ∈ cs, isWordChar c = true))

instance (op : Operator) (cs : List Char) : Decidable (Spells op cs) :=
  inferInstanceAs (Decidable (cs.map Char.toLower = op.word.toList.map Char.toLower))

theorem isName_iff {cs : List Char} :
    IsName cs ↔ IsWord cs ∧ ¬ Spells .and cs ∧ ¬ Spells .or cs := by
  constructor
  · intro h
    exact ⟨h.1, h.2 .and, h.2 .or⟩
  · rintro ⟨hw, hand, hor⟩
    refine ⟨hw, fun op => ?_⟩
    cases op with
    | and => exact hand
    | or => exact hor

instance (cs : List Char) : Decidable (IsName cs) :=
  decidable_of_iff _ isName_iff.symm

/-- A character is its lower-case form or stands 32 places before it. -/
theorem toNat_of_toLower {c d : Char} (h : c.toLower = d) :
    c.toNat = d.toNat ∨ c.toNat + 32 = d.toNat := by
  subst h
  delta Char.toLower
  split
  · rename_i hc
    right
    have hle : c.val.toNat ≤ 90 := UInt32.le_iff_toNat_le.1 hc.2
    show c.val.toNat + 32 = (c.val + ('a'.val - 'A'.val)).toNat
    rw [UInt32.toNat_add]
    have h32 : ('a'.val - 'A'.val).toNat = 32 := by decide
    rw [h32]
    omega
  · exact .inl rfl

theorem isWordChar_of_toLower {c : Char}
    (h : c.toLower ∈ ['a', 'n', 'd', 'o', 'r']) : isWordChar c = true := by
  have hletter : ∀ n ∈ [65, 78, 68, 79, 82, 97, 110, 100, 111, 114],
      inRanges alphanumericRanges n = true := by decide
  have halpha : isAlphanumeric c = true := by
    refine hletter c.toNat ?_
    simp only [List.mem_cons, List.not_mem_nil, or_false] at h ⊢
    rcases h with h | h | h | h | h <;> rcases toNat_of_toLower h with hn | hn <;>
      simp only [Char.reduceToNat] at hn <;> omega
  rw [isWordChar, halpha]
  rfl

theorem isWord_of_spells {op : Operator} {cs : List Char} (h : Spells op cs) : IsWord cs := by
  constructor
  · rintro rfl
    have hlength := congrArg List.length h
    cases op <;> cases hlength
  · intro c hc
    apply isWordChar_of_toLower
    have hmem : c.toLower ∈ cs.map Char.toLower := List.mem_map_of_mem hc
    rw [h] at hmem
    have hletters :
        (op.word.toList.map Char.toLower).all (· ∈ ['a', 'n', 'd', 'o', 'r']) = true := by
      cases op <;> decide
    exact of_decide_eq_true (List.all_eq_true.1 hletters c.toLower hmem)

/-! ### What stands in front of a text -/

/-- The text does not go on with a character that words are made of. -/
def Stops (rest : List Char) : Prop :=
  ∀ c ∈ rest.head?, isWordChar c = false

theorem stops_gap {s : List Char} (hs : IsGap s) (rest : List Char) : Stops (s ++ rest) := by
  obtain ⟨c, cs, rfl⟩ := List.exists_cons_of_ne_nil hs.1
  intro d hd
  cases hd
  exact isWordChar_of_isBlank (hs.2 c List.mem_cons_self)

theorem stops_cons {c : Char} (hc : isWordChar c = false) (rest : List Char) :
    Stops (c :: rest) := by
  intro d hd
  cases hd
  exact hc

theorem stops_blank_cons {s : List Char} (hs : IsBlank s) {c : Char} (hc : isWordChar c = false)
    (rest : List Char) : Stops (s ++ c :: rest) := by
  cases s with
  | nil => exact stops_cons hc rest
  | cons b bs => exact stops_gap ⟨List.cons_ne_nil b bs, hs⟩ (c :: rest)

theorem colonFollows_blank {s : List Char} (hs : IsBlank s) (rest : List Char) :
    colonFollows (s ++ rest) = colonFollows rest := by
  rw [colonFollows, List.dropWhile_append_of_pos hs, colonFollows]

theorem colonFollows_cons {c : Char} (hc : isBlank c = false) (rest : List Char) :
    colonFollows (c :: rest) = decide (c = ':') := by
  have hblank : ¬ isBlank c = true := by
    rw [hc]
    exact Bool.false_ne_true
  rw [colonFollows, List.dropWhile_cons_of_neg hblank, List.head?_cons]
  exact decide_eq_decide.2 Option.some_inj

theorem colonFollows_word {word : List Char} (hw : IsWord word) (rest : List Char) :
    colonFollows (word ++ rest) = false := by
  obtain ⟨c, cs, rfl⟩ := List.exists_cons_of_ne_nil hw.1
  have hc : isWordChar c = true := hw.2 c List.mem_cons_self
  rw [List.cons_append, colonFollows_cons (isBlank_of_isWordChar hc)]
  exact decide_eq_false (ne_of_isWordChar hc (by decide))

/-- A text that does not go on with the word in front of it and does not make it a field. -/
def Closed (rest : List Char) : Prop :=
  Stops rest ∧ colonFollows rest = false

theorem closed_gap {s rest : List Char} (hs : IsGap s) (hrest : colonFollows rest = false) :
    Closed (s ++ rest) := by
  refine ⟨stops_gap hs rest, ?_⟩
  rw [colonFollows_blank hs.2, hrest]

theorem closed_blank {s : List Char} (hs : IsBlank s) : Closed s := by
  constructor
  · intro c hc
    exact isWordChar_of_isBlank (hs c (List.mem_of_mem_head? hc))
  · have hcolon := colonFollows_blank hs []
    rw [List.append_nil] at hcolon
    rw [hcolon]
    rfl

theorem closed_closing {s : List Char} (hs : IsBlank s) (rest : List Char) :
    Closed (s ++ ')' :: rest) := by
  refine ⟨stops_blank_cons hs (by decide) rest, ?_⟩
  rw [colonFollows_blank hs, colonFollows_cons (by decide)]
  rfl

/-- The text is read as the tokens when it stands in front of the rest. -/
def Reads (text : List Char) (tokens : List Token) (rest : List Char) : Prop :=
  scan (text ++ rest) = (scan rest).map (tokens ++ ·)

/-- What stands in front of a text in front of the rest is read first. -/
theorem Reads.append {t t' rest : List Char} {tokens tokens' : List Token}
    (h : Reads t tokens (t' ++ rest)) (h' : Reads t' tokens' rest) :
    Reads (t ++ t') (tokens ++ tokens') rest := by
  rw [Reads, List.append_assoc, h, h']
  cases scan rest with
  | error fault => rfl
  | ok more =>
    show Except.ok (tokens ++ (tokens' ++ more)) = Except.ok (tokens ++ tokens' ++ more)
    rw [List.append_assoc]

theorem Reads.scan_eq {t rest : List Char} {tokens more : List Token} (h : Reads t tokens rest)
    (hmore : scan rest = .ok more) : scan (t ++ rest) = .ok (tokens ++ more) := by
  rw [h, hmore]
  rfl

theorem scan_nil : scan [] = .ok [] := by
  rw [scan]

/-- White space in front of a text is passed over. -/
theorem reads_blank {s : List Char} (hs : IsBlank s) (rest : List Char) : Reads s [] rest := by
  have hscan : scan (s ++ rest) = scan rest := by
    induction s with
    | nil => rfl
    | cons c s ih =>
      rw [List.cons_append, scan, if_pos (hs c List.mem_cons_self)]
      exact ih fun d hd => hs d (List.mem_cons_of_mem c hd)
  rw [Reads, hscan]
  cases scan rest <;> rfl

theorem reads_opening (rest : List Char) : Reads ['('] [.opening] rest := by
  show scan ('(' :: rest) = (scan rest).map (.opening :: ·)
  rw [scan, if_neg (by decide), if_pos rfl]

theorem reads_closing (rest : List Char) : Reads [')'] [.closing] rest := by
  show scan (')' :: rest) = (scan rest).map (.closing :: ·)
  rw [scan, if_neg (by decide), if_neg (by decide), if_pos rfl]

theorem reads_colon (rest : List Char) : Reads [':'] [.colon] rest := by
  show scan (':' :: rest) = (scan rest).map (.colon :: ·)
  rw [scan, if_neg (by decide), if_neg (by decide), if_neg (by decide), if_pos rfl]

theorem takeWhile_of_stops {rest : List Char} (h : Stops rest) :
    rest.takeWhile isWordChar = [] ∧ rest.dropWhile isWordChar = rest := by
  cases rest with
  | nil => exact ⟨rfl, rfl⟩
  | cons c cs =>
    have hc : ¬ isWordChar c = true := by
      rw [h c rfl]
      exact Bool.false_ne_true
    exact ⟨List.takeWhile_cons_of_neg hc, List.dropWhile_cons_of_neg hc⟩

/-- A word is read up to its last character. -/
theorem reads_word {word rest : List Char} (hw : IsWord word) (hrest : Stops rest) :
    Reads word [ofWord word rest] rest := by
  obtain ⟨c, cs, rfl⟩ := List.exists_cons_of_ne_nil hw.1
  have hc : isWordChar c = true := hw.2 c List.mem_cons_self
  have hcs : ∀ d ∈ cs, isWordChar d = true := fun d hd => hw.2 d (List.mem_cons_of_mem c hd)
  obtain ⟨htake, hdrop⟩ := takeWhile_of_stops hrest
  have hblank : ¬ isBlank c = true := by
    rw [isBlank_of_isWordChar hc]
    exact Bool.false_ne_true
  show scan (c :: cs ++ rest) = (scan rest).map (ofWord (c :: cs) rest :: ·)
  rw [List.cons_append, scan, if_neg hblank, if_neg (ne_of_isWordChar hc (by decide)),
    if_neg (ne_of_isWordChar hc (by decide)), if_neg (ne_of_isWordChar hc (by decide)),
    if_neg (ne_of_isWordChar hc (by decide)), if_pos hc]
  dsimp only
  rw [List.takeWhile_append_of_pos hcs, List.dropWhile_append_of_pos hcs, htake, hdrop,
    List.append_nil]

theorem reads_keyword {op : Operator} {word rest : List Char} (hw : Spells op word)
    (hrest : Stops rest) : Reads word [.keyword op] rest := by
  have h := reads_word (isWord_of_spells hw) hrest
  rwa [ofWord, keyword?_eq_some_iff.2 hw] at h

/-- A name in front of a colon names a field, white space aside. -/
theorem reads_field {name : String} {s : List Char} (hw : IsName name.toList) (hs : IsBlank s)
    (rest : List Char) : Reads name.toList [.field name] (s ++ ':' :: rest) := by
  have hcolon : colonFollows (s ++ ':' :: rest) = true := by
    rw [colonFollows_blank hs, colonFollows_cons (by decide)]
    rfl
  have hstops : Stops (s ++ ':' :: rest) := stops_blank_cons hs (by decide) rest
  have h := reads_word hw.1 hstops
  rwa [ofWord, keyword?_eq_none hw.2, hcolon, String.ofList_toList] at h

/-- A name that no colon follows is a value. -/
theorem reads_bare {text : String} {rest : List Char} (hw : IsName text.toList)
    (hrest : Closed rest) : Reads text.toList [.value text] rest := by
  have h := reads_word hw.1 hrest.1
  rwa [ofWord, keyword?_eq_none hw.2, hrest.2, String.ofList_toList] at h

/-! ### Quoted values -/

/-- The characters of a value between quotes: quotes and backslashes have a backslash before
them. -/
def quotedBody (cs : List Char) : List Char :=
  cs.flatMap fun c => if c = '"' ∨ c = '\\' then ['\\', c] else [c]

/-- A quoted value is read back up to its closing quote. -/
theorem quoted?_quotedBody (cs rest : List Char) :
    quoted? (quotedBody cs ++ '"' :: rest) = some (cs, rest) := by
  induction cs with
  | nil => rfl
  | cons c cs ih =>
    rw [quotedBody, List.flatMap_cons, ← quotedBody, List.append_assoc]
    by_cases hc : c = '"' ∨ c = '\\'
    · rw [if_pos hc]
      show quoted? ('\\' :: c :: (quotedBody cs ++ '"' :: rest)) = _
      rw [quoted?, ih]
      rfl
    · rw [if_neg hc]
      rw [not_or] at hc
      show quoted? (c :: (quotedBody cs ++ '"' :: rest)) = _
      rw [quoted?]
      · rw [if_neg hc.2, ih]
        rfl
      · exact hc.1
      · intro d more he
        exact absurd he hc.2

/-- A quote is read up to the one that closes it. -/
theorem scan_quote {cs text after : List Char} (h : quoted? cs = some (text, after)) :
    scan ('"' :: cs) = (scan after).map (.value (.ofList text) :: ·) := by
  rw [scan, if_neg (by decide), if_neg (by decide), if_neg (by decide), if_neg (by decide),
    if_pos rfl]
  split
  · rename_i hsome
    rw [h] at hsome
    cases hsome
    rfl
  · rename_i hnone
    rw [h] at hnone
    cases hnone

/-- A quoted value is read whatever its characters and the rest are. -/
theorem reads_quoted (text : String) (rest : List Char) :
    Reads ('"' :: (quotedBody text.toList ++ ['"'])) [.value text] rest := by
  have h : '"' :: (quotedBody text.toList ++ ['"']) ++ rest
      = '"' :: (quotedBody text.toList ++ '"' :: rest) := by
    simp
  rw [Reads, h, scan_quote (quoted?_quotedBody text.toList rest), String.ofList_toList]
  rfl

end BriefSearch.Token
