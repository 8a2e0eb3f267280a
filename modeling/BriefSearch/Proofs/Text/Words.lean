import BriefSearch.Text.Basic
import Mathlib.Data.List.Infix

/-!
# Words between spaces

The words of a text are what stands between its spaces; two spaces in a row have the empty word
between them.  A word with a space on either side can be looked for as a mark, and where it is found
is decided by the words alone:

* **`occurrences_spaced`** — the mark occurs as often as the word is neither the first word of the
  text nor the last, occurrences that share a space counted apart;
* **`cut?_spaced`** — the mark is first found at the first such word;
* **`eq_append_of_cut?`**, **`not_infix_of_cut?`** — a text is cut at the first place of a mark;
* **`cut?_singleton`**, **`cut?_pair`**, **`cut?_of_second_notMem`** — and a mark of one or two
  characters is found there, and a longer one whose second character comes no earlier;
* **`occurs_iff`** — a mark occurs where it has an occurrence.
-/

namespace BriefSearch.Text

/-- What stands between the spaces of a text. -/
def words (cs : List Char) : List (List Char) :=
  cs.splitOn ' '

/-- A word with a space on either side. -/
def spaced (word : List Char) : List Char :=
  ' ' :: (word ++ [' '])

/-- The number of places at which a mark begins. -/
def occurrences (mark cs : List Char) : Nat :=
  cs.tails.countP mark.isPrefixOf

/-! ### Words -/

theorem words_ne_nil (cs : List Char) : words cs ≠ [] :=
  List.splitOn_ne_nil ' ' cs

theorem words_space (cs : List Char) : words (' ' :: cs) = [] :: words cs := by
  simp only [words, List.splitOn_cons_eq_if_modifyHead, beq_self_eq_true, if_true]

theorem words_cons {c : Char} (hc : c ≠ ' ') (cs : List Char) :
    words (c :: cs) = (words cs).modifyHead (c :: ·) := by
  rw [words, List.splitOn_cons_eq_if_modifyHead, if_neg (by simpa using hc)]
  rfl

/-- A space separates the words before it from the words behind it. -/
theorem words_append_space (as bs : List Char) :
    words (as ++ ' ' :: bs) = words as ++ words bs :=
  List.splitOn_append_cons_self as bs

theorem words_eq_singleton {word : List Char} (hw : ' ' ∉ word) : words word = [word] :=
  List.splitOn_eq_singleton hw

/-- The words with single spaces between them are the text. -/
theorem intercalate_words (cs : List Char) : [' '].intercalate (words cs) = cs :=
  List.intercalate_splitOn ' '

/-- Spaces around a word make it a word of the text. -/
theorem words_append_spaced {word : List Char} (hw : ' ' ∉ word) (as bs : List Char) :
    words (as ++ spaced word ++ bs) = words as ++ word :: words bs := by
  have h : as ++ spaced word ++ bs = as ++ ' ' :: (word ++ ' ' :: bs) := by
    simp [spaced]
  rw [h, words_append_space, words_append_space, words_eq_singleton hw, List.singleton_append]

/-- A text begins with a word and a space when that word is its first and not its last. -/
theorem word_space_prefix_iff {word cs : List Char} (hw : ' ' ∉ word) :
    word ++ [' '] <+: cs ↔ ∃ more, more ≠ [] ∧ words cs = word :: more := by
  constructor
  · rintro ⟨rest, rfl⟩
    refine ⟨words rest, words_ne_nil rest, ?_⟩
    rw [List.append_assoc, List.singleton_append, words_append_space, words_eq_singleton hw,
      List.singleton_append]
  · rintro ⟨more, hmore, h⟩
    refine ⟨[' '].intercalate more, ?_⟩
    rw [← intercalate_words cs, h, List.intercalate_cons_of_ne_nil hmore]

/-- A text ends in a space and its last word, unless that is its only word. -/
theorem space_word_suffix {word : List Char} {front : List (List Char)} (hf : front ≠ []) :
    ' ' :: word <:+ [' '].intercalate (front ++ [word]) := by
  induction front with
  | nil => exact absurd rfl hf
  | cons first front ih =>
    rw [List.cons_append, List.intercalate_cons_of_ne_nil (by simp), List.append_assoc]
    cases front with
    | nil =>
      rw [List.nil_append, List.intercalate_singleton]
      exact List.suffix_append first (' ' :: word)
    | cons second front =>
      exact ((ih (List.cons_ne_nil _ _)).trans (List.suffix_append [' '] _)).trans
        (List.suffix_append first _)

/-! ### Where a mark begins -/

theorem occurrences_nil {mark : List Char} (hm : mark ≠ []) : occurrences mark [] = 0 := by
  cases mark with
  | nil => exact absurd rfl hm
  | cons m ms => rfl

theorem occurrences_cons (mark : List Char) (c : Char) (cs : List Char) :
    occurrences mark (c :: cs)
      = (if mark <+: c :: cs then 1 else 0) + occurrences mark cs := by
  rw [occurrences, List.tails_cons, List.countP_cons, Nat.add_comm, occurrences]
  simp only [List.isPrefixOf_iff_prefix]

/-- An occurrence of a spaced word is a word of the text that is neither the first nor the last. -/
theorem occurrences_spaced {word : List Char} (hw : ' ' ∉ word) (cs : List Char) :
    occurrences (spaced word) cs = (words cs).tail.dropLast.count word := by
  induction cs with
  | nil => exact occurrences_nil (List.cons_ne_nil _ _)
  | cons c cs ih =>
    rw [occurrences_cons, ih]
    by_cases hc : c = ' '
    · subst hc
      have hp : spaced word <+: ' ' :: cs ↔ word ++ [' '] <+: cs := by
        rw [spaced, List.cons_prefix_cons, eq_self_iff_true, true_and]
      rw [words_space, List.tail_cons]
      -- The word behind the new space turns from the first word into one in the middle.
      rcases hws : words cs with _ | ⟨first, more⟩
      · exact absurd hws (words_ne_nil cs)
      · rcases more with _ | ⟨second, more⟩
        · have hn : ¬ spaced word <+: ' ' :: cs := by
            rw [hp, word_space_prefix_iff hw, hws]
            rintro ⟨more, hmore, h⟩
            exact hmore (List.cons.inj h).2.symm
          rw [if_neg hn]
          rfl
        · have hi : spaced word <+: ' ' :: cs ↔ first = word := by
            rw [hp, word_space_prefix_iff hw, hws]
            constructor
            · rintro ⟨more, -, h⟩
              exact (List.cons.inj h).1
            · rintro rfl
              exact ⟨second :: more, List.cons_ne_nil _ _, rfl⟩
          rw [List.tail_cons, List.dropLast_cons_of_ne_nil (List.cons_ne_nil _ _),
            List.count_cons, Nat.add_comm]
          simp only [hi, beq_iff_eq]
    · have hn : ¬ spaced word <+: c :: cs := by
        rw [spaced, List.cons_prefix_cons]
        exact fun h => hc h.1.symm
      rw [if_neg hn, Nat.zero_add, words_cons hc, List.tail_modifyHead]

/-- A word of a text is all of it, begins it, ends it or stands between spaces. -/
theorem place_of_mem_words {word cs : List Char} (hw : ' ' ∉ word) (h : word ∈ words cs) :
    cs = word ∨ word ++ [' '] <+: cs ∨ ' ' :: word <:+ cs ∨ 0 < occurrences (spaced word) cs := by
  rcases hws : words cs with _ | ⟨first, more⟩
  · exact absurd hws (words_ne_nil cs)
  · rcases List.eq_nil_or_concat more with rfl | ⟨middle, last, rfl⟩
    · rw [hws, List.mem_singleton] at h
      left
      rw [← intercalate_words cs, hws, List.intercalate_singleton, h]
    · rw [hws, List.concat_eq_append, List.mem_cons, List.mem_append, List.mem_singleton] at h
      right
      rcases h with rfl | hmiddle | rfl
      · left
        rw [word_space_prefix_iff hw]
        exact ⟨_, by simp, hws⟩
      · right; right
        rw [occurrences_spaced hw, hws, List.concat_eq_append, List.tail_cons,
          List.dropLast_concat]
        exact List.count_pos_iff.2 hmiddle
      · right; left
        rw [← intercalate_words cs, hws, List.concat_eq_append, ← List.cons_append]
        exact space_word_suffix (List.cons_ne_nil _ _)

/-! ### Finding a mark -/

theorem after?_eq_some {start cs rest : List Char} (h : cs = start ++ rest) :
    after? start cs = some rest := by
  subst h
  rw [after?, if_pos (List.isPrefixOf_iff_prefix.2 (List.prefix_append start rest)),
    List.drop_left]

theorem after?_eq_none {start cs : List Char} (h : ¬ start <+: cs) : after? start cs = none := by
  rw [after?, if_neg (fun hp => h (List.isPrefixOf_iff_prefix.1 hp))]

theorem eq_append_of_after? {start cs rest : List Char} (h : after? start cs = some rest) :
    cs = start ++ rest := by
  by_cases hp : start <+: cs
  · obtain ⟨more, rfl⟩ := hp
    rw [after?_eq_some rfl] at h
    rw [Option.some.inj h]
  · rw [after?_eq_none hp] at h
    cases h

theorem not_prefix_of_after? {start cs : List Char} (h : after? start cs = none) :
    ¬ start <+: cs := by
  rintro ⟨rest, hrest⟩
  rw [after?_eq_some hrest.symm] at h
  cases h

/-- A text is cut at the first place of the mark. -/
theorem eq_append_of_cut? {mark cs before behind : List Char} (hm : mark ≠ [])
    (h : cut? mark cs = some (before, behind)) :
    cs = before ++ mark ++ behind ∧ ¬ mark <:+: before := by
  induction cs generalizing before with
  | nil => cases h
  | cons c cs ih =>
    rw [cut?] at h
    cases hafter : after? mark (c :: cs) with
    | some rest =>
      rw [hafter] at h
      cases h
      exact ⟨eq_append_of_after? hafter, fun hmark => hm (List.infix_nil.1 hmark)⟩
    | none =>
      rw [hafter] at h
      obtain ⟨⟨before', behind'⟩, hcut, he⟩ := Option.map_eq_some_iff.1 h
      cases he
      obtain ⟨rfl, hfree⟩ := ih hcut
      refine ⟨rfl, ?_⟩
      rw [List.infix_cons_iff, not_or]
      refine ⟨fun hp => not_prefix_of_after? hafter (hp.trans ?_), hfree⟩
      rw [List.append_assoc]
      exact List.prefix_append (c :: before') _

/-- A text that is not cut does not have the mark. -/
theorem not_infix_of_cut? {mark cs : List Char} (hm : mark ≠ []) (h : cut? mark cs = none) :
    ¬ mark <:+: cs := by
  induction cs with
  | nil => exact fun hmark => hm (List.infix_nil.1 hmark)
  | cons c cs ih =>
    rw [cut?] at h
    cases hafter : after? mark (c :: cs) with
    | some rest =>
      rw [hafter] at h
      cases h
    | none =>
      rw [hafter] at h
      rw [List.infix_cons_iff, not_or]
      exact ⟨not_prefix_of_after? hafter, ih (Option.map_eq_none_iff.1 h)⟩

/-- A mark of at least one character is found when it begins somewhere. -/
theorem occurs_iff {mark : List Char} (hm : mark ≠ []) (cs : List Char) :
    occurs mark cs = true ↔ 0 < occurrences mark cs := by
  induction cs with
  | nil =>
    rw [occurrences_nil hm]
    simp [occurs, cut?]
  | cons c cs ih =>
    rw [occurrences_cons, occurs, cut?]
    by_cases hp : mark <+: c :: cs
    · obtain ⟨rest, hrest⟩ := hp
      rw [after?_eq_some hrest.symm, if_pos ⟨rest, hrest⟩]
      simp only [Option.isSome_some, true_iff]
      omega
    · rw [after?_eq_none hp, if_neg hp, Nat.zero_add, ← ih, occurs, Option.isSome_map]

/-- A single character is first found behind a text without it. -/
theorem cut?_singleton {m : Char} {before : List Char} (hb : m ∉ before) (behind : List Char) :
    cut? [m] (before ++ m :: behind) = some (before, behind) := by
  induction before with
  | nil =>
    have h : after? [m] (m :: behind) = some behind := after?_eq_some rfl
    rw [List.nil_append, cut?, h]
  | cons c before ih =>
    rw [List.mem_cons, not_or] at hb
    have hn : ¬ [m] <+: c :: (before ++ m :: behind) := by
      rw [List.cons_prefix_cons]
      exact fun h => hb.1 h.1
    rw [List.cons_append, cut?, after?_eq_none hn, ih hb.2]
    rfl

/-- A mark of two different characters is first found behind a text without it. -/
theorem cut?_pair {m m' : Char} (hne : m ≠ m') {before : List Char} (hb : ¬ [m, m'] <:+: before)
    (behind : List Char) :
    cut? [m, m'] (before ++ m :: m' :: behind) = some (before, behind) := by
  induction before with
  | nil =>
    have h : after? [m, m'] (m :: m' :: behind) = some behind := after?_eq_some rfl
    rw [List.nil_append, cut?, h]
  | cons c before ih =>
    have hn : ¬ [m, m'] <+: c :: (before ++ m :: m' :: behind) := by
      rw [List.cons_prefix_cons]
      rintro ⟨rfl, hnext⟩
      -- The second character of the mark is neither in the text nor the first of the mark.
      cases before with
      | nil => exact hne (List.cons_prefix_cons.1 hnext).1.symm
      | cons d before =>
        obtain ⟨rfl, -⟩ := List.cons_prefix_cons.1 hnext
        exact hb (List.prefix_append [m, m'] before).isInfix
    have hrest : ¬ [m, m'] <:+: before := fun h => hb (h.trans (List.suffix_cons c before).isInfix)
    rw [List.cons_append, cut?, after?_eq_none hn, ih hrest]
    rfl

/-- A mark whose second character does not occur before it is first found there. -/
theorem cut?_of_second_notMem {m m' : Char} (hne : m ≠ m') (ms : List Char) {before : List Char}
    (hb : m' ∉ before) (behind : List Char) :
    cut? (m :: m' :: ms) (before ++ (m :: m' :: ms) ++ behind) = some (before, behind) := by
  induction before with
  | nil =>
    have h : after? (m :: m' :: ms) (m :: (m' :: ms ++ behind)) = some behind :=
      after?_eq_some rfl
    rw [List.nil_append, List.cons_append, cut?, h]
  | cons c before ih =>
    rw [List.mem_cons, not_or] at hb
    have hn : ¬ m :: m' :: ms <+: c :: (before ++ (m :: m' :: ms) ++ behind) := by
      rw [List.cons_prefix_cons]
      rintro ⟨-, hnext⟩
      -- The second character would be the first of the mark or stand before it.
      cases before with
      | nil => exact hne (List.cons_prefix_cons.1 hnext).1.symm
      | cons d before => exact hb.2 (List.mem_cons.2 (.inl (List.cons_prefix_cons.1 hnext).1))
    rw [List.cons_append, List.cons_append, cut?, after?_eq_none hn, ih hb.2]
    rfl

/-- A spaced word is first found behind a text in which it could only be the first word. -/
theorem cut?_spaced {word : List Char} (hw : ' ' ∉ word) {before : List Char}
    (hb : word ∉ (words before).tail) (behind : List Char) :
    cut? (spaced word) (before ++ spaced word ++ behind) = some (before, behind) := by
  induction before with
  | nil =>
    show cut? (spaced word) (' ' :: (word ++ [' '] ++ behind)) = some ([], behind)
    have h : after? (spaced word) (' ' :: (word ++ [' '] ++ behind)) = some behind :=
      after?_eq_some rfl
    rw [cut?, h]
  | cons c before ih =>
    have hfree : word ∉ (words before).tail := by
      intro hmem
      by_cases hc : c = ' '
      · subst hc
        rw [words_space] at hb
        exact hb (List.mem_of_mem_tail hmem)
      · rw [words_cons hc, List.tail_modifyHead] at hb
        exact hb hmem
    have hn : ¬ spaced word <+: c :: (before ++ spaced word ++ behind) := by
      intro hp
      rw [spaced, List.cons_prefix_cons] at hp
      obtain ⟨rfl, hp⟩ := hp
      obtain ⟨more, -, hmore⟩ := (word_space_prefix_iff hw).1 hp
      rw [← spaced, words_append_spaced hw] at hmore
      rw [words_space, List.tail_cons] at hb
      rcases hws : words before with _ | ⟨first, rest⟩
      · exact words_ne_nil before hws
      · rw [hws, List.cons_append] at hmore
        rw [hws, (List.cons.inj hmore).1] at hb
        exact hb List.mem_cons_self
    rw [List.cons_append, List.cons_append, cut?, after?_eq_none hn, ih hfree]
    rfl

end BriefSearch.Text
