import BriefSearch.Proofs.Query.Escape
import Mathlib.Logic.Function.Iterate

/-!
# Escaping is a filter on words

The passes over a value look at it character by character, and one pass may leave keywords for the
next one.  On the words of the value they are a filter: commas end words as spaces do, keywords drop
out, and every other word stays as it is and where it is.

* **`pieces`** — what stands between the spaces and commas of a text;
* **`content`** — the words that are neither empty nor keywords;
* **`content_pieces_step`** — the content of a text is an invariant of the passes;
* **`escaped_eq_self_iff`** — the texts that no pass changes are those without commas and keywords;
* **`escapeValue_filters_words`** — hence what escaping makes of the words of a value.
-/

namespace BriefSearch

open Text

/-- What stands between the spaces and commas of a text. -/
def pieces (cs : List Char) : List (List Char) :=
  cs.splitOnP fun c => c == ' ' || c == ','

/-- The words that are neither empty nor keywords. -/
def content (ws : List (List Char)) : List (List Char) :=
  ws.filter fun w => w ≠ [] ∧ w ≠ "AND".toList ∧ w ≠ "OR".toList

/-! ### Pieces and their content -/

/-- A space parts what is before it from what is behind it. -/
theorem content_pieces_space (as bs : List Char) :
    content (pieces (as ++ ' ' :: bs)) = content (pieces as) ++ content (pieces bs) := by
  have hsplit : pieces (as ++ ' ' :: bs) = pieces as ++ pieces bs :=
    List.splitOnP_append_cons as bs rfl
  rw [hsplit, content, List.filter_append, content, content]

/-- So does a comma. -/
theorem content_pieces_comma (as bs : List Char) :
    content (pieces (as ++ ',' :: bs)) = content (pieces as) ++ content (pieces bs) := by
  have hsplit : pieces (as ++ ',' :: bs) = pieces as ++ pieces bs :=
    List.splitOnP_append_cons as bs rfl
  rw [hsplit, content, List.filter_append, content, content]

theorem content_pieces_keyword (op : Operator) : content (pieces op.word.toList) = [] := by
  cases op <;> decide

/-- Without commas the pieces of a text are its words. -/
theorem pieces_eq_words {cs : List Char} (h : ',' ∉ cs) : pieces cs = words cs := by
  induction cs with
  | nil => rfl
  | cons c cs ih =>
    have hc : c ≠ ',' := fun he => h (he ▸ List.mem_cons_self)
    have hcs : pieces cs = words cs := ih fun hmem => h (List.mem_cons_of_mem c hmem)
    have hsep : (c == ' ' || c == ',') = (c == ' ') := by simp [hc]
    rw [words, List.splitOn_eq_splitOnP, pieces, List.splitOnP_cons_eq_if_modifyHead,
      List.splitOnP_cons_eq_if_modifyHead, ← pieces, ← List.splitOn_eq_splitOnP, ← words, hcs]
    simp only [hsep]

/-- Where no word is a keyword, the content are the words that are not empty. -/
theorem content_eq_filter {ws : List (List Char)} (h : ∀ op : Operator, op.word.toList ∉ ws) :
    content ws = ws.filter (· ≠ []) := by
  refine List.filter_congr fun w hw => ?_
  have hand : w ≠ "AND".toList := fun he => h .and (he ▸ hw)
  have hor : w ≠ "OR".toList := fun he => h .or (he ▸ hw)
  exact decide_eq_decide.2 ⟨fun hw => hw.1, fun hw => ⟨hw, hand, hor⟩⟩

namespace Escape

/-! ### The content is an invariant -/

/-- A keyword between two spaces has no content, nor have the spaces. -/
theorem content_pieces_spaced (op : Operator) (as bs : List Char) :
    content (pieces (as ++ ' ' :: (op.word.toList ++ ' ' :: bs)))
      = content (pieces as) ++ content (pieces bs) := by
  rw [content_pieces_space, content_pieces_space, content_pieces_keyword, List.nil_append]

/-- Replacing keeps the content, whatever text stands before the place where it begins. -/
theorem content_pieces_append_replaced (cs : List Char) :
    ∀ as, content (pieces (as ++ replaced cs)) = content (pieces (as ++ cs)) := by
  -- The characters that are passed over one by one go to the text before.
  fun_induction replaced cs with
  | case1 =>
    intro as
    rfl
  | case2 rest ih =>
    intro as
    have hrest : content (pieces (replaced rest)) = content (pieces rest) := ih []
    rw [content_pieces_space, hrest]
    exact (content_pieces_spaced .and as rest).symm
  | case3 rest ih =>
    intro as
    have hrest : content (pieces (replaced rest)) = content (pieces rest) := ih []
    rw [content_pieces_space, hrest]
    exact (content_pieces_spaced .or as rest).symm
  | case4 rest ih =>
    intro as
    have hrest : content (pieces (replaced rest)) = content (pieces rest) := ih []
    rw [content_pieces_space, content_pieces_comma, hrest]
  | case5 c rest _ _ _ ih =>
    intro as
    have hrest := ih (as ++ [c])
    rw [List.append_assoc, List.append_assoc] at hrest
    exact hrest

theorem eq_of_afterKeyword? {keyword cs rest : List Char}
    (h : afterKeyword? keyword cs = some rest) : cs = keyword ++ ' ' :: rest := by
  unfold afterKeyword? at h
  split at h
  · rename_i hp
    obtain ⟨tail, rfl⟩ := List.isPrefixOf_iff_prefix.1 hp
    have hlen : (keyword ++ [' ']).length = keyword.length + 1 := by simp
    rw [List.drop_left' hlen, Option.some.injEq] at h
    rw [h, List.append_assoc]
    rfl
  · cases h

theorem eq_of_beforeKeyword? {keyword cs rest : List Char}
    (h : beforeKeyword? keyword cs = some rest) : cs = rest ++ ' ' :: keyword := by
  unfold beforeKeyword? at h
  split at h
  · rename_i hs
    obtain ⟨start, rfl⟩ := List.isSuffixOf_iff_suffix.1 hs
    have hlen : start.length = (start ++ ' ' :: keyword).length - (keyword.length + 1) := by
      simp
    rw [List.take_left' hlen, Option.some.injEq] at h
    rw [h]
  · cases h

/-- What an end loses to stripping is a keyword. -/
theorem content_pieces_edgeStripped? (op : Operator) {cs result : List Char}
    (h : edgeStripped? op.word.toList cs = some result) :
    content (pieces result) = content (pieces cs) := by
  unfold edgeStripped? at h
  split at h
  · rename_i hall
    cases h
    rw [hall, content_pieces_keyword]
    rfl
  · split at h
    · rename_i rest hafter
      cases h
      have hspace : content (pieces (' ' :: rest)) = content (pieces rest) :=
        content_pieces_space [] rest
      rw [eq_of_afterKeyword? hafter, hspace, content_pieces_space, content_pieces_keyword,
        List.nil_append]
    · obtain ⟨rest, hbefore, rfl⟩ := Option.map_eq_some_iff.1 h
      rw [eq_of_beforeKeyword? hbefore, content_pieces_space, content_pieces_space,
        content_pieces_keyword]
      rfl

theorem content_pieces_stripped (cs : List Char) :
    content (pieces (stripped cs)) = content (pieces cs) := by
  unfold stripped
  split
  · rename_i result hand
    exact content_pieces_edgeStripped? .and hand
  · cases hor : edgeStripped? ['O', 'R'] cs with
    | none => rfl
    | some result => exact content_pieces_edgeStripped? .or hor

/-- **A pass keeps the content of a text.** -/
theorem content_pieces_step (cs : List Char) :
    content (pieces (step cs)) = content (pieces cs) := by
  rw [step, content_pieces_stripped]
  exact content_pieces_append_replaced cs []

/-- So do all passes together. -/
theorem content_pieces_escaped (cs : List Char) :
    content (pieces (escaped cs)) = content (pieces cs) := by
  fun_induction escaped cs with
  | case1 cs h => rfl
  | case2 cs h ih => rw [ih, content_pieces_step]

/-- The passes come to their end after no more of them than the text is heavy. -/
theorem exists_iterate_eq_escaped (cs : List Char) :
    ∃ passes, passes ≤ weight cs ∧ step^[passes] cs = escaped cs := by
  fun_induction escaped cs with
  | case1 cs h => exact ⟨0, Nat.zero_le _, rfl⟩
  | case2 cs h ih =>
    obtain ⟨passes, hle, hpasses⟩ := ih
    have hlt : weight (step cs) < weight cs := weight_step_lt h
    refine ⟨passes + 1, by omega, ?_⟩
    rw [Function.iterate_succ_apply, hpasses]

/-! ### The texts that no pass changes -/

/-- A keyword between spaces is a word that does not come first. -/
theorem keyword_mem_tail_words (op : Operator) (rest : List Char) :
    op.word.toList ∈ (words (spaced op.word.toList ++ rest)).tail := by
  have hsplit := words_append_spaced op.space_notMem_word [] rest
  rw [List.nil_append] at hsplit
  rw [hsplit]
  exact List.mem_cons_self

/-- Without commas, and without keywords behind a space, there is nothing to replace. -/
theorem replaced_eq_self {cs : List Char} (hcomma : ',' ∉ cs)
    (hwords : ∀ op : Operator, op.word.toList ∉ (words cs).tail) : replaced cs = cs := by
  fun_induction replaced cs with
  | case1 => rfl
  | case2 rest => exact absurd (keyword_mem_tail_words .and rest) (hwords .and)
  | case3 rest => exact absurd (keyword_mem_tail_words .or rest) (hwords .or)
  | case4 rest => exact absurd List.mem_cons_self hcomma
  | case5 c rest _ _ _ ih =>
    have hrest : ∀ op : Operator, op.word.toList ∉ (words rest).tail := by
      intro op hmem
      apply hwords op
      by_cases hc : c = ' '
      · subst hc
        rw [words_space]
        exact List.mem_of_mem_tail hmem
      · rw [words_cons hc, List.tail_modifyHead]
        exact hmem
    rw [ih (fun hmem => hcomma (List.mem_cons_of_mem c hmem)) hrest]

/-- Where no word is a keyword, none is at an end. -/
theorem edgeStripped?_eq_none {op : Operator} {cs : List Char} (h : op.word.toList ∉ words cs) :
    edgeStripped? op.word.toList cs = none := by
  cases hresult : edgeStripped? op.word.toList cs with
  | none => rfl
  | some result =>
    refine absurd ?_ h
    unfold edgeStripped? at hresult
    split at hresult
    · rename_i hall
      rw [hall, words_eq_singleton op.space_notMem_word]
      exact List.mem_cons_self
    · split at hresult
      · rename_i rest hafter
        rw [eq_of_afterKeyword? hafter, words_append_space,
          words_eq_singleton op.space_notMem_word]
        exact List.mem_cons_self
      · obtain ⟨rest, hbefore, -⟩ := Option.map_eq_some_iff.1 hresult
        rw [eq_of_beforeKeyword? hbefore, words_append_space,
          words_eq_singleton op.space_notMem_word]
        exact List.mem_append_right _ List.mem_cons_self

theorem step_eq_self {cs : List Char} (hcomma : ',' ∉ cs)
    (hwords : ∀ op : Operator, op.word.toList ∉ words cs) : step cs = cs := by
  have hand : edgeStripped? ['A', 'N', 'D'] cs = none := edgeStripped?_eq_none (hwords .and)
  have hor : edgeStripped? ['O', 'R'] cs = none := edgeStripped?_eq_none (hwords .or)
  rw [step, replaced_eq_self hcomma fun op hmem => hwords op (List.mem_of_mem_tail hmem), stripped,
    hand, hor]
  rfl

/-- **No pass changes a text** when it has neither a comma nor a keyword among its words. -/
theorem escaped_eq_self_iff {cs : List Char} :
    escaped cs = cs ↔ ',' ∉ cs ∧ ∀ op : Operator, op.word.toList ∉ words cs := by
  constructor
  · intro h
    refine ⟨?_, fun op => ?_⟩
    · rw [← h]
      exact comma_notMem_escaped cs
    · rw [← h]
      exact keyword_notMem_words_escaped op cs
  · rintro ⟨hcomma, hwords⟩
    rw [escaped, if_pos (step_eq_self hcomma hwords)]

/-! ### Texts that structure nothing -/

/-- A text that a query can take in: nothing in it ends the values, joins two of them, or would
join two with a neighbour's help. -/
structure Inert (cs : List Char) : Prop where
  comma : ',' ∉ cs
  /-- No keyword stands between spaces. -/
  inside (op : Operator) : ¬ spaced op.word.toList <:+: cs
  /-- The text is not a keyword itself. -/
  alone (op : Operator) : cs ≠ op.word.toList
  /-- It does not begin with a keyword. -/
  start (op : Operator) : ¬ op.word.toList ++ [' '] <+: cs
  /-- It does not end in a keyword. -/
  ending (op : Operator) : ¬ ' ' :: op.word.toList <:+ cs

theorem inert_of_notMem {cs : List Char} (hcomma : ',' ∉ cs)
    (hwords : ∀ op : Operator, op.word.toList ∉ words cs) : Inert cs where
  comma := hcomma
  inside op := by
    rintro ⟨as, bs, rfl⟩
    apply hwords op
    rw [words_append_spaced op.space_notMem_word]
    exact List.mem_append_right _ List.mem_cons_self
  alone op := by
    rintro rfl
    apply hwords op
    rw [words_eq_singleton op.space_notMem_word]
    exact List.mem_cons_self
  start op := by
    intro hp
    obtain ⟨more, -, hmore⟩ := (word_space_prefix_iff op.space_notMem_word).1 hp
    apply hwords op
    rw [hmore]
    exact List.mem_cons_self
  ending op := by
    rintro ⟨as, rfl⟩
    apply hwords op
    rw [words_append_space, words_eq_singleton op.space_notMem_word]
    exact List.mem_append_right _ List.mem_cons_self

end Escape

/-- **Escaping removes commas and keywords and nothing else.**  The passes over a value reach a text
that one more pass does not change.  The words of that text which are not empty are those between
the spaces and commas of the value, in order and unchanged, without the ones that are `AND` or `OR`;
so nothing of what structures a query is left.  A value stays as it is exactly when it has no comma
and no keyword among its words, and escaping twice is escaping once. -/
theorem escapeValue_filters_words (value : String) :
    (∃ passes, passes ≤ Escape.weight value.toList ∧
      Escape.step^[passes] value.toList = (escapeValue value).toList) ∧
    Escape.step (escapeValue value).toList = (escapeValue value).toList ∧
    (words (escapeValue value).toList).filter (· ≠ [])
      = (pieces value.toList).filter (fun w => w ≠ [] ∧ w ≠ "AND".toList ∧ w ≠ "OR".toList) ∧
    Escape.Inert (escapeValue value).toList ∧
    (escapeValue value = value ↔
      ',' ∉ value.toList ∧ ∀ op : Operator, op.word.toList ∉ words value.toList) ∧
    escapeValue (escapeValue value) = escapeValue value := by
  have hlist : (escapeValue value).toList = Escape.escaped value.toList := by
    rw [escapeValue, String.toList_ofList]
  have hcomma := Escape.comma_notMem_escaped value.toList
  have hwords := fun op => Escape.keyword_notMem_words_escaped op value.toList
  have hself : ∀ v : String, escapeValue v = v ↔ Escape.escaped v.toList = v.toList := by
    intro v
    rw [← String.toList_inj, escapeValue, String.toList_ofList]
  refine ⟨?_, ?_, ?_, ?_, ?_, ?_⟩
  · rw [hlist]
    exact Escape.exists_iterate_eq_escaped value.toList
  · rw [hlist]
    exact Escape.step_escaped value.toList
  · have hcontent := Escape.content_pieces_escaped value.toList
    rw [pieces_eq_words hcomma, content_eq_filter hwords] at hcontent
    rw [hlist]
    exact hcontent
  · rw [hlist]
    exact Escape.inert_of_notMem hcomma hwords
  · rw [hself, Escape.escaped_eq_self_iff]
  · rw [hself, Escape.escaped_eq_self_iff, hlist]
    exact ⟨hcomma, hwords⟩

/-- Two keywords in a row share a space, and commas hide one: both are left for a second pass. -/
example : escapeValue "a AND AND b,OR,c d" = "a b c d" := by
  decide +kernel

end BriefSearch
