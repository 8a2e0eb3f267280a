import BriefSearch.Filter.Basic
import BriefSearch.Proofs.Text.Words
import BriefSearch.Query.Escape

/-!
# What escaping leaves of a value

Passes over a value end at a text that no pass changes.  Such a text holds nothing that structures
a query:

* **`comma_notMem_escaped`** — no comma;
* **`keyword_notMem_words_escaped`** — no keyword among its words, be it at an end or inside.
-/

namespace BriefSearch

theorem Operator.space_notMem_word (op : Operator) : ' ' ∉ op.word.toList := by
  cases op <;> decide

namespace Escape

open Text

/-- The passes end where one more pass changes nothing. -/
theorem step_escaped (cs : List Char) : step (escaped cs) = escaped cs := by
  fun_induction escaped cs with
  | case1 cs h => exact h
  | case2 cs h ih => exact ih

/-! ### Texts that a pass leaves alone -/

theorem weight_replaced_le (cs : List Char) : weight (replaced cs) ≤ weight cs := by
  rcases replaced_eq_or_lighter cs with h | h
  · rw [h]
  · exact Nat.le_of_lt h

theorem replaced_eq_of_step_eq {cs : List Char} (h : step cs = cs) : replaced cs = cs := by
  rcases replaced_eq_or_lighter cs with hr | hr
  · exact hr
  · have hs : stripped (replaced cs) = cs := h
    rcases stripped_eq_or_lighter (replaced cs) with he | he
    · rw [← he, hs]
    · rw [hs] at he
      omega

theorem stripped_eq_of_step_eq {cs : List Char} (h : step cs = cs) : stripped cs = cs := by
  have hs : stripped (replaced cs) = cs := h
  rwa [replaced_eq_of_step_eq h] at hs

/-- Writing a space for something heavier changes the text. -/
theorem space_replaced_ne (front : List Char) (hf : 1 < weight front) (rest : List Char) :
    ' ' :: replaced rest ≠ front ++ rest := by
  intro h
  have hle := weight_replaced_le rest
  have heq : weight (' ' :: replaced rest) = weight (front ++ rest) := by rw [h]
  rw [weight_cons, if_neg (by decide), weight_append] at heq
  omega

/-- A text that replacing leaves alone has no comma. -/
theorem comma_notMem_of_replaced_eq {cs : List Char} (h : replaced cs = cs) : ',' ∉ cs := by
  fun_induction replaced cs with
  | case1 => exact List.not_mem_nil
  | case2 rest => exact absurd h (space_replaced_ne " AND ".toList (by decide) rest)
  | case3 rest => exact absurd h (space_replaced_ne " OR ".toList (by decide) rest)
  | case4 rest => exact absurd h (space_replaced_ne [','] (by decide) rest)
  | case5 c rest _ _ hc ih =>
    rw [List.mem_cons, not_or]
    exact ⟨fun he => hc he.symm, ih (List.cons.inj h).2⟩

/-- A text that replacing leaves alone has no keyword between spaces. -/
theorem occurrences_of_replaced_eq {cs : List Char} (op : Operator) (h : replaced cs = cs) :
    occurrences (spaced op.word.toList) cs = 0 := by
  fun_induction replaced cs with
  | case1 => cases op <;> rfl
  | case2 rest => exact absurd h (space_replaced_ne " AND ".toList (by decide) rest)
  | case3 rest => exact absurd h (space_replaced_ne " OR ".toList (by decide) rest)
  | case4 rest => exact absurd h (space_replaced_ne [','] (by decide) rest)
  | case5 c rest hand hor _ ih =>
    have hn : ¬ spaced op.word.toList <+: c :: rest := by
      rintro ⟨more, hmore⟩
      cases op with
      | and => exact hand more (List.cons.inj hmore).1.symm (List.cons.inj hmore).2.symm
      | or => exact hor more (List.cons.inj hmore).1.symm (List.cons.inj hmore).2.symm
    rw [occurrences_cons, if_neg hn, ih (List.cons.inj h).2]

/-- A text that stripping leaves alone has no keyword at an end. -/
theorem edgeStripped?_of_stripped_eq {cs : List Char} (op : Operator) (h : stripped cs = cs) :
    edgeStripped? op.word.toList cs = none := by
  have hnone : ∀ keyword, 1 < weight keyword → edgeStripped? keyword cs ≠ some cs := by
    intro keyword hk he
    exact absurd (edgeStripped?_lighter hk he) (Nat.lt_irrefl _)
  unfold stripped at h
  split at h
  · rename_i result hand
    rw [h] at hand
    exact absurd hand (hnone _ (by decide))
  · rename_i hand
    cases op with
    | and => exact hand
    | or =>
      cases hor : edgeStripped? ['O', 'R'] cs with
      | none => exact hor
      | some result =>
        rw [hor, Option.getD_some] at h
        rw [h] at hor
        exact absurd hor (hnone _ (by decide))

theorem edges_of_edgeStripped?_eq_none {keyword cs : List Char}
    (h : edgeStripped? keyword cs = none) :
    cs ≠ keyword ∧ ¬ keyword ++ [' '] <+: cs ∧ ¬ ' ' :: keyword <:+ cs := by
  unfold edgeStripped? at h
  split at h
  · exact absurd h (by simp)
  · rename_i hne
    split at h
    · exact absurd h (by simp)
    · rename_i hafter
      refine ⟨hne, ?_, ?_⟩
      · intro hp
        rw [afterKeyword?, if_pos (List.isPrefixOf_iff_prefix.2 hp)] at hafter
        exact absurd hafter (by simp)
      · intro hs
        rw [beforeKeyword?, if_pos (List.isSuffixOf_iff_suffix.2 hs)] at h
        exact absurd h (by simp)

theorem keyword_notMem_words_of_step_eq {cs : List Char} (op : Operator) (h : step cs = cs) :
    op.word.toList ∉ words cs := by
  intro hmem
  have hinside := occurrences_of_replaced_eq op (replaced_eq_of_step_eq h)
  obtain ⟨hall, hstart, hend⟩ := edges_of_edgeStripped?_eq_none
    (edgeStripped?_of_stripped_eq op (stripped_eq_of_step_eq h))
  -- Wherever a word can stand, replacing or stripping would have taken it.
  rcases place_of_mem_words op.space_notMem_word hmem with hp | hp | hp | hp
  · exact hall hp
  · exact hstart hp
  · exact hend hp
  · omega

/-! ### Escaped values -/

/-- **An escaped value holds no comma.** -/
theorem comma_notMem_escaped (cs : List Char) : ',' ∉ escaped cs :=
  comma_notMem_of_replaced_eq (replaced_eq_of_step_eq (step_escaped cs))

/-- **No word of an escaped value is a keyword.** -/
theorem keyword_notMem_words_escaped (op : Operator) (cs : List Char) :
    op.word.toList ∉ words (escaped cs) :=
  keyword_notMem_words_of_step_eq op (step_escaped cs)

end Escape

end BriefSearch
