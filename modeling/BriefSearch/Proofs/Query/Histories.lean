import BriefSearch.Proofs.Query.Pairs

/-!
# Histories of parameters

Parameters come from none by pushing, setting and merging, in any order and any number of times,
and what is merged has come about in the same way.

* **`Parameters.History`** — such a sequence of changes;
* **`Parameters.History.names`** — the names it gives values to, in the order in which it does so;
* **`Parameters.History.wellFormed`**, **`Parameters.History.keys_parameters`** — what every history
  keeps: no name stands twice or without values, and names stand in the order of their first value;
* **`Parameters.history_invariant`** — the pairs after any history, and what setting a name then
  does to them;
* **`Parameters.history_merge_laws`** — merging is concatenation by name.
-/

namespace BriefSearch.Parameters

/-- The changes that parameters have come about by, the last one outermost. -/
inductive History where
  | new
  | push (before : History) (name value : String)
  | set (before : History) (name value : String)
  | merge (before other : History)

namespace History

/-- The parameters after the changes. -/
def parameters : History → Parameters
  | new => empty
  | push before name value => before.parameters.push name value
  | set before name value => before.parameters.set name value
  | merge before other => before.parameters.merge other.parameters

/-- The names that the changes give values to, one after the other; merging does so for the names
of the other history in their order there. -/
def names : History → List String
  | new => []
  | push before name _ => before.names ++ [name]
  | set before name _ => before.names ++ [name]
  | merge before other => before.names ++ other.names

/-- **Every history leaves well-formed parameters.** -/
theorem wellFormed (h : History) : h.parameters.WellFormed := by
  induction h with
  | new => exact wellFormed_empty
  | push before name value ih => exact ih.push name value
  | set before name value ih => exact ih.set name value
  | merge before other ih ihOther => exact ih.merge ihOther

/-- **Names stand in the order in which they first got a value.** -/
theorem keys_parameters (h : History) : h.parameters.entries.keys = distinct h.names := by
  induction h with
  | new => rfl
  | push before name value ih =>
    rw [parameters, Parameters.push, extend, OrderedMap.keys_alter, ih, names,
      distinct_append_singleton]
    simp only [mem_distinct]
  | set before name value ih =>
    rw [parameters, Parameters.set, OrderedMap.keys_insert, ih, names, distinct_append_singleton]
    simp only [mem_distinct]
  | merge before other ih ihOther =>
    rw [parameters, keys_merge before.wellFormed other.wellFormed, ih, ihOther, names,
      distinct_distinct_append, distinct_append_distinct]

end History

/-- **What every history keeps.**  Names are pairwise distinct and have values; parameters are empty
when they have no pairs; the values of a name are those paired with it, in order, and a name has
none when no pair has it.  The pairs of a name stand next to each other, and the names in the order
in which they first got a value.  Setting a name then puts a single pair in the place of its pairs,
which is the end if it has none, and leaves the others as they are. -/
theorem history_invariant (h : History) :
    let p := h.parameters
    p.entries.keys.Nodup ∧ (∀ e ∈ p.entries.entries, e.2 ≠ []) ∧
    (p.isEmpty = true ↔ p.toPairs = []) ∧
    (∀ k, p.get? k = if k ∈ p.toPairs.map (·.1) then some (paired k p.toPairs) else none) ∧
    p.entries.keys = distinct h.names ∧ distinct (p.toPairs.map (·.1)) = distinct h.names ∧
    ∀ k, ∃ before after, k ∉ before.map (·.1) ∧ k ∉ after.map (·.1) ∧
      p.toPairs = before ++ (paired k p.toPairs).map (k, ·) ++ after ∧
      (∀ v, (p.set k v).toPairs = before ++ [(k, v)] ++ after) ∧
      (k ∈ p.toPairs.map (·.1) ∨ after = []) := by
  intro p
  have hp : p.WellFormed := h.wellFormed
  have hkeys : p.entries.keys = distinct h.names := h.keys_parameters
  refine ⟨hp.nodup_keys, hp.values_ne_nil, hp.isEmpty_iff, hp.get?_eq, hkeys, ?_, hp.exists_block⟩
  rw [← hp.keys_eq, hkeys]

/-- Setting a name that was pushed and merged puts one pair where its first one stood. -/
example :
    (((History.new.push "a" "1").push "b" "2").merge (History.new.push "a" "3")).parameters.toPairs
      = [("a", "1"), ("a", "3"), ("b", "2")] ∧
    ((((History.new.push "a" "1").push "b" "2").merge
      (History.new.push "a" "3")).set "a" "4").parameters.toPairs = [("a", "4"), ("b", "2")] := by
  decide

/-- **Merging is concatenation by name.**  It is the same as pushing all pairs of the second one
after the other, it is associative and no parameters are neutral for it, the values of each name
are those of the first followed by those of the second, and parameters are rebuilt, with the order
of their names and values, from their pairs. -/
theorem history_merge_laws (a b c : History) :
    let p := a.parameters
    let q := b.parameters
    let r := c.parameters
    p.merge q = q.toPairs.foldl (fun p pair => p.push pair.1 pair.2) p ∧
    (p.merge q).merge r = p.merge (q.merge r) ∧
    p.merge empty = p ∧ empty.merge p = p ∧
    (∀ k, (p.merge q).get? k = Option.merge (· ++ ·) (p.get? k) (q.get? k)) ∧
    ofPairs p.toPairs = p := by
  intro p q r
  have hp : p.WellFormed := a.wellFormed
  have hq : q.WellFormed := b.wellFormed
  have hr : r.WellFormed := c.wellFormed
  exact ⟨merge_eq_pushAll p hq, merge_assoc hp hq hr, rfl, empty_merge hp, get?_merge p hq,
    ofPairs_toPairs hp⟩

end BriefSearch.Parameters
