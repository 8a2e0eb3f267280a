import BriefSearch.Query.Group
import Mathlib.Data.List.Basic

/-!
# Groups hold the filters of their trees

Putting statements into groups loses no filter, brings none in and keeps their order.

* **`absorbed_group_eq_ok_iff`**, **`ofFilters_eq_ok_iff`** — which groups may be nested, and what
  groups filters form;
* **`absorbedAll_eq_leaves`** — what a group absorbs are the filters below it;
* **`flatMap_filters_ofStatements`** — the groups of statements hold the filters of the trees.
-/

namespace BriefSearch.Group

/-! ### When statements have groups -/

theorem absorbed_group_eq_ok_iff {op inner : Operator} {statements : List Statement}
    {filters : List Filter} :
    absorbed op (.group inner statements) = .ok filters ↔
      (statements.length = 1 ∨ inner = op) ∧ absorbedAll op statements = .ok filters := by
  rw [absorbed]
  split
  · rename_i hplace
    exact ⟨fun h => ⟨hplace, h⟩, fun h => h.2⟩
  · rename_i hplace
    exact ⟨fun h => (by cases h), fun h => absurd h.1 hplace⟩

theorem absorbedAll_cons_eq_ok_iff {op : Operator} {s : Statement} {rest : List Statement}
    {filters : List Filter} :
    absorbedAll op (s :: rest) = .ok filters ↔ ∃ first more, absorbed op s = .ok first ∧
      absorbedAll op rest = .ok more ∧ first ++ more = filters := by
  rw [absorbedAll]
  cases absorbed op s with
  | error shape => simp
  | ok first =>
    cases absorbedAll op rest with
    | error shape => simp [Except.map]
    | ok more => simp [Except.map]

/-- Filters on one field form a group, and filters on several fields form one each if AND joins
them. -/
theorem ofFilters_eq_ok_iff {op : Operator} {filters : List Filter} {groups : List Group} :
    ofFilters op filters = .ok groups ↔
      ((distinct (filters.map (·.name))).length ≤ 1 ∧ groups = [⟨op, filters⟩]) ∨
      (1 < (distinct (filters.map (·.name))).length ∧ op = .and ∧
        groups = filters.map single) := by
  unfold ofFilters
  dsimp only
  by_cases hone : (distinct (filters.map (·.name))).length ≤ 1
  · rw [if_pos hone]
    simp only [hone, Nat.not_lt.2 hone, Except.ok.injEq, true_and, false_and, or_false]
    exact eq_comm
  · rw [if_neg hone]
    have hmany := Nat.lt_of_not_le hone
    cases op with
    | and =>
      simp only [hone, hmany, Except.ok.injEq, true_and, false_and, false_or]
      exact eq_comm
    | or => simp [hone]

theorem ofStatement_group_eq_ok_iff {op : Operator} {statements : List Statement}
    {groups : List Group} :
    ofStatement (.group op statements) = .ok groups ↔
      ∃ filters, absorbedAll op statements = .ok filters ∧ ofFilters op filters = .ok groups := by
  rw [ofStatement]
  cases absorbedAll op statements with
  | error shape => simp
  | ok filters => simp

theorem ofStatements_cons_eq_ok_iff {s : Statement} {rest : List Statement}
    {groups : List Group} :
    ofStatements (s :: rest) = .ok groups ↔ ∃ first more, ofStatement s = .ok first ∧
      ofStatements rest = .ok more ∧ first ++ more = groups := by
  rw [ofStatements]
  cases ofStatement s with
  | error shape => simp
  | ok first =>
    cases ofStatements rest with
    | error shape => simp [Except.map]
    | ok more => simp [Except.map]

/-! ### The filters of groups -/

mutual

theorem absorbed_eq_leaves (op : Operator) :
    ∀ (s : Statement) {filters : List Filter}, absorbed op s = .ok filters → filters = s.leaves
  | .filter f, filters, h => by
    rw [absorbed] at h
    cases h
    rfl
  | .group inner statements, filters, h => by
    obtain ⟨-, hall⟩ := absorbed_group_eq_ok_iff.1 h
    rw [Statement.leaves]
    exact absorbedAll_eq_leaves op statements hall

theorem absorbedAll_eq_leaves (op : Operator) :
    ∀ (statements : List Statement) {filters : List Filter},
      absorbedAll op statements = .ok filters → filters = Statement.leavesOfAll statements
  | [], filters, h => by
    rw [absorbedAll] at h
    cases h
    rfl
  | s :: rest, filters, h => by
    obtain ⟨first, more, hfirst, hmore, rfl⟩ := absorbedAll_cons_eq_ok_iff.1 h
    rw [Statement.leavesOfAll, absorbed_eq_leaves op s hfirst,
      absorbedAll_eq_leaves op rest hmore]

end

theorem flatMap_filters_single (filters : List Filter) :
    (filters.map single).flatMap (·.filters) = filters := by
  rw [List.flatMap_map]
  exact List.flatMap_singleton' filters

theorem flatMap_filters_ofFilters {op : Operator} {filters : List Filter} {groups : List Group}
    (h : ofFilters op filters = .ok groups) : groups.flatMap (·.filters) = filters := by
  rcases ofFilters_eq_ok_iff.1 h with ⟨-, rfl⟩ | ⟨-, -, rfl⟩
  · exact List.flatMap_singleton _ _
  · exact flatMap_filters_single filters

theorem flatMap_filters_ofStatement {s : Statement} {groups : List Group}
    (h : ofStatement s = .ok groups) : groups.flatMap (·.filters) = s.leaves := by
  cases s with
  | filter f =>
    rw [ofStatement] at h
    cases h
    rfl
  | group op statements =>
    obtain ⟨filters, hfilters, hgroups⟩ := ofStatement_group_eq_ok_iff.1 h
    rw [flatMap_filters_ofFilters hgroups, Statement.leaves,
      absorbedAll_eq_leaves op statements hfilters]

/-- **The groups hold the filters of the trees**, each once and in order. -/
theorem flatMap_filters_ofStatements {statements : List Statement} {groups : List Group}
    (h : ofStatements statements = .ok groups) :
    groups.flatMap (·.filters) = Statement.leavesOfAll statements := by
  induction statements generalizing groups with
  | nil =>
    rw [ofStatements] at h
    cases h
    rfl
  | cons s rest ih =>
    obtain ⟨first, more, hfirst, hmore, rfl⟩ := ofStatements_cons_eq_ok_iff.1 h
    rw [List.flatMap_append, flatMap_filters_ofStatement hfirst, ih hmore, Statement.leavesOfAll]

end BriefSearch.Group
