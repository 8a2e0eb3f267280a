import BriefSearch.Query.Compile
import Mathlib.Data.List.Forall2

/-!
# The queries that statements compile to

Parameters that carry queries alone are the list of those queries, so that compiling is checking the
shapes of all trees and then writing one query for each group.

* **`commonField_eq_ok_iff`** — the groups that are on one field with a name;
* **`mapM_eq_ok_iff`** — what a list succeeds with, item by item;
* **`query_eq_ok_iff`** — the query of a group;
* **`mapM_query_eq_ok_iff`** — the queries of groups;
* **`compile_eq_ok_iff`**, **`compile_filter`** — the parameters of statements and of one filter.
-/

namespace BriefSearch

/-! ### Groups on one field -/

/-- A group has a common field when it has filters and all are on that field, which has a name. -/
theorem Group.commonField_eq_ok_iff {g : Group} {name : String} :
    g.commonField = .ok name ↔
      g.filters ≠ [] ∧ name ≠ "" ∧ ∀ f ∈ g.filters, f.name = name := by
  rw [Group.commonField]
  rcases g.filters with _ | ⟨first, rest⟩
  · simp
  · simp only [ne_eq, reduceCtorEq, not_false_eq_true, true_and, List.forall_mem_cons]
    by_cases hfirst : first.name = ""
    · rw [if_pos hfirst]
      simp only [reduceCtorEq, false_iff]
      rintro ⟨hname, he, -⟩
      exact hname (he.symm.trans hfirst)
    · rw [if_neg hfirst]
      split
      · rename_i other hother
        have hne : other.name ≠ first.name := by simpa using List.find?_some hother
        simp only [reduceCtorEq, false_iff]
        rintro ⟨-, he, hrest⟩
        exact hne ((hrest other (List.mem_of_find?_eq_some hother)).trans he.symm)
      · rename_i hnone
        have hall : ∀ f ∈ rest, f.name = first.name := by simpa using hnone
        constructor
        · intro h
          cases h
          exact ⟨hfirst, rfl, hall⟩
        · rintro ⟨-, rfl, -⟩
          rfl

theorem Group.field?_of_commonField {g : Group} {name : String} (h : g.commonField = .ok name) :
    g.field? = some name := by
  obtain ⟨hne, -, hall⟩ := Group.commonField_eq_ok_iff.1 h
  obtain ⟨first, rest, hg⟩ := List.exists_cons_of_ne_nil hne
  rw [hg] at hall
  rw [Group.field?, hg, List.head?_cons, Option.map_some, hall first List.mem_cons_self]

/-! ### Lists that go together -/

theorem exists_mem_of_forall₂ {α β : Type} {R : α → β → Prop} {as : List α} {bs : List β}
    (h : List.Forall₂ R as bs) {a : α} (ha : a ∈ as) : ∃ b ∈ bs, R a b := by
  induction h with
  | nil => exact absurd ha List.not_mem_nil
  | @cons a' b as bs hab _ ih =>
    rcases List.mem_cons.1 ha with rfl | ha
    · exact ⟨b, List.mem_cons_self, hab⟩
    · obtain ⟨c, hc, hac⟩ := ih ha
      exact ⟨c, List.mem_cons_of_mem b hc, hac⟩

/-- A list succeeds with what its items succeed with, one by one. -/
theorem mapM_eq_ok_iff {ε α β : Type} {f : α → Except ε β} {as : List α} {bs : List β} :
    as.mapM f = .ok bs ↔ List.Forall₂ (fun a b => f a = .ok b) as bs := by
  induction as generalizing bs with
  | nil =>
    rw [List.mapM_nil, List.forall₂_nil_left_iff]
    exact ⟨fun h => (Except.ok.inj h).symm, fun h => congrArg Except.ok h.symm⟩
  | cons a as ih =>
    rw [List.mapM_cons, List.forall₂_cons_left_iff]
    cases hb : f a with
    | error fault =>
      constructor
      · intro h
        cases h
      · rintro ⟨b, rest, h, -⟩
        cases h
    | ok b =>
      cases hmore : as.mapM f with
      | error fault =>
        constructor
        · intro h
          cases h
        · rintro ⟨b', rest, -, hrest, -⟩
          rw [← ih, hmore] at hrest
          cases hrest
      | ok more =>
        constructor
        · intro h
          cases h
          exact ⟨b, more, rfl, ih.1 hmore, rfl⟩
        · rintro ⟨b', rest, h, hrest, rfl⟩
          cases h
          rw [← ih, hmore] at hrest
          cases hrest
          rfl

/-! ### Parameters that carry queries alone -/

/-- The parameters that carry the given queries. -/
def Parameters.ofQueries (queries : List String) : Parameters :=
  ⟨⟨if queries = [] then [] else [(queryParameter, queries)]⟩⟩

theorem Parameters.get?_ofQueries (queries : List String) :
    ((Parameters.ofQueries queries).get? queryParameter).getD [] = queries := by
  by_cases h : queries = []
  · subst h
    rfl
  · rw [Parameters.get?, OrderedMap.get?, Parameters.ofQueries, if_neg h, OrderedMap.lookup,
      if_pos rfl, Option.getD_some]

theorem Parameters.ofQueries_inj {queries queries' : List String}
    (h : Parameters.ofQueries queries = .ofQueries queries') : queries = queries' := by
  rw [← Parameters.get?_ofQueries queries, h, Parameters.get?_ofQueries]

/-- Adding the parameters of one more query adds the query at the end. -/
theorem Parameters.ofQueries_merge (queries : List String) (q : String) :
    (Parameters.ofQueries queries).merge (Parameters.empty.push queryParameter q)
      = Parameters.ofQueries (queries ++ [q]) := by
  by_cases h : queries = []
  · subst h
    rfl
  · have hne : queries ++ [q] ≠ [] := by simp
    show (Parameters.ofQueries queries).extend queryParameter [q] = _
    rw [Parameters.ofQueries, if_neg h, Parameters.ofQueries, if_neg hne, Parameters.extend,
      OrderedMap.alter, OrderedMap.altered, if_pos rfl, Option.getD_some]

namespace Vocabulary

variable (vocabulary : Vocabulary)

/-! ### Queries -/

theorem query_eq_ok_iff {g : Group} {q : String} :
    vocabulary.query g = .ok q ↔ ∃ name, g.commonField = .ok name ∧
      vocabulary.fields.serviceName name ++ ",exact," ++
        joined g.operator (vocabulary.queryValues (vocabulary.fields.serviceName name) g) = q := by
  rw [query]
  cases g.commonField with
  | error fault => simp [Except.map]
  | ok name => simp [Except.map]

/-- Groups have queries when each of them has one. -/
theorem mapM_query_eq_ok_iff {groups : List Group} {queries : List String} :
    groups.mapM vocabulary.query = .ok queries ↔
      List.Forall₂ (fun g q => vocabulary.query g = .ok q) groups queries :=
  mapM_eq_ok_iff

theorem render_eq_ok_iff {g : Group} {p : Parameters} :
    vocabulary.render g = .ok p ↔
      ∃ q, vocabulary.query g = .ok q ∧ Parameters.ofQueries [q] = p := by
  rw [render]
  cases vocabulary.query g with
  | error fault => simp [Except.map]
  | ok q =>
    simp only [Except.map, Except.ok.injEq, exists_eq_left']
    rfl

/-- The groups behind those already rendered add their queries in order. -/
theorem renderOnto_ofQueries (queries : List String) (groups : List Group) :
    vocabulary.renderOnto (.ofQueries queries) groups
      = (groups.mapM vocabulary.query).map fun more => .ofQueries (queries ++ more) := by
  induction groups generalizing queries with
  | nil => simp [renderOnto, Except.map, pure, Except.pure]
  | cons g groups ih =>
    rw [renderOnto, render, List.mapM_cons]
    cases hq : vocabulary.query g with
    | error fault => rfl
    | ok q =>
      show vocabulary.renderOnto ((Parameters.ofQueries queries).merge _) groups = _
      rw [Parameters.ofQueries_merge, ih]
      cases groups.mapM vocabulary.query with
      | error fault => rfl
      | ok more =>
        show Except.ok (Parameters.ofQueries (queries ++ [q] ++ more))
          = Except.ok (Parameters.ofQueries (queries ++ q :: more))
        rw [List.append_assoc, List.singleton_append]

/-- **Statements compile** when all trees have a shape that can be asked for and every group has a
query; the parameters are those queries in order. -/
theorem compile_eq_ok_iff {statements : List Statement} {p : Parameters} :
    vocabulary.compile statements = .ok p ↔ ∃ groups queries,
      Group.ofStatements statements = .ok groups ∧
        groups.mapM vocabulary.query = .ok queries ∧ Parameters.ofQueries queries = p := by
  rw [compile]
  cases Group.ofStatements statements with
  | error shape => simp
  | ok groups =>
    have h : vocabulary.renderOnto .empty groups
        = (groups.mapM vocabulary.query).map Parameters.ofQueries :=
      vocabulary.renderOnto_ofQueries [] groups
    show (vocabulary.renderOnto .empty groups).mapError CompileFault.malformed = .ok p ↔ _
    rw [h]
    cases hqueries : groups.mapM vocabulary.query with
    | error fault => simp [Except.map, Except.mapError, hqueries]
    | ok queries => simp [Except.map, Except.mapError, hqueries]

/-- A filter on its own has one query, with one value. -/
theorem compile_filter {f : Filter} (hname : f.name ≠ "") :
    vocabulary.compile [.filter f] = .ok (.ofQueries
      [vocabulary.fields.serviceName f.name ++ ",exact," ++
        escapeValue (vocabulary.values.encode (vocabulary.fields.serviceName f.name) f.value)]) := by
  have hfield : (Group.single f).commonField = .ok f.name := by
    refine Group.commonField_eq_ok_iff.2 ⟨List.cons_ne_nil f [], hname, ?_⟩
    intro f' hf'
    rw [List.mem_singleton.1 hf']
  refine vocabulary.compile_eq_ok_iff.2 ⟨[Group.single f], _, rfl, ?_, rfl⟩
  rw [mapM_query_eq_ok_iff, List.forall₂_cons]
  refine ⟨vocabulary.query_eq_ok_iff.2 ⟨f.name, hfield, ?_⟩, .nil⟩
  rw [joined, queryValues, Group.single, List.map_singleton, String.intercalate_singleton]

end Vocabulary

end BriefSearch
