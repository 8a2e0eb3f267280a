import BriefSearch.Proofs.OrderedMap
import BriefSearch.Proofs.Query.Groups
import BriefSearch.Proofs.Query.Queries

/-!
# Compiling lists of statements

Two passes go over a list of statements: all trees are put into groups before the first group gets
its query.  Each pass stops at the first failure, and what one statement contributes depends on no
other.

* **`mapM_eq_error_iff`** — the first item that fails is what a list fails with;
* **`Group.OnOneField`** — the groups that trees are put into;
* **`Group.exists_commonField_iff`**, **`Group.commonField_ofStatements_iff`** — the groups that
  have queries, and the trees all of whose groups do;
* **`Vocabulary.compile_append_eq_ok_iff`** — the queries of two lists stand behind one another;
* **`Vocabulary.compile_composition`** — this together with the order of the faults.
-/

namespace BriefSearch

/-! ### The first failure -/

section

variable {ε α β : Type} {f : α → Except ε β}

theorem mapM_cons_eq_error_iff {a : α} {as : List α} {e : ε} :
    (a :: as).mapM f = .error e ↔
      f a = .error e ∨ (∃ b, f a = .ok b) ∧ as.mapM f = .error e := by
  rw [List.mapM_cons]
  cases f a with
  | error e' => simp [bind, Except.bind]
  | ok b =>
    cases as.mapM f with
    | error e' => simp [bind, Except.bind]
    | ok bs => simp [bind, Except.bind, pure, Except.pure]

/-- **A list fails with its first item that fails.** -/
theorem mapM_eq_error_iff {as : List α} {e : ε} :
    as.mapM f = .error e ↔ ∃ before a after, as = before ++ a :: after ∧
      (∀ b ∈ before, ∃ c, f b = .ok c) ∧ f a = .error e := by
  induction as with
  | nil =>
    rw [List.mapM_nil]
    constructor
    · intro h
      cases h
    · rintro ⟨before, a, after, hsplit, -⟩
      exact absurd hsplit (by simp)
  | cons a as ih =>
    rw [mapM_cons_eq_error_iff, ih]
    constructor
    · rintro (ha | ⟨ha, before, a', after, rfl, hbefore, ha'⟩)
      · exact ⟨[], a, as, rfl, List.forall_mem_nil _, ha⟩
      · exact ⟨a :: before, a', after, rfl, List.forall_mem_cons.2 ⟨ha, hbefore⟩, ha'⟩
    · rintro ⟨before, a', after, hsplit, hbefore, ha'⟩
      cases before with
      | nil =>
        cases hsplit
        exact .inl ha'
      | cons b before =>
        cases hsplit
        obtain ⟨hb, hbefore⟩ := List.forall_mem_cons.1 hbefore
        exact .inr ⟨hb, before, a', after, rfl, hbefore, ha'⟩

/-- A list does not fail where no item does. -/
theorem exists_mapM_eq_ok_iff {as : List α} :
    (∃ bs, as.mapM f = .ok bs) ↔ ∀ a ∈ as, ∃ b, f a = .ok b := by
  constructor
  · rintro ⟨bs, hbs⟩ a ha
    obtain ⟨before, after, rfl⟩ := List.append_of_mem ha
    rw [List.mapM_append, List.mapM_cons] at hbs
    cases hfa : f a with
    | ok b => exact ⟨b, rfl⟩
    | error e =>
      rw [hfa] at hbs
      cases hbefore : before.mapM f with
      | error e' =>
        rw [hbefore] at hbs
        cases hbs
      | ok cs =>
        rw [hbefore] at hbs
        cases hbs
  · intro h
    cases hbs : as.mapM f with
    | ok bs => exact ⟨bs, rfl⟩
    | error e =>
      obtain ⟨before, a, after, rfl, -, ha⟩ := mapM_eq_error_iff.1 hbs
      obtain ⟨b, hb⟩ := h a (by simp)
      rw [ha] at hb
      cases hb

theorem mapM_append_eq_ok_iff {as as' : List α} {bs : List β} :
    (as ++ as').mapM f = .ok bs ↔ ∃ first more, as.mapM f = .ok first ∧
      as'.mapM f = .ok more ∧ first ++ more = bs := by
  rw [List.mapM_append]
  cases as.mapM f with
  | error e => simp [bind, Except.bind]
  | ok first =>
    cases as'.mapM f with
    | error e => simp [bind, Except.bind]
    | ok more => simp [bind, Except.bind, pure, Except.pure]

end

/-! ### The groups of trees -/

namespace Group

/-- The groups of statements are those of each statement, one after the other. -/
theorem ofStatements_eq_mapM (ss : List Statement) :
    ofStatements ss = (ss.mapM ofStatement).map List.flatten := by
  induction ss with
  | nil => rfl
  | cons s ss ih =>
    rw [ofStatements, ih, List.mapM_cons]
    cases ofStatement s with
    | error shape => rfl
    | ok groups =>
      cases ss.mapM ofStatement with
      | error shape => rfl
      | ok more => rfl

theorem ofStatements_eq_error_iff {ss : List Statement} {shape : UnsupportedShape} :
    ofStatements ss = .error shape ↔ ∃ before s after, ss = before ++ s :: after ∧
      (∀ t ∈ before, ∃ groups, ofStatement t = .ok groups) ∧ ofStatement s = .error shape := by
  rw [ofStatements_eq_mapM, ← mapM_eq_error_iff]
  cases ss.mapM ofStatement with
  | error shape' => simp [Except.map]
  | ok groups => simp [Except.map]

theorem exists_ofStatements_eq_ok_iff {ss : List Statement} :
    (∃ groups, ofStatements ss = .ok groups) ↔ ∀ s ∈ ss, ∃ groups, ofStatement s = .ok groups := by
  rw [ofStatements_eq_mapM, ← exists_mapM_eq_ok_iff]
  cases ss.mapM ofStatement with
  | error shape => simp [Except.map]
  | ok groups => simp [Except.map]

theorem ofStatements_append_eq_ok_iff {xs ys : List Statement} {groups : List Group} :
    ofStatements (xs ++ ys) = .ok groups ↔ ∃ first more, ofStatements xs = .ok first ∧
      ofStatements ys = .ok more ∧ first ++ more = groups := by
  rw [ofStatements_eq_mapM, ofStatements_eq_mapM, ofStatements_eq_mapM, List.mapM_append]
  cases xs.mapM ofStatement with
  | error shape => simp [Except.map, bind, Except.bind]
  | ok first =>
    cases ys.mapM ofStatement with
    | error shape => simp [Except.map, bind, Except.bind]
    | ok more => simp [Except.map, bind, Except.bind, pure, Except.pure]

/-- All filters of the group are on one field. -/
def OnOneField (g : Group) : Prop :=
  ∀ f ∈ g.filters, ∀ f' ∈ g.filters, f.name = f'.name

instance (g : Group) : Decidable g.OnOneField :=
  inferInstanceAs (Decidable (∀ f ∈ g.filters, ∀ f' ∈ g.filters, f.name = f'.name))

theorem onOneField_single (f : Filter) : (single f).OnOneField := by
  intro f' hf' f'' hf''
  rw [List.mem_singleton.1 hf', List.mem_singleton.1 hf'']

/-- Filters are on one field when they show no two names. -/
theorem onOneField_iff {op : Operator} {fs : List Filter} :
    OnOneField ⟨op, fs⟩ ↔ (distinct (fs.map (·.name))).length ≤ 1 := by
  rw [← Nat.not_lt, one_lt_length_distinct_iff]
  constructor
  · rintro hone ⟨name, hname, name', hname', hne⟩
    obtain ⟨f, hf, rfl⟩ := List.mem_map.1 hname
    obtain ⟨f', hf', rfl⟩ := List.mem_map.1 hname'
    exact hne (hone f hf f' hf')
  · intro hone f hf f' hf'
    by_contra hdiffer
    exact hone ⟨f.name, List.mem_map_of_mem hf, f'.name, List.mem_map_of_mem hf', hdiffer⟩

/-- **A tree is put into groups on one field each**, at least into one. -/
theorem onOneField_of_ofStatement {s : Statement} {groups : List Group}
    (h : ofStatement s = .ok groups) : groups ≠ [] ∧ ∀ g ∈ groups, g.OnOneField := by
  cases s with
  | filter f =>
    rw [ofStatement] at h
    cases h
    exact ⟨List.cons_ne_nil _ _, List.forall_mem_singleton.2 (onOneField_single f)⟩
  | group op ss =>
    obtain ⟨fs, -, hgroups⟩ := ofStatement_group_eq_ok_iff.1 h
    rcases ofFilters_eq_ok_iff.1 hgroups with ⟨hone, rfl⟩ | ⟨hmany, -, rfl⟩
    · exact ⟨List.cons_ne_nil _ _, List.forall_mem_singleton.2 (onOneField_iff.2 hone)⟩
    · constructor
      · rintro hnil
        rw [List.map_eq_nil_iff.1 hnil] at hmany
        exact absurd hmany (by decide)
      · intro g hg
        obtain ⟨f, -, rfl⟩ := List.mem_map.1 hg
        exact onOneField_single f

/-- A group on one field has a query when it has filters and all of them are on fields with names.
-/
theorem OnOneField.exists_commonField_iff {g : Group} (h : g.OnOneField) :
    (∃ name, g.commonField = .ok name) ↔ g.filters ≠ [] ∧ ∀ f ∈ g.filters, f.name ≠ "" := by
  constructor
  · rintro ⟨name, hname⟩
    obtain ⟨hne, hname, hall⟩ := commonField_eq_ok_iff.1 hname
    refine ⟨hne, fun f hf => ?_⟩
    rw [hall f hf]
    exact hname
  · rintro ⟨hne, hnames⟩
    obtain ⟨f, hf⟩ := List.exists_mem_of_ne_nil _ hne
    exact ⟨f.name, commonField_eq_ok_iff.2 ⟨hne, hnames f hf, fun f' hf' => h f' hf' f hf⟩⟩

theorem OnOneField.commonField_ne_mixedFields {g : Group} (h : g.OnOneField)
    (first other : String) : g.commonField ≠ .error (.mixedFields first other) := by
  obtain ⟨op, fs⟩ := g
  rw [commonField]
  cases fs with
  | nil => simp
  | cons f fs =>
    have hsame : fs.find? (·.name ≠ f.name) = none := by
      rw [List.find?_eq_none]
      intro f' hf'
      simpa using h f' (List.mem_cons_of_mem f hf') f List.mem_cons_self
    dsimp only
    rw [hsame]
    split <;> simp

/-- **The groups of a tree have queries** when the tree has filters and all of them are on fields
with names. -/
theorem commonField_ofStatement_iff {s : Statement} {groups : List Group}
    (h : ofStatement s = .ok groups) :
    (∀ g ∈ groups, ∃ name, g.commonField = .ok name) ↔
      s.leaves ≠ [] ∧ ∀ f ∈ s.leaves, f.name ≠ "" := by
  cases s with
  | filter f =>
    rw [ofStatement] at h
    cases h
    rw [List.forall_mem_singleton, (onOneField_single f).exists_commonField_iff, Statement.leaves,
      single]
  | group op ss =>
    obtain ⟨fs, hfs, hgroups⟩ := ofStatement_group_eq_ok_iff.1 h
    rw [Statement.leaves, ← absorbedAll_eq_leaves op ss hfs]
    rcases ofFilters_eq_ok_iff.1 hgroups with ⟨hone, rfl⟩ | ⟨hmany, -, rfl⟩
    · rw [List.forall_mem_singleton, (onOneField_iff.2 hone).exists_commonField_iff]
    · have hne : fs ≠ [] := by
        rintro rfl
        exact absurd hmany (by decide)
      have hsingle : ∀ f, (∃ name, (single f).commonField = .ok name) ↔ f.name ≠ "" := by
        intro f
        rw [(onOneField_single f).exists_commonField_iff, single, List.forall_mem_singleton]
        exact and_iff_right (List.cons_ne_nil f [])
      rw [List.forall_mem_map]
      simp only [hsingle, ne_eq, hne, not_false_eq_true, true_and]

/-- The same for the trees of a list. -/
theorem commonField_ofStatements_iff {ss : List Statement} {groups : List Group}
    (h : ofStatements ss = .ok groups) :
    (∀ g ∈ groups, ∃ name, g.commonField = .ok name) ↔
      (∀ s ∈ ss, s.leaves ≠ []) ∧ ∀ f ∈ Statement.leavesOfAll ss, f.name ≠ "" := by
  induction ss generalizing groups with
  | nil =>
    rw [ofStatements] at h
    cases h
    simp [Statement.leavesOfAll]
  | cons s ss ih =>
    obtain ⟨first, more, hfirst, hmore, rfl⟩ := ofStatements_cons_eq_ok_iff.1 h
    rw [List.forall_mem_append, commonField_ofStatement_iff hfirst, ih hmore,
      List.forall_mem_cons, Statement.leavesOfAll, List.forall_mem_append]
    tauto

theorem onOneField_of_ofStatements {ss : List Statement} {groups : List Group}
    (h : ofStatements ss = .ok groups) : ∀ g ∈ groups, g.OnOneField := by
  induction ss generalizing groups with
  | nil =>
    rw [ofStatements] at h
    cases h
    exact List.forall_mem_nil _
  | cons s ss ih =>
    obtain ⟨first, more, hfirst, hmore, rfl⟩ := ofStatements_cons_eq_ok_iff.1 h
    exact List.forall_mem_append.2 ⟨(onOneField_of_ofStatement hfirst).2, ih hmore⟩

theorem ofStatements_eq_nil_iff {ss : List Statement} : ofStatements ss = .ok [] ↔ ss = [] := by
  cases ss with
  | nil => simp [ofStatements]
  | cons s ss =>
    constructor
    · intro h
      obtain ⟨first, more, hfirst, -, hnil⟩ := ofStatements_cons_eq_ok_iff.1 h
      exact absurd (List.append_eq_nil_iff.1 hnil).1 (onOneField_of_ofStatement hfirst).1
    · intro h
      cases h

end Group

/-! ### Compiling -/

namespace Vocabulary

variable (vocabulary : Vocabulary)

theorem query_eq_error_iff {g : Group} {fault : MalformedGroup} :
    vocabulary.query g = .error fault ↔ g.commonField = .error fault := by
  rw [query]
  cases g.commonField with
  | error fault' => simp [Except.map]
  | ok name => simp [Except.map]

theorem render_eq_error_iff {g : Group} {fault : MalformedGroup} :
    vocabulary.render g = .error fault ↔ g.commonField = .error fault := by
  rw [render, ← vocabulary.query_eq_error_iff]
  cases vocabulary.query g with
  | error fault' => simp [Except.map]
  | ok q => simp [Except.map]

theorem exists_query_iff {g : Group} :
    (∃ q, vocabulary.query g = .ok q) ↔ ∃ name, g.commonField = .ok name := by
  rw [query]
  cases g.commonField with
  | error fault => simp [Except.map]
  | ok name => simp [Except.map]

theorem compile_eq_unsupported_iff {ss : List Statement} {shape : UnsupportedShape} :
    vocabulary.compile ss = .error (.unsupported shape) ↔ Group.ofStatements ss = .error shape := by
  rw [compile]
  cases Group.ofStatements ss with
  | error shape' => simp
  | ok groups =>
    dsimp only
    cases vocabulary.renderOnto .empty groups with
    | error fault => simp [Except.mapError]
    | ok p => simp [Except.mapError]

theorem compile_eq_malformed_iff {ss : List Statement} {fault : MalformedGroup} :
    vocabulary.compile ss = .error (.malformed fault) ↔ ∃ groups,
      Group.ofStatements ss = .ok groups ∧ groups.mapM vocabulary.query = .error fault := by
  rw [compile]
  cases Group.ofStatements ss with
  | error shape => simp
  | ok groups =>
    have hrender : vocabulary.renderOnto .empty groups
        = (groups.mapM vocabulary.query).map Parameters.ofQueries :=
      vocabulary.renderOnto_ofQueries [] groups
    dsimp only
    rw [hrender]
    cases hqueries : groups.mapM vocabulary.query with
    | error fault' => simp [Except.map, Except.mapError, hqueries]
    | ok queries => simp [Except.map, Except.mapError, hqueries]

/-- **Two lists compile** when each of them does, and the queries of the second stand behind those
of the first. -/
theorem compile_append_eq_ok_iff {xs ys : List Statement} {p : Parameters} :
    vocabulary.compile (xs ++ ys) = .ok p ↔ ∃ first more,
      vocabulary.compile xs = .ok (.ofQueries first) ∧
      vocabulary.compile ys = .ok (.ofQueries more) ∧ .ofQueries (first ++ more) = p := by
  simp only [compile_eq_ok_iff, Group.ofStatements_append_eq_ok_iff]
  constructor
  · rintro ⟨_, queries, ⟨groups, groups', hxs, hys, rfl⟩, hqueries, rfl⟩
    obtain ⟨first, more, hfirst, hmore, rfl⟩ := mapM_append_eq_ok_iff.1 hqueries
    exact ⟨first, more, ⟨groups, first, hxs, hfirst, rfl⟩, ⟨groups', more, hys, hmore, rfl⟩, rfl⟩
  · rintro ⟨first, more, ⟨groups, queries, hxs, hfirst, he⟩, ⟨groups', queries', hys, hmore, he'⟩,
      rfl⟩
    cases Parameters.ofQueries_inj he
    cases Parameters.ofQueries_inj he'
    exact ⟨groups ++ groups', first ++ more, ⟨groups, groups', hxs, hys, rfl⟩,
      mapM_append_eq_ok_iff.2 ⟨first, more, hfirst, hmore, rfl⟩, rfl⟩

theorem compile_eq_empty_iff {ss : List Statement} :
    vocabulary.compile ss = .ok .empty ↔ ss = [] := by
  constructor
  · intro h
    obtain ⟨groups, queries, hgroups, hqueries, hempty⟩ := vocabulary.compile_eq_ok_iff.1 h
    have hnone : queries = [] := Parameters.ofQueries_inj hempty
    rw [hnone, mapM_query_eq_ok_iff, List.forall₂_nil_right_iff] at hqueries
    rw [hqueries] at hgroups
    exact Group.ofStatements_eq_nil_iff.1 hgroups
  · rintro rfl
    rfl

/-- **A malformed tree is reported** where every tree can be put into groups: one without filters,
or with a filter on a field without a name. -/
theorem exists_compile_eq_malformed_iff {ss : List Statement} :
    (∃ fault, vocabulary.compile ss = .error (.malformed fault)) ↔
      (∀ s ∈ ss, ∃ groups, Group.ofStatement s = .ok groups) ∧
      ((∃ s ∈ ss, s.leaves = []) ∨ ∃ f ∈ Statement.leavesOfAll ss, f.name = "") := by
  simp only [compile_eq_malformed_iff]
  rw [← Group.exists_ofStatements_eq_ok_iff]
  cases hgroups : Group.ofStatements ss with
  | error shape => simp
  | ok groups =>
    have hfaultless : (∃ queries, groups.mapM vocabulary.query = .ok queries) ↔
        (∀ s ∈ ss, s.leaves ≠ []) ∧ ∀ f ∈ Statement.leavesOfAll ss, f.name ≠ "" := by
      rw [exists_mapM_eq_ok_iff, ← Group.commonField_ofStatements_iff hgroups]
      simp only [exists_query_iff]
    have hfault : (∃ fault, groups.mapM vocabulary.query = .error fault) ↔
        ¬ ∃ queries, groups.mapM vocabulary.query = .ok queries := by
      cases groups.mapM vocabulary.query with
      | error fault => simp
      | ok queries => simp
    simp only [Except.ok.injEq, exists_eq_left', exists_eq', true_and]
    rw [hfault, hfaultless, not_and_or]
    push Not
    rfl

/-- No group is reported for mixing fields, since trees are put into groups on one field each. -/
theorem compile_ne_mixedFields (ss : List Statement) (first other : String) :
    vocabulary.compile ss ≠ .error (.malformed (.mixedFields first other)) := by
  intro h
  obtain ⟨groups, hgroups, hqueries⟩ := vocabulary.compile_eq_malformed_iff.1 h
  obtain ⟨before, g, after, rfl, -, hg⟩ := mapM_eq_error_iff.1 hqueries
  have hone := Group.onOneField_of_ofStatements hgroups g (by simp)
  exact hone.commonField_ne_mixedFields first other (vocabulary.query_eq_error_iff.1 hg)

/-- **Compiling is compositional, all or nothing.**  Two lists of statements compile together when
each does alone, to the queries of the first and then those of the second and to nothing else; only
from no statements nothing at all comes.  The first tree that cannot be put into groups is what a
list fails with, even behind a malformed one.  Where there is no such tree, a list fails when one of
its trees has no filters or has a filter, however deep, on a field without a name. -/
theorem compile_composition :
    (∀ xs ys p, vocabulary.compile (xs ++ ys) = .ok p ↔ ∃ q r,
      vocabulary.compile xs = .ok q ∧ vocabulary.compile ys = .ok r ∧
      p = .ofQueries ((q.get? queryParameter).getD [] ++ (r.get? queryParameter).getD [])) ∧
    (∀ ss, vocabulary.compile ss = .ok .empty ↔ ss = []) ∧
    (∀ ss shape, vocabulary.compile ss = .error (.unsupported shape) ↔
      ∃ before s after, ss = before ++ s :: after ∧
        (∀ t ∈ before, ∃ groups, Group.ofStatement t = .ok groups) ∧
        Group.ofStatement s = .error shape) ∧
    (∀ ss, (∃ fault, vocabulary.compile ss = .error (.malformed fault)) ↔
      (∀ s ∈ ss, ∃ groups, Group.ofStatement s = .ok groups) ∧
      ((∃ s ∈ ss, s.leaves = []) ∨ ∃ f ∈ Statement.leavesOfAll ss, f.name = "")) ∧
    ∀ ss first other, vocabulary.compile ss ≠ .error (.malformed (.mixedFields first other)) := by
  refine ⟨?_, fun ss => vocabulary.compile_eq_empty_iff, ?_,
    fun ss => vocabulary.exists_compile_eq_malformed_iff, vocabulary.compile_ne_mixedFields⟩
  · intro xs ys p
    rw [compile_append_eq_ok_iff]
    constructor
    · rintro ⟨first, more, hxs, hys, rfl⟩
      refine ⟨.ofQueries first, .ofQueries more, hxs, hys, ?_⟩
      rw [Parameters.get?_ofQueries, Parameters.get?_ofQueries]
    · rintro ⟨q, r, hxs, hys, rfl⟩
      obtain ⟨-, first, -, -, rfl⟩ := vocabulary.compile_eq_ok_iff.1 hxs
      obtain ⟨-, more, -, -, rfl⟩ := vocabulary.compile_eq_ok_iff.1 hys
      rw [Parameters.get?_ofQueries, Parameters.get?_ofQueries]
      exact ⟨first, more, hxs, hys, rfl⟩
  · intro ss shape
    rw [compile_eq_unsupported_iff, Group.ofStatements_eq_error_iff]

/-- OR between fields is reported although the filter before it has no name. -/
example : compile ⟨.empty, .empty⟩
    [.filter ⟨"", "x"⟩, .group .or [.filter ⟨"a", "x"⟩, .filter ⟨"b", "y"⟩]]
      = .error (.unsupported (.acrossFields .or ["a", "b"])) := by
  decide +kernel

end Vocabulary

end BriefSearch
