import BriefSearch.Error
import BriefSearch.Proofs.Query.Composition

/-!
# The trees that can be asked for

A group takes in the filters of the groups below it when each of those holds a single statement or
has its operator, however deep it stands: a group hands its own operator down to all of them.

* **`Statement.subgroups`** — the groups of a tree, each before those inside it;
* **`Statement.Accepted`**, **`Statement.Reported`** — the trees that have groups on one field, and
  what the others are reported for;
* **`Statement.Yields`** — the groups of a tree, from its filters alone;
* **`Group.absorbedAll_eq_find?`** — a group absorbs all filters below it, or is reported for the
  first nested group that does not fit;
* **`Group.ofStatement_eq_ok_iff`**, **`Group.ofStatement_eq_error_iff`** — the same for whole
  trees;
* **`Group.ofStatements_accepted_or_reported`** — which lists have groups, and what the others
  fail with;
* **`Group.ofStatements_keep_leaves`** — what the groups of a list are.
-/

namespace BriefSearch

namespace Statement

mutual

/-- The groups of a tree, each before those inside it: an operator and what it joins. -/
def subgroups : Statement → List (Operator × List Statement)
  | filter _ => []
  | group op ss => (op, ss) :: subgroupsOfAll ss

/-- The groups of a list of trees. -/
def subgroupsOfAll : List Statement → List (Operator × List Statement)
  | [] => []
  | s :: rest => s.subgroups ++ subgroupsOfAll rest

end

/-- A nested group fits into one of the given operator when it holds a single statement or has that
operator too. -/
def Fits (outer : Operator) (nested : Operator × List Statement) : Prop :=
  nested.2.length = 1 ∨ nested.1 = outer

instance (outer : Operator) (nested : Operator × List Statement) : Decidable (Fits outer nested) :=
  inferInstanceAs (Decidable (_ ∨ _))

/-- The trees that can be asked for: all groups below the outermost one fit into it, and it joins
by AND or is on a single field. -/
def Accepted : Statement → Prop
  | filter _ => True
  | group op ss =>
    (∀ g ∈ subgroupsOfAll ss, Fits op g) ∧ (op = .and ∨ Group.OnOneField ⟨op, leavesOfAll ss⟩)

instance : DecidablePred Accepted
  | filter _ => inferInstanceAs (Decidable True)
  | group _ _ => inferInstanceAs (Decidable (_ ∧ _))

/-- What a group is reported for: the first group below it that does not fit and, only where all of
them do, OR between its fields. -/
inductive Reported (op : Operator) (ss : List Statement) : UnsupportedShape → Prop where
  | nested {before after : List (Operator × List Statement)} {inner : Operator}
      {children : List Statement}
      (hsplit : subgroupsOfAll ss = before ++ (inner, children) :: after)
      (hbefore : ∀ g ∈ before, Fits op g) (hfirst : ¬ Fits op (inner, children)) :
      Reported op ss (.nested inner op)
  | acrossFields (hfits : ∀ g ∈ subgroupsOfAll ss, Fits op g) (hop : op = .or)
      (hfields : ¬ Group.OnOneField ⟨op, leavesOfAll ss⟩) :
      Reported op ss (.acrossFields .or (distinct ((leavesOfAll ss).map (·.name))))

/-- The groups of a tree: a filter is one, a tree on one field is one with all its filters, and any
other tree is one for each filter. -/
inductive Yields : Statement → List Group → Prop where
  | filter (f : Filter) : Yields (.filter f) [⟨.and, [f]⟩]
  | together {op : Operator} {ss : List Statement}
      (hfields : Group.OnOneField ⟨op, leavesOfAll ss⟩) :
      Yields (.group op ss) [⟨op, leavesOfAll ss⟩]
  | apart {ss : List Statement} (hfields : ¬ Group.OnOneField ⟨.and, leavesOfAll ss⟩) :
      Yields (.group .and ss) ((leavesOfAll ss).map fun f => ⟨.and, [f]⟩)

end Statement

namespace Group

open Statement

/-! ### What a group absorbs -/

/-- What comes of a search for a group that does not fit: the filters, or the group found. -/
def absorbedUnless (op : Operator) (filters : List Filter) :
    Option (Operator × List Statement) → Except UnsupportedShape (List Filter)
  | none => .ok filters
  | some g => .error (.nested g.1 op)

mutual

theorem absorbed_eq_find? (op : Operator) : ∀ s : Statement,
    absorbed op s = absorbedUnless op s.leaves (s.subgroups.find? fun g => ¬ Fits op g)
  | .filter f => rfl
  | .group inner ss => by
    rw [absorbed, Statement.subgroups, Statement.leaves, List.find?_cons]
    by_cases hfits : Fits op (inner, ss)
    · have hplace : ss.length = 1 ∨ inner = op := hfits
      rw [if_pos hplace, absorbedAll_eq_find? op ss]
      simp only [hfits, not_true_eq_false, decide_false]
    · have hplace : ¬ (ss.length = 1 ∨ inner = op) := hfits
      rw [if_neg hplace]
      simp only [hfits, not_false_eq_true, decide_true]
      rfl

/-- **A group absorbs every filter below it** unless a nested group does not fit; the first of those
is what it is reported for. -/
theorem absorbedAll_eq_find? (op : Operator) : ∀ ss : List Statement,
    absorbedAll op ss
      = absorbedUnless op (leavesOfAll ss) ((subgroupsOfAll ss).find? fun g => ¬ Fits op g)
  | [] => rfl
  | s :: rest => by
    rw [absorbedAll, absorbed_eq_find? op s, absorbedAll_eq_find? op rest, subgroupsOfAll,
      leavesOfAll, List.find?_append]
    cases s.subgroups.find? fun g => ¬ Fits op g with
    | some g => rfl
    | none =>
      cases (subgroupsOfAll rest).find? fun g => ¬ Fits op g with
      | some g => rfl
      | none => rfl

end

theorem absorbedAll_eq_ok_iff {op : Operator} {ss : List Statement} {filters : List Filter} :
    absorbedAll op ss = .ok filters ↔
      (∀ g ∈ subgroupsOfAll ss, Fits op g) ∧ leavesOfAll ss = filters := by
  have hnone : ((subgroupsOfAll ss).find? fun g => ¬ Fits op g) = none ↔
      ∀ g ∈ subgroupsOfAll ss, Fits op g := by
    simp
  rw [absorbedAll_eq_find?, ← hnone]
  cases (subgroupsOfAll ss).find? fun g => ¬ Fits op g with
  | none => simp [absorbedUnless]
  | some g => simp [absorbedUnless]

theorem absorbedAll_eq_error_iff {op : Operator} {ss : List Statement} {shape : UnsupportedShape} :
    absorbedAll op ss = .error shape ↔ ∃ before g after,
      subgroupsOfAll ss = before ++ g :: after ∧ (∀ g' ∈ before, Fits op g') ∧ ¬ Fits op g ∧
        .nested g.1 op = shape := by
  have hsome : ∀ g, ((subgroupsOfAll ss).find? fun g => ¬ Fits op g) = some g ↔
      ∃ before after, subgroupsOfAll ss = before ++ g :: after ∧ (∀ g' ∈ before, Fits op g') ∧
        ¬ Fits op g := by
    intro g
    rw [List.find?_eq_some_iff_append]
    simp only [decide_eq_true_eq, Bool.not_eq_true', decide_eq_false_iff_not, not_not]
    constructor
    · rintro ⟨hfirst, before, after, hsplit, hbefore⟩
      exact ⟨before, after, hsplit, hbefore, hfirst⟩
    · rintro ⟨before, after, hsplit, hbefore, hfirst⟩
      exact ⟨hfirst, before, after, hsplit, hbefore⟩
  rw [absorbedAll_eq_find?]
  constructor
  · intro h
    cases hfound : (subgroupsOfAll ss).find? fun g => ¬ Fits op g with
    | none =>
      rw [hfound] at h
      cases h
    | some g =>
      rw [hfound] at h
      obtain ⟨before, after, hsplit, hbefore, hfirst⟩ := (hsome g).1 hfound
      exact ⟨before, g, after, hsplit, hbefore, hfirst, Except.error.inj h⟩
  · rintro ⟨before, g, after, hsplit, hbefore, hfirst, rfl⟩
    rw [(hsome g).2 ⟨before, after, hsplit, hbefore, hfirst⟩]
    rfl

/-! ### The groups of a tree -/

theorem ofFilters_eq_error_iff {op : Operator} {fs : List Filter} {shape : UnsupportedShape} :
    ofFilters op fs = .error shape ↔ op = .or ∧ ¬ OnOneField ⟨op, fs⟩ ∧
      .acrossFields .or (distinct (fs.map (·.name))) = shape := by
  unfold ofFilters
  dsimp only
  rw [onOneField_iff]
  by_cases hone : (distinct (fs.map (·.name))).length ≤ 1
  · simp [hone]
  · rw [if_neg hone]
    cases op with
    | and => simp
    | or => simp [hone]

/-- **A tree has groups when it is accepted**, and which they are is plain from its filters. -/
theorem ofStatement_eq_ok_iff {s : Statement} {run : List Group} :
    ofStatement s = .ok run ↔ s.Accepted ∧ s.Yields run := by
  cases s with
  | filter f =>
    constructor
    · intro h
      cases h
      exact ⟨trivial, .filter f⟩
    · rintro ⟨-, hyields⟩
      cases hyields
      rfl
  | group op ss =>
    rw [ofStatement_group_eq_ok_iff]
    constructor
    · rintro ⟨fs, hfs, hrun⟩
      obtain ⟨hfits, rfl⟩ := absorbedAll_eq_ok_iff.1 hfs
      rcases ofFilters_eq_ok_iff.1 hrun with ⟨hone, rfl⟩ | ⟨hmany, rfl, rfl⟩
      · have hfields : OnOneField ⟨op, leavesOfAll ss⟩ := onOneField_iff.2 hone
        exact ⟨⟨hfits, .inr hfields⟩, .together hfields⟩
      · have hfields : ¬ OnOneField ⟨.and, leavesOfAll ss⟩ := by
          rw [onOneField_iff]
          exact Nat.not_le.2 hmany
        exact ⟨⟨hfits, .inl rfl⟩, .apart hfields⟩
    · rintro ⟨⟨hfits, -⟩, hyields⟩
      refine ⟨leavesOfAll ss, absorbedAll_eq_ok_iff.2 ⟨hfits, rfl⟩, ofFilters_eq_ok_iff.2 ?_⟩
      cases hyields with
      | together hfields => exact .inl ⟨onOneField_iff.1 hfields, rfl⟩
      | apart hfields =>
        rw [onOneField_iff] at hfields
        exact .inr ⟨Nat.lt_of_not_le hfields, rfl, rfl⟩

/-- An accepted tree has groups. -/
theorem exists_ofStatement_iff {s : Statement} :
    (∃ run, ofStatement s = .ok run) ↔ s.Accepted := by
  constructor
  · rintro ⟨run, hrun⟩
    exact (ofStatement_eq_ok_iff.1 hrun).1
  · intro h
    cases s with
    | filter f => exact ⟨_, ofStatement_eq_ok_iff.2 ⟨h, .filter f⟩⟩
    | group op ss =>
      by_cases hfields : OnOneField ⟨op, leavesOfAll ss⟩
      · exact ⟨_, ofStatement_eq_ok_iff.2 ⟨h, .together hfields⟩⟩
      · obtain rfl : op = .and := h.2.resolve_right hfields
        exact ⟨_, ofStatement_eq_ok_iff.2 ⟨h, .apart hfields⟩⟩

/-- **A tree without groups is reported for what is wrong with it.** -/
theorem ofStatement_eq_error_iff {s : Statement} {shape : UnsupportedShape} :
    ofStatement s = .error shape ↔ ∃ op ss, s = .group op ss ∧ Reported op ss shape := by
  cases s with
  | filter f =>
    constructor
    · intro h
      cases h
    · rintro ⟨op, ss, hs, -⟩
      cases hs
  | group op ss =>
    rw [ofStatement]
    constructor
    · intro h
      refine ⟨op, ss, rfl, ?_⟩
      cases hfs : absorbedAll op ss with
      | error shape' =>
        rw [hfs] at h
        cases h
        obtain ⟨before, ⟨inner, children⟩, after, hsplit, hbefore, hfirst, rfl⟩ :=
          absorbedAll_eq_error_iff.1 hfs
        exact .nested hsplit hbefore hfirst
      | ok fs =>
        rw [hfs] at h
        obtain ⟨hfits, rfl⟩ := absorbedAll_eq_ok_iff.1 hfs
        obtain ⟨hop, hfields, rfl⟩ := ofFilters_eq_error_iff.1 h
        exact .acrossFields hfits hop hfields
    · rintro ⟨op', ss', hs, hreported⟩
      cases hs
      cases hreported with
      | nested hsplit hbefore hfirst =>
        rw [absorbedAll_eq_error_iff.2 ⟨_, _, _, hsplit, hbefore, hfirst, rfl⟩]
      | acrossFields hfits hop hfields =>
        rw [absorbedAll_eq_ok_iff.2 ⟨hfits, rfl⟩]
        exact ofFilters_eq_error_iff.2 ⟨hop, hfields, rfl⟩

/-! ### The groups of a list -/

/-- A list of trees has the groups of each tree, one run after the other. -/
theorem ofStatements_eq_ok_iff {ss : List Statement} {groups : List Group} :
    ofStatements ss = .ok groups ↔
      ∃ runs, List.Forall₂ (fun s run => ofStatement s = .ok run) ss runs ∧
        runs.flatten = groups := by
  simp only [← mapM_eq_ok_iff]
  rw [ofStatements_eq_mapM]
  cases ss.mapM ofStatement with
  | error shape => simp [Except.map]
  | ok runs => simp [Except.map]

/-- **A list of trees has groups when all of them are accepted.**  Otherwise it fails for the first
tree that is not: for the first group inside that does not fit, whose operator the message names
beside the outer one, and only without such a group for its fields, which the message lists as they
first appear. -/
theorem ofStatements_accepted_or_reported (ss : List Statement) :
    ((∃ groups, ofStatements ss = .ok groups) ↔ ∀ s ∈ ss, s.Accepted) ∧
    (∀ shape, ofStatements ss = .error shape ↔ ∃ before op children after,
      ss = before ++ .group op children :: after ∧ (∀ s ∈ before, s.Accepted) ∧
        Reported op children shape) ∧
    (∀ inner outer : Operator, (SearchError.unsupportedQuery (.nested inner outer)).message
      = "Unsupported query: " ++ ("Encountered unsupported nested group: " ++ inner.word
        ++ " StatementGroup inside a " ++ outer.word ++ " group")) ∧
    ∀ fields : List String, (SearchError.unsupportedQuery (.acrossFields .or fields)).message
      = "Unsupported query: " ++ ("Encountered OR operator between the fields "
        ++ ", ".intercalate fields ++ ". Primo only supports AND between different fields.") := by
  refine ⟨?_, ?_, ?_, fun _ => rfl⟩
  · rw [exists_ofStatements_eq_ok_iff]
    simp only [exists_ofStatement_iff]
  · intro shape
    rw [ofStatements_eq_error_iff]
    simp only [exists_ofStatement_iff, ofStatement_eq_error_iff]
    constructor
    · rintro ⟨before, s, after, hsplit, hbefore, op, children, rfl, hreported⟩
      exact ⟨before, op, children, after, hsplit, hbefore, hreported⟩
    · rintro ⟨before, op, children, after, hsplit, hbefore, hreported⟩
      exact ⟨before, .group op children, after, hsplit, hbefore, op, children, rfl, hreported⟩
  · intro inner outer
    -- The message puts the kind of the group between its words, so that both sides are one text
    -- only when they are computed.
    cases inner <;> cases outer <;> rfl

/-- A filter without a name is accepted, and so is a group that stands alone in its own; two
statements under AND do not fit into OR. -/
theorem ofStatements_accepted_or_reported_nested :
    (∃ groups, ofStatements
      [.filter ⟨"", "x"⟩,
        .group .or [.group .and [.group .and [.filter ⟨"a", "1"⟩]], .group .or []]]
        = .ok groups) ∧
    ofStatements
      [.filter ⟨"", "x"⟩,
        .group .or [.group .and [.group .or [.filter ⟨"a", "1"⟩, .filter ⟨"b", "2"⟩]],
          .group .and [.group .and [], .filter ⟨"b", "2"⟩], .group .and []],
        .group .or [.filter ⟨"a", "1"⟩, .filter ⟨"b", "2"⟩]]
        = .error (.nested .and .or) := by
  constructor
  · refine (ofStatements_accepted_or_reported _).1.2 ?_
    decide
  · refine ((ofStatements_accepted_or_reported _).2.1 _).2
      ⟨[.filter ⟨"", "x"⟩], .or, _, _, rfl, ?_, @Reported.nested _ _ [_, _] _ _ _ rfl ?_ ?_⟩
    · decide
    · decide
    · decide

/-- **Groups lose no filter, repeat none and keep their order**, and each is on a single field, so
that no query is refused for mixing fields.  Every statement has a run of groups of its own, which
is not empty: a filter has one, a tree on one field has one with its operator and all its filters,
and any other tree has one for each of its filters. -/
theorem ofStatements_keep_leaves {ss : List Statement} {groups : List Group}
    (h : ofStatements ss = .ok groups) :
    groups.flatMap (·.filters) = leavesOfAll ss ∧
    (∀ g ∈ groups, ∀ f ∈ g.filters, ∀ f' ∈ g.filters, f.name = f'.name) ∧
    (∃ runs, List.Forall₂ (fun s run => run ≠ [] ∧ Yields s run) ss runs ∧
      runs.flatten = groups) ∧
    ∀ vocabulary : Vocabulary, ∀ g ∈ groups, ∀ first other : String,
      vocabulary.render g ≠ .error (.mixedFields first other) := by
  have hone : ∀ g ∈ groups, g.OnOneField := onOneField_of_ofStatements h
  refine ⟨flatMap_filters_ofStatements h, hone, ?_, ?_⟩
  · obtain ⟨runs, hruns, hflatten⟩ := ofStatements_eq_ok_iff.1 h
    refine ⟨runs, hruns.imp ?_, hflatten⟩
    intro s run hrun
    exact ⟨(onOneField_of_ofStatement hrun).1, (ofStatement_eq_ok_iff.1 hrun).2⟩
  · intro vocabulary g hg first other hrender
    refine (hone g hg).commonField_ne_mixedFields first other ?_
    exact vocabulary.render_eq_error_iff.1 hrender

/-- A filter, one field under OR, two fields under AND and no field at all. -/
theorem ofStatements_keep_leaves_mixed :
    let ss : List Statement :=
      [.filter ⟨"a", "1"⟩,
        .group .or [.group .and [.filter ⟨"b", "2"⟩], .filter ⟨"b", "3"⟩],
        .group .and [.filter ⟨"c", "4"⟩, .group .or [.filter ⟨"a", "5"⟩]], .group .or []]
    let groups : List Group :=
      [⟨.and, [⟨"a", "1"⟩]⟩, ⟨.or, [⟨"b", "2"⟩, ⟨"b", "3"⟩]⟩, ⟨.and, [⟨"c", "4"⟩]⟩,
        ⟨.and, [⟨"a", "5"⟩]⟩, ⟨.or, []⟩]
    ofStatements ss = .ok groups ∧ groups.flatMap (·.filters) = leavesOfAll ss ∧
      ∃ runs, List.Forall₂ (fun s run => run ≠ [] ∧ Yields s run) ss runs ∧
        runs.flatten = groups := by
  intro ss groups
  have h : ofStatements ss = .ok groups := by decide +kernel
  obtain ⟨hleaves, -, hruns, -⟩ := ofStatements_keep_leaves h
  exact ⟨h, hleaves, hruns⟩

end Group

end BriefSearch
