import BriefSearch.Proofs.Query.Groups
import BriefSearch.Proofs.Query.Joined

/-!
# Queries mean what their statements mean

A truth assignment says of every field and value of the service whether the field has the value.
Statements are evaluated under it from their trees, queries by reading them the way the service
does, and the two agree.

* **`Statement.holds`** — the truth of a tree;
* **`Condition.ofQuery?`**, **`Condition.allHold?`** — a query as the service reads it, and the
  truth of all queries of a search;
* **`allHold?_compile`** — compiled statements hold when the statements do.
-/

namespace BriefSearch

/-! ### The meaning of trees -/

/-- The truth of joined statements: AND of none is true and OR of none is false. -/
def Operator.combine : Operator → List Bool → Bool
  | and, truths => truths.all id
  | or, truths => truths.any id

theorem Operator.combine_singleton (op : Operator) (b : Bool) : op.combine [b] = b := by
  cases op
  · exact Bool.and_true b
  · exact Bool.or_false b

theorem Operator.combine_append (op : Operator) (as bs : List Bool) :
    op.combine (as ++ bs) = op.combine [op.combine as, op.combine bs] := by
  cases op
  · simp [combine, List.all_append]
  · simp [combine, List.any_append]

theorem Operator.combine_cons (op : Operator) (b : Bool) (bs : List Bool) :
    op.combine (b :: bs) = op.combine [b, op.combine bs] := by
  rw [← List.singleton_append, combine_append, combine_singleton]

namespace Statement

mutual

/-- The truth of a tree, given that of its filters. -/
def holds (truth : Filter → Bool) : Statement → Bool
  | filter f => truth f
  | group op statements => op.combine (truths truth statements)

/-- The truth of each tree of a list. -/
def truths (truth : Filter → Bool) : List Statement → List Bool
  | [] => []
  | s :: rest => s.holds truth :: truths truth rest

end

end Statement

/-! ### The meaning of groups -/

namespace Group

variable (truth : Filter → Bool)

/-- The truth of a group, given that of its filters. -/
def holds (g : Group) : Bool :=
  g.operator.combine (g.filters.map truth)

mutual

/-- What a group absorbs from a statement means what the statement means: a nested group of the same
operator is associative, and a single statement is the group it stands in. -/
theorem combine_absorbed (op : Operator) :
    ∀ (s : Statement) {filters : List Filter}, absorbed op s = .ok filters →
      op.combine (filters.map truth) = s.holds truth
  | .filter f, filters, h => by
    rw [absorbed] at h
    cases h
    exact op.combine_singleton (truth f)
  | .group inner statements, filters, h => by
    obtain ⟨hplace, hall⟩ := absorbed_group_eq_ok_iff.1 h
    rw [Statement.holds, combine_absorbedAll op statements hall]
    rcases hplace with hone | rfl
    · obtain ⟨s, rfl⟩ := List.length_eq_one_iff.1 hone
      rw [Statement.truths, Statement.truths, Operator.combine_singleton,
        Operator.combine_singleton]
    · rfl

theorem combine_absorbedAll (op : Operator) :
    ∀ (statements : List Statement) {filters : List Filter},
      absorbedAll op statements = .ok filters →
      op.combine (filters.map truth) = op.combine (Statement.truths truth statements)
  | [], filters, h => by
    rw [absorbedAll] at h
    cases h
    rfl
  | s :: rest, filters, h => by
    obtain ⟨first, more, hfirst, hmore, rfl⟩ := absorbedAll_cons_eq_ok_iff.1 h
    rw [List.map_append, Operator.combine_append, combine_absorbed op s hfirst,
      combine_absorbedAll op rest hmore, Statement.truths,
      Operator.combine_cons op (s.holds truth) (Statement.truths truth rest)]

end

theorem all_holds_single (filters : List Filter) :
    (filters.map single).all (holds truth) = Operator.and.combine (filters.map truth) := by
  have hone : ∀ f : Filter, holds truth (single f) = truth f :=
    fun f => Operator.and.combine_singleton (truth f)
  rw [Operator.combine, List.all_map, List.all_map]
  congr 1
  funext f
  exact hone f

theorem all_holds_ofFilters {op : Operator} {filters : List Filter} {groups : List Group}
    (h : ofFilters op filters = .ok groups) :
    groups.all (holds truth) = op.combine (filters.map truth) := by
  rcases ofFilters_eq_ok_iff.1 h with ⟨-, rfl⟩ | ⟨-, rfl, rfl⟩
  · rw [List.all_cons, List.all_nil, Bool.and_true, holds]
  · exact all_holds_single truth filters

theorem all_holds_ofStatement {s : Statement} {groups : List Group}
    (h : ofStatement s = .ok groups) : groups.all (holds truth) = s.holds truth := by
  cases s with
  | filter f =>
    rw [ofStatement] at h
    cases h
    exact all_holds_single truth [f] |>.trans (Operator.and.combine_singleton (truth f))
  | group op statements =>
    obtain ⟨filters, hfilters, hgroups⟩ := ofStatement_group_eq_ok_iff.1 h
    rw [all_holds_ofFilters truth hgroups, combine_absorbedAll truth op statements hfilters,
      Statement.holds]

/-- **The groups of statements hold when all statements do.** -/
theorem all_holds_ofStatements {statements : List Statement} {groups : List Group}
    (h : ofStatements statements = .ok groups) :
    groups.all (holds truth) = statements.all (Statement.holds truth) := by
  induction statements generalizing groups with
  | nil =>
    rw [ofStatements] at h
    cases h
    rfl
  | cons s rest ih =>
    obtain ⟨first, more, hfirst, hmore, rfl⟩ := ofStatements_cons_eq_ok_iff.1 h
    rw [List.all_append, all_holds_ofStatement truth hfirst, ih hmore, List.all_cons]

end Group

/-! ### The meaning of queries -/

/-- What a query asks for: that a field has values, joined by one operator. -/
structure Condition where
  field : String
  operator : Operator
  values : List String

namespace Condition

open Text

/-- The condition that joined values on a field write.  The operator is the one that joins them; a
text that both operators join has no reading, and one that none joins is a single value. -/
def ofText? (field text : String) : Option Condition :=
  match occurs Operator.and.joint text.toList, occurs Operator.or.joint text.toList with
  | true, true => none
  | true, false => some ⟨field, .and, Operator.and.split text⟩
  | false, true => some ⟨field, .or, Operator.or.split text⟩
  | false, false => some ⟨field, .and, [text]⟩

/-- The condition that a query writes: the field up to the first comma, `exact`, the values. -/
def ofQuery? (query : String) : Option Condition :=
  match cut? [','] query.toList with
  | none => none
  | some (field, rest) =>
    match after? "exact,".toList rest with
    | none => none
    | some text => ofText? (.ofList field) (.ofList text)

/-- The truth of a condition, given which fields have which values. -/
def holds (truth : String → String → Bool) (c : Condition) : Bool :=
  c.operator.combine (c.values.map (truth c.field))

/-- The truth of all queries of a search together, if each of them can be read. -/
def allHold? (truth : String → String → Bool) (queries : List String) : Option Bool :=
  (queries.mapM ofQuery?).map (·.all (holds truth))

theorem occurs_eq_false {op : Operator} {cs : List Char} (h : occurrences op.joint cs = 0) :
    occurs op.joint cs = false := by
  rw [← Bool.not_eq_true, occurs_iff op.joint_ne_nil]
  omega

/-- A separable text is read as the values that it joins. -/
theorem ofText?_separable {op : Operator} {values : List String} {text : String}
    (h : Separable op values text) (field : String) :
    ∃ op', ofText? field text = some ⟨field, op', values⟩ ∧
      ∀ truth : String → Bool, op'.combine (values.map truth) = op.combine (values.map truth) := by
  have hother := occurs_eq_false h.otherJoints
  -- Without a joint nothing tells the operators apart, but then there is a single value.
  by_cases hjoints : occurrences op.joint text.toList = 0
  · have hown := occurs_eq_false hjoints
    have hcut : cut? op.joint text.toList = none := by
      rwa [occurs, Option.isSome_eq_false_iff, Option.isNone_iff_eq_none] at hown
    have hsingle : values = [text] := by
      rw [← h.split, Operator.split, Operator.parts_of_cut?_eq_none hcut]
      simp
    refine ⟨.and, ?_, ?_⟩
    · rw [ofText?, hsingle]
      cases op with
      | and => rw [hown, show occurs Operator.or.joint text.toList = false from hother]
      | or => rw [hown, show occurs Operator.and.joint text.toList = false from hother]
    · intro truth
      rw [hsingle, List.map_singleton, Operator.combine_singleton, Operator.combine_singleton]
  · have hown : occurs op.joint text.toList = true :=
      (occurs_iff op.joint_ne_nil text.toList).2 (Nat.pos_of_ne_zero hjoints)
    refine ⟨op, ?_, fun truth => rfl⟩
    rw [ofText?]
    cases op with
    | and =>
      rw [hown, show occurs Operator.or.joint text.toList = false from hother]
      dsimp only
      rw [h.split]
    | or =>
      rw [hown, show occurs Operator.and.joint text.toList = false from hother]
      dsimp only
      rw [h.split]

end Condition

namespace Vocabulary

variable (vocabulary : Vocabulary) (truth : String → String → Bool)

/-- The truth of a filter: that the service's field has the code of the value. -/
def atom (f : Filter) : Bool :=
  let field := vocabulary.fields.serviceName f.name
  truth field (escapeValue (vocabulary.values.encode field f.value))

/-- **A query means what its group means**, if no comma cuts its field short. -/
theorem exists_ofQuery? {g : Group} {q : String} (hq : vocabulary.query g = .ok q)
    (hcomma : ∀ f ∈ g.filters, ',' ∉ (vocabulary.fields.serviceName f.name).toList) :
    ∃ c, Condition.ofQuery? q = some c ∧ c.holds truth = g.holds (vocabulary.atom truth) := by
  obtain ⟨name, hname, rfl⟩ := vocabulary.query_eq_ok_iff.1 hq
  obtain ⟨hne, -, hall⟩ := Group.commonField_eq_ok_iff.1 hname
  let field := vocabulary.fields.serviceName name
  let text := joined g.operator (vocabulary.queryValues field g)
  have hfield : ',' ∉ field.toList := by
    obtain ⟨f, hf⟩ := List.exists_mem_of_ne_nil _ hne
    have := hcomma f hf
    rwa [hall f hf] at this
  obtain ⟨op, hread, hop⟩ := Condition.ofText?_separable
    (separable_queryValues vocabulary field hne) field
  refine ⟨⟨field, op, vocabulary.queryValues field g⟩, ?_, ?_⟩
  · have hlist : (field ++ ",exact," ++ text).toList
        = field.toList ++ ',' :: ("exact,".toList ++ text.toList) := by
      rw [String.toList_append, String.toList_append, List.append_assoc]
      rfl
    show Condition.ofQuery? (field ++ ",exact," ++ text) = _
    rw [Condition.ofQuery?, hlist, Text.cut?_singleton hfield]
    dsimp only
    rw [Text.after?_eq_some rfl]
    dsimp only
    rw [String.ofList_toList, String.ofList_toList]
    exact hread
  · have hatoms : (vocabulary.queryValues field g).map (truth field)
        = g.filters.map (vocabulary.atom truth) := by
      rw [queryValues, List.map_map]
      refine List.map_congr_left fun f hf => ?_
      rw [atom, hall f hf]
      rfl
    rw [Condition.holds, hop, hatoms, Group.holds]

theorem allHold?_queries {groups : List Group} {queries : List String}
    (hqueries : groups.mapM vocabulary.query = .ok queries)
    (hcomma : ∀ f ∈ groups.flatMap (·.filters),
      ',' ∉ (vocabulary.fields.serviceName f.name).toList) :
    Condition.allHold? truth queries
      = some (groups.all (Group.holds (vocabulary.atom truth))) := by
  induction groups generalizing queries with
  | nil =>
    cases hqueries
    rfl
  | cons g groups ih =>
    rw [List.mapM_cons] at hqueries
    cases hq : vocabulary.query g with
    | error fault =>
      rw [hq] at hqueries
      cases hqueries
    | ok q =>
      cases hmore : groups.mapM vocabulary.query with
      | error fault =>
        rw [hq, hmore] at hqueries
        cases hqueries
      | ok more =>
        rw [hq, hmore] at hqueries
        cases hqueries
        rw [List.flatMap_cons, List.forall_mem_append] at hcomma
        obtain ⟨c, hread, hc⟩ := exists_ofQuery? vocabulary truth hq hcomma.1
        have hrest := ih hmore hcomma.2
        rw [Condition.allHold?, Option.map_eq_some_iff] at hrest
        obtain ⟨cs, hcs, hall⟩ := hrest
        rw [Condition.allHold?, List.mapM_cons, hread, hcs]
        show some ((c :: cs).all (Condition.holds truth)) = _
        rw [List.all_cons, List.all_cons, hc, hall]

/-- **Compiling preserves meaning.**  Read back by the service, the queries that statements compile
to hold together exactly when all the statements hold, whatever fields have whatever values. -/
theorem allHold?_compile {statements : List Statement} {p : Parameters}
    (hcomma : ∀ f ∈ Statement.leavesOfAll statements,
      ',' ∉ (vocabulary.fields.serviceName f.name).toList)
    (hp : vocabulary.compile statements = .ok p) :
    Condition.allHold? truth ((p.get? queryParameter).getD [])
      = some (statements.all (Statement.holds (vocabulary.atom truth))) := by
  obtain ⟨groups, queries, hgroups, hqueries, rfl⟩ := vocabulary.compile_eq_ok_iff.1 hp
  rw [← Group.flatMap_filters_ofStatements hgroups] at hcomma
  rw [Parameters.get?_ofQueries, allHold?_queries vocabulary truth hqueries hcomma,
    Group.all_holds_ofStatements _ hgroups]

/-- Nested groups, an empty one, mapped names and values, and values with keywords and commas. -/
theorem allHold?_compile_nested :
    Condition.allHold? (fun field value => field == "rtype" && value == "a b")
      (((Parameters.ofQueries ["lang,exact,eng", "title,exact,  x", "rtype,exact,a b OR x "]).get?
        queryParameter).getD [])
      = some ([.group .and [.filter ⟨"lang", "English"⟩,
          .group .or [.group .and [.filter ⟨"title", "AND, x"⟩]], .group .and []],
        .group .or [.filter ⟨"type", "a,b"⟩,
          .group .or [.filter ⟨"type", "x OR"⟩, .group .or []]]].all
        (Statement.holds (atom ⟨.ofList [("type", "rtype")],
          .ofTables [("lang", [("eng", "English")])]⟩
          fun field value => field == "rtype" && value == "a b"))) := by
  refine allHold?_compile _ _ ?_ ?_
  · decide
  · decide +kernel

end Vocabulary

end BriefSearch
