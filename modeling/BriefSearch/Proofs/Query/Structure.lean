import BriefSearch.Proofs.Query.Groups
import BriefSearch.Proofs.Query.Joined

/-!
# The structure of a query

The commas of a query end its field and the word `exact`.  Values are escaped and cannot add to
them.  Names of fields stand in a query as they are, so the commas of a name are the only others.

* **`queryParts`** — what the commas of a query separate;
* **`IsQueryOn`** — a query for exact values of a field;
* **`isQueryOn_of_query`**, **`name_ne_empty_of_compile`** — groups are asked for by such queries on
  their field, which has a name;
* **`compile_structure`** — both for all queries of statements;
* **`compile_comma_in_name`** — a comma in a name adds a part.
-/

namespace BriefSearch

/-! ### Parts -/

/-- What the commas of a query separate. -/
def queryParts (q : String) : List String :=
  (q.toList.splitOn ',').map .ofList

theorem queryParts_append_comma (a b : String) :
    queryParts (a ++ "," ++ b) = queryParts a ++ queryParts b := by
  have hlist : (a ++ "," ++ b).toList = a.toList ++ ',' :: b.toList := by
    rw [String.toList_append, String.toList_append, List.append_assoc]
    rfl
  rw [queryParts, hlist, List.splitOn_append_cons_self, List.map_append, queryParts, queryParts]

theorem queryParts_of_comma_notMem {s : String} (h : ',' ∉ s.toList) : queryParts s = [s] := by
  rw [queryParts, List.splitOn_eq_singleton h, List.map_singleton, String.ofList_toList]

theorem count_comma_append (a b : String) :
    (a ++ "," ++ b).toList.count ',' = a.toList.count ',' + 1 + b.toList.count ',' := by
  rw [String.toList_append, String.toList_append, List.count_append, List.count_append]
  rfl

/-! ### Queries on a field -/

/-- The field, `exact` and a text without commas, in this order. -/
structure IsQueryOn (field q : String) : Prop where
  /-- The query has two commas besides those of the field. -/
  commas : q.toList.count ',' = field.toList.count ',' + 2
  parts : ∃ text, queryParts q = queryParts field ++ ["exact", text]

theorem isQueryOn_of_comma_notMem (field : String) {text : String} (h : ',' ∉ text.toList) :
    IsQueryOn field (field ++ ",exact," ++ text) := by
  have hsplit : field ++ ",exact," ++ text = field ++ "," ++ ("exact" ++ "," ++ text) := by
    have hmiddle : ",exact," = "," ++ "exact" ++ "," := rfl
    rw [hmiddle]
    simp only [String.append_assoc]
  rw [hsplit]
  constructor
  · have hexact : "exact".toList.count ',' = 0 := rfl
    have htext : text.toList.count ',' = 0 := List.count_eq_zero.2 h
    rw [count_comma_append, count_comma_append]
    omega
  · refine ⟨text, ?_⟩
    have hexact : queryParts "exact" = ["exact"] := queryParts_of_comma_notMem (by decide)
    rw [queryParts_append_comma, queryParts_append_comma, hexact, queryParts_of_comma_notMem h]
    rfl

/-- Where the name of the field has no comma, the query has its three parts and no more. -/
theorem IsQueryOn.of_comma_notMem {field q : String} (h : IsQueryOn field q)
    (hfield : ',' ∉ field.toList) :
    q.toList.count ',' = 2 ∧ ∃ text, queryParts q = [field, "exact", text] := by
  obtain ⟨hcommas, text, htext⟩ := h
  constructor
  · have hzero : field.toList.count ',' = 0 := List.count_eq_zero.2 hfield
    omega
  · refine ⟨text, ?_⟩
    rw [htext, queryParts_of_comma_notMem hfield]
    rfl

namespace Vocabulary

variable (vocabulary : Vocabulary)

/-- **A group is asked for by a query on its field.** -/
theorem isQueryOn_of_query {g : Group} {q : String} (h : vocabulary.query g = .ok q) :
    ∃ name, g.commonField = .ok name ∧ IsQueryOn (vocabulary.fields.serviceName name) q := by
  obtain ⟨name, hname, rfl⟩ := vocabulary.query_eq_ok_iff.1 h
  refine ⟨name, hname, isQueryOn_of_comma_notMem _ ?_⟩
  exact (separable_queryValues vocabulary _ (Group.commonField_eq_ok_iff.1 hname).1).comma

/-- Every filter of statements that compile is on a field with a name. -/
theorem name_ne_empty_of_compile {statements : List Statement} {p : Parameters}
    (h : vocabulary.compile statements = .ok p) :
    ∀ f ∈ Statement.leavesOfAll statements, f.name ≠ "" := by
  intro f hf
  obtain ⟨groups, queries, hgroups, hqueries, rfl⟩ := vocabulary.compile_eq_ok_iff.1 h
  rw [← Group.flatMap_filters_ofStatements hgroups] at hf
  obtain ⟨g, hg, hfg⟩ := List.mem_flatMap.1 hf
  obtain ⟨q, -, hq⟩ := exists_mem_of_forall₂ (vocabulary.mapM_query_eq_ok_iff.1 hqueries) hg
  obtain ⟨name, hname, -⟩ := vocabulary.query_eq_ok_iff.1 hq
  obtain ⟨-, hne, hall⟩ := Group.commonField_eq_ok_iff.1 hname
  rw [hall f hfg]
  exact hne

/-- A query that asks for a group on its field.  Where the service's name for the field has no comma,
the query has two commas and three parts: that name, `exact` and the values. -/
def Asks (g : Group) (q : String) : Prop :=
  ∃ name field, g.field? = some name ∧ name ≠ "" ∧ vocabulary.fields.serviceName name = field ∧
    IsQueryOn field q ∧
    (',' ∉ field.toList → q.toList.count ',' = 2 ∧ ∃ text, queryParts q = [field, "exact", text])

/-- **Only the name of a field can change the structure of a query.**  The groups of statements are
asked for one by one, each by a query on its field.  A filter on a field without a name is never
asked for. -/
theorem compile_structure (statements : List Statement) :
    (∀ p, vocabulary.compile statements = .ok p →
      ∃ groups, Group.ofStatements statements = .ok groups ∧
        List.Forall₂ vocabulary.Asks groups ((p.get? queryParameter).getD [])) ∧
    ((∃ f ∈ Statement.leavesOfAll statements, f.name = "") →
      ∃ fault, vocabulary.compile statements = .error fault) := by
  constructor
  · intro p hp
    obtain ⟨groups, queries, hgroups, hqueries, rfl⟩ := vocabulary.compile_eq_ok_iff.1 hp
    refine ⟨groups, hgroups, ?_⟩
    rw [Parameters.get?_ofQueries]
    refine (vocabulary.mapM_query_eq_ok_iff.1 hqueries).imp ?_
    intro g q hq
    obtain ⟨name, hname, hon⟩ := vocabulary.isQueryOn_of_query hq
    exact ⟨name, _, Group.field?_of_commonField hname, (Group.commonField_eq_ok_iff.1 hname).2.1,
      rfl, hon, hon.of_comma_notMem⟩
  · rintro ⟨f, hf, hempty⟩
    cases h : vocabulary.compile statements with
    | error fault => exact ⟨fault, rfl⟩
    | ok p => exact absurd hempty (vocabulary.name_ne_empty_of_compile h f hf)

/-- Commas and keywords in values add nothing to a query, and a filter without a name beside a
filter with one is refused. -/
theorem compile_structure_mapped :
    (∃ groups, Group.ofStatements [.group .or [.filter ⟨"type", "a,b"⟩, .filter ⟨"type", "c OR"⟩]]
        = .ok groups ∧
      List.Forall₂ (Asks ⟨.ofList [("type", "rtype")], .empty⟩) groups
        (((Parameters.ofQueries ["rtype,exact,a b OR c "]).get? queryParameter).getD [])) ∧
    ∃ fault, compile ⟨.ofList [("type", "rtype")], .empty⟩
      [.group .and [.filter ⟨"type", "a"⟩, .filter ⟨"", "b"⟩]] = .error fault := by
  constructor
  · refine (compile_structure _ _).1 _ ?_
    decide +kernel
  · refine (compile_structure _ _).2 ⟨⟨"", "b"⟩, ?_, rfl⟩
    decide

/-- A comma in the name of a field is taken for the end of the name. -/
theorem compile_comma_in_name :
    compile ⟨.empty, .empty⟩ [.filter ⟨"title,any", "x"⟩]
        = .ok (.ofQueries ["title,any,exact,x"]) ∧
      "title,any,exact,x".toList.count ',' ≠ 2 ∧
      queryParts "title,any,exact,x" = ["title", "any", "exact", "x"] := by
  refine ⟨?_, ?_, ?_⟩
  · decide +kernel
  · decide
  · decide +kernel

end Vocabulary

end BriefSearch
