import BriefSearch.Query.Escape
import BriefSearch.Query.Group
import BriefSearch.Query.Parameters
import BriefSearch.Vocabulary

/-!
# Queries for filter trees

A query has the form `field,exact,v1 OR v2`; the service joins several queries by AND. Main
definitions:

* **`Vocabulary.query`** — the query of a group.
* **`Vocabulary.compile`** — the parameters for statements that all have to hold.
* **`CompileFault`** — why statements have no queries.
-/

namespace BriefSearch

/-- The groups that have no query: one without filters, one on a field without a name and one on
different fields. -/
inductive MalformedGroup where
  | noFilters
  | emptyField
  | mixedFields (first other : String)
  deriving DecidableEq, Repr

/-- The text of a malformed group. -/
def MalformedGroup.message : MalformedGroup → String
  | .noFilters => "group contains no filters"
  | .emptyField => "filter has an empty field name"
  | .mixedFields first other => "group mixes the fields " ++ first ++ " and " ++ other

/-- Why statements have no queries. -/
inductive CompileFault where
  | unsupported (shape : UnsupportedShape)
  | malformed (group : MalformedGroup)
  deriving DecidableEq, Repr

/-- The name of the parameter that carries a query. -/
def queryParameter : String :=
  "query"

/-- The field that all filters of a group are on. -/
def Group.commonField (g : Group) : Except MalformedGroup String :=
  match g.filters with
  | [] => .error .noFilters
  | first :: rest =>
    if first.name = "" then .error .emptyField
    else
      match rest.find? (·.name ≠ first.name) with
      | some other => .error (.mixedFields first.name other.name)
      | none => .ok first.name

namespace Vocabulary

/-- The values of a group as they stand in a query on the given field of the service. -/
def queryValues (vocabulary : Vocabulary) (field : String) (g : Group) : List String :=
  g.filters.map fun f => escapeValue (vocabulary.values.encode field f.value)

/-- The values behind one another, the operator's word between them. -/
def joined (operator : Operator) (values : List String) : String :=
  (" " ++ operator.word ++ " ").intercalate values

/-- The query of a group. -/
def query (vocabulary : Vocabulary) (g : Group) : Except MalformedGroup String :=
  g.commonField.map fun name =>
    let field := vocabulary.fields.serviceName name
    field ++ ",exact," ++ joined g.operator (vocabulary.queryValues field g)

/-- The parameters that ask for a group. -/
def render (vocabulary : Vocabulary) (g : Group) : Except MalformedGroup Parameters :=
  (vocabulary.query g).map (Parameters.empty.push queryParameter)

/-- Adds the parameters of groups one by one. -/
def renderOnto (vocabulary : Vocabulary) (p : Parameters) :
    List Group → Except MalformedGroup Parameters
  | [] => .ok p
  | g :: rest =>
    match vocabulary.render g with
    | .error group => .error group
    | .ok q => renderOnto vocabulary (p.merge q) rest

/-- The parameters for statements that all have to hold. Every tree is checked for its shape before
any query is written. -/
def compile (vocabulary : Vocabulary) (statements : List Statement) :
    Except CompileFault Parameters :=
  match Group.ofStatements statements with
  | .error shape => .error (.unsupported shape)
  | .ok groups => (vocabulary.renderOnto .empty groups).mapError .malformed

end Vocabulary

end BriefSearch
