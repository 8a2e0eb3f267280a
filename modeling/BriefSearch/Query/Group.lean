import BriefSearch.Distinct
import BriefSearch.Filter.Basic

/-!
# Groups on a single field

The search service joins values of one field by AND or OR and joins whole queries by AND only.
Main definitions:

* **`Group`** — filters joined by one operator.
* **`Group.ofStatements`** — a list of statements, all of which have to hold, as such groups.
* **`UnsupportedShape`** — the trees that have no such form.
-/

namespace BriefSearch

/-- The trees that the service cannot be asked for: a group inside a group of the other operator,
and OR between different fields. -/
inductive UnsupportedShape where
  | nested (inner outer : Operator)
  | acrossFields (operator : Operator) (fields : List String)
  deriving DecidableEq, Repr

/-- The text of an unsupported shape. -/
def UnsupportedShape.message : UnsupportedShape → String
  | .nested inner outer =>
    -- Only a group can fail to fit, and its kind does not depend on what it holds.
    "Encountered unsupported nested group: " ++ inner.word ++ " " ++ (Statement.group inner []).kind
      ++ " inside a " ++ outer.word ++ " group"
  | .acrossFields operator fields =>
    "Encountered " ++ operator.word ++ " operator between the fields "
      ++ ", ".intercalate fields
      ++ ". Primo only supports AND between different fields."

/-- Filters joined by one operator. -/
structure Group where
  operator : Operator
  filters : List Filter
  deriving DecidableEq, Repr

namespace Group

/-- A filter on its own. -/
def single (f : Filter) : Group :=
  ⟨.and, [f]⟩

/-- The field of the first filter. -/
def field? (g : Group) : Option String :=
  g.filters.head?.map (·.name)

mutual

/-- The filters of a statement inside a group of the given operator. A nested group may stand there
when it has that operator too, or a single statement, whose place it takes. -/
def absorbed (operator : Operator) : Statement → Except UnsupportedShape (List Filter)
  | .filter f => .ok [f]
  | .group inner statements =>
    if statements.length = 1 ∨ inner = operator then absorbedAll operator statements
    else .error (.nested inner operator)

/-- The filters of a list of statements inside a group of the given operator. -/
def absorbedAll (operator : Operator) : List Statement → Except UnsupportedShape (List Filter)
  | [] => .ok []
  | s :: rest =>
    match absorbed operator s with
    | .error shape => .error shape
    | .ok filters => (absorbedAll operator rest).map (filters ++ ·)

end

/-- The groups for filters that one operator joins: a single group if they are on one field, and a
group for each filter if AND joins them across fields. -/
def ofFilters (operator : Operator) (filters : List Filter) :
    Except UnsupportedShape (List Group) :=
  let fields := distinct (filters.map (·.name))
  if fields.length ≤ 1 then .ok [⟨operator, filters⟩]
  else
    match operator with
    | .and => .ok (filters.map single)
    | .or => .error (.acrossFields operator fields)

/-- The groups for one statement. -/
def ofStatement : Statement → Except UnsupportedShape (List Group)
  | .filter f => .ok [single f]
  | .group operator statements =>
    match absorbedAll operator statements with
    | .error shape => .error shape
    | .ok filters => ofFilters operator filters

/-- The groups for statements that all have to hold. -/
def ofStatements : List Statement → Except UnsupportedShape (List Group)
  | [] => .ok []
  | s :: rest =>
    match ofStatement s with
    | .error shape => .error shape
    | .ok groups => (ofStatements rest).map (groups ++ ·)

end Group

end BriefSearch
