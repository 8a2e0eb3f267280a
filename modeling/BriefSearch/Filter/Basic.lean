/-!
# Filter trees

* **`Operator`** — AND and OR.
* **`Filter`** — a field equals a value.
* **`Statement`** — a filter, or statements joined by one operator.
* **`Statement.leaves`** — the filters of a tree from left to right.
-/

namespace BriefSearch

/-- How the statements of a group are joined. -/
inductive Operator where
  | and
  | or
  deriving DecidableEq, Repr

/-- The word for an operator, as queries and messages have it. -/
def Operator.word : Operator → String
  | .and => "AND"
  | .or => "OR"

/-- The condition that a field has a value. -/
structure Filter where
  name : String
  value : String
  deriving DecidableEq, Repr

/-- A filter or a group of statements under one operator. -/
inductive Statement where
  | filter (f : Filter)
  | group (operator : Operator) (statements : List Statement)
  deriving Repr

namespace Statement

/-- The name of a statement's form, as messages have it. -/
def kind : Statement → String
  | filter _ => "FieldFilter"
  | group _ _ => "StatementGroup"

mutual

/-- The filters of a tree from left to right. -/
def leaves : Statement → List Filter
  | filter f => [f]
  | group _ statements => leavesOfAll statements

/-- The filters of a list of trees from left to right. -/
def leavesOfAll : List Statement → List Filter
  | [] => []
  | s :: rest => s.leaves ++ leavesOfAll rest

end

end Statement

end BriefSearch
