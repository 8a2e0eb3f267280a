import BriefSearch.Xml.Basic

/-!
# Elements by path

* **`Xml.Located`** — a node together with its place below the scope it was found in.
* **`Xml.select`** — the elements that a path of names leads to: the first name is looked for
  anywhere in the scope, every further one among the children of the elements found so far.
* **`Node.value?`**, **`Node.values`** — the texts of those elements.
-/

namespace BriefSearch.Xml

/-- A node and the child positions that lead to it from the scope. -/
structure Located where
  /-- The child positions from the scope down. -/
  place : List Nat
  node : Node

namespace Located

mutual

/-- A node at a place and all nodes below it, in document order. -/
def below (place : List Nat) : Node → List Located
  | .element name attributes children =>
    ⟨place, .element name attributes children⟩ :: belowAll place 0 children
  | .text content => [⟨place, .text content⟩]
  | .comment content => [⟨place, .comment content⟩]
  | .instruction target content => [⟨place, .instruction target content⟩]

/-- The nodes at the places from the given child position on, and all nodes below them. -/
def belowAll (place : List Nat) (position : Nat) : List Node → List Located
  | [] => []
  | node :: rest => below (place ++ [position]) node ++ belowAll place (position + 1) rest

end

/-- The children of a node with their places. -/
def children (found : Located) : List Located :=
  found.node.children.zipIdx.map fun (node, position) => ⟨found.place ++ [position], node⟩

end Located

/-- Goes on from the elements found so far to their children of the given names, step by step. -/
def descend (found : List Located) : List Name → List Located
  | [] => found
  | name :: rest =>
    descend ((found.flatMap (·.children)).filter (·.node.hasName name)) rest

/-- The elements that a path of names leads to from a scope. -/
def select (scope : Node) : List Name → List Located
  | [] => []
  | name :: rest => descend ((Located.below [] scope).filter (·.node.hasName name)) rest

namespace Node

/-- The elements that a path of names leads to. -/
def elements (scope : Node) (path : List Name) : List Node :=
  (select scope path).map (·.node)

/-- The first element that a path of names leads to. -/
def element? (scope : Node) (path : List Name) : Option Node :=
  (scope.elements path).head?

/-- The texts of the elements that a path of names leads to. -/
def values (scope : Node) (path : List Name) : List String :=
  (scope.elements path).map (·.content)

/-- The text of the first element that a path of names leads to. -/
def value? (scope : Node) (path : List Name) : Option String :=
  (scope.values path).head?

end Node

end BriefSearch.Xml
