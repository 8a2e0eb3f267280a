import BriefSearch.Json
import BriefSearch.OrderedMap

/-!
# Search parameters

* **`Parameters`** — names with the values given to them, in order of first use.
* **`Parameters.push`**, **`set`**, **`merge`** — adding a value, replacing all values, and adding
  all values of other parameters.
* **`Parameters.toPairs`** — the flat list of names and values that a request carries.
-/

namespace BriefSearch

/-- Parameter names, each with its list of values. -/
structure Parameters where
  entries : OrderedMap String (List String)
  deriving DecidableEq, Repr

namespace Parameters

/-- No parameters. -/
def empty : Parameters :=
  ⟨.empty⟩

/-- Adds values to those a name has. -/
def extend (p : Parameters) (name : String) (values : List String) : Parameters :=
  ⟨p.entries.alter name fun old => old.getD [] ++ values⟩

/-- Adds a value to those a name has. -/
def push (p : Parameters) (name value : String) : Parameters :=
  p.extend name [value]

/-- Replaces whatever values a name has by a single one. -/
def set (p : Parameters) (name value : String) : Parameters :=
  ⟨p.entries.insert name [value]⟩

/-- Adds all values of other parameters. -/
def merge (p q : Parameters) : Parameters :=
  q.entries.entries.foldl (fun p e => p.extend e.1 e.2) p

/-- The values of a name. -/
def get? (p : Parameters) (name : String) : Option (List String) :=
  p.entries.get? name

/-- Holds when no name has values. -/
def isEmpty (p : Parameters) : Bool :=
  p.entries.isEmpty

/-- Names and values one by one, the values of one name next to each other. -/
def toPairs (p : Parameters) : List (String × String) :=
  p.entries.entries.flatMap fun e => e.2.map (e.1, ·)

/-- The parameters that pushing the pairs one by one gives. -/
def ofPairs (pairs : List (String × String)) : Parameters :=
  pairs.foldl (fun p pair => p.push pair.1 pair.2) empty

/-- An object with a list of values for each name. -/
def toJson (p : Parameters) : Json :=
  .object (p.entries.entries.map fun e => (e.1, .texts e.2))

end Parameters

end BriefSearch
