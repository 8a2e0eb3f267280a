import BriefSearch.Yaml.Node
import BriefSearch.Yaml.Scan

/-!
# Documents with their aliases

* **`Yaml.Value`** — a node in which aliases refer by number.
* **`Yaml.Document`** — the value of a document and the values that aliases refer to.
* **`Yaml.parse?`** — the document of a text.

An anchor gets as its number the count of the different names before it. A name that is given again
gets a new number, which a later name may get too; the last node of a number is the one that counts.

A short text can refer to its parts very often. `Document.aliasLimit` says how many aliases a reader
follows at most, so that its work stays in proportion to the text.
-/

namespace BriefSearch.Yaml

/-- A node without its anchor, in which aliases refer by number. -/
inductive Value where
  | alias (number : Nat)
  | scalar (tag : Option Tag) (text : String) (plain : Bool)
  | sequence (items : List Value)
  | mapping (entries : List (Value × Value))
  deriving Repr

/-- The numbers of the names given so far. -/
abbrev Numbers := List (String × Nat)

/-- The number of a name. -/
def Numbers.number? (numbers : Numbers) (name : String) : Option Nat :=
  (numbers.find? (·.1 = name)).map (·.2)

/-- Gives a number to a name. -/
def Numbers.give (numbers : Numbers) (name : String) : Numbers :=
  if (numbers.number? name).isSome then
    numbers.map fun entry => if entry.1 = name then (name, numbers.length) else entry
  else numbers ++ [(name, numbers.length)]

/-- The values that aliases refer to, in the order in which they begin. -/
abbrev Anchored := List (Nat × Value)

/-- A part of a document in which aliases have been numbered. -/
structure Numbered (α : Type) where
  part : α
  /-- The numbers of the names given up to its end. -/
  numbers : Numbers
  /-- The anchored values in it, in the order in which they begin. -/
  anchored : Anchored

/-- The numbers behind the anchor of a node. -/
def Properties.given (properties : Properties) (numbers : Numbers) : Numbers :=
  match properties.anchor with
  | some name => numbers.give name
  | none => numbers

/-- A value with its anchor before the values in it. -/
def Properties.anchored (properties : Properties) (numbers : Numbers) (value : Value)
    (inner : Anchored) : Anchored :=
  match properties.anchor with
  | some _ => (numbers.length, value) :: inner
  | none => inner

mutual

/-- Numbers the aliases of a node; none if a name is not given before. -/
def Node.numbered? (numbers : Numbers) : Node → Option (Numbered Value)
  | .alias name => (numbers.number? name).map fun n => ⟨.alias n, numbers, []⟩
  | .scalar properties text plain =>
    let value := Value.scalar properties.tag text plain
    some ⟨value, properties.given numbers, properties.anchored numbers value []⟩
  | .sequence properties items =>
    (numberedItems? (properties.given numbers) items).map fun inner =>
      let value := Value.sequence inner.part
      ⟨value, inner.numbers, properties.anchored numbers value inner.anchored⟩
  | .mapping properties entries =>
    (numberedEntries? (properties.given numbers) entries).map fun inner =>
      let value := Value.mapping inner.part
      ⟨value, inner.numbers, properties.anchored numbers value inner.anchored⟩

/-- Numbers the aliases of nodes one by one. -/
def numberedItems? (numbers : Numbers) : List Node → Option (Numbered (List Value))
  | [] => some ⟨[], numbers, []⟩
  | node :: rest =>
    match node.numbered? numbers with
    | none => none
    | some first =>
      (numberedItems? first.numbers rest).map fun more =>
        ⟨first.part :: more.part, more.numbers, first.anchored ++ more.anchored⟩

/-- Numbers the aliases of keys and values one by one. -/
def numberedEntries? (numbers : Numbers) :
    List (Node × Node) → Option (Numbered (List (Value × Value)))
  | [] => some ⟨[], numbers, []⟩
  | (key, node) :: rest =>
    match key.numbered? numbers with
    | none => none
    | some key =>
      match node.numbered? key.numbers with
      | none => none
      | some first =>
        (numberedEntries? first.numbers rest).map fun more =>
          ⟨(key.part, first.part) :: more.part, more.numbers,
            key.anchored ++ first.anchored ++ more.anchored⟩

end

mutual

/-- The number of marks that a value is written with: one for a text or an alias, and one at each
end of a collection. -/
def Value.size : Value → Nat
  | .alias _ => 1
  | .scalar _ _ _ => 1
  | .sequence items => 2 + sizeItems items
  | .mapping entries => 2 + sizeEntries entries

/-- The number of marks that items are written with. -/
def sizeItems : List Value → Nat
  | [] => 0
  | value :: rest => value.size + sizeItems rest

/-- The number of marks that keys and values are written with. -/
def sizeEntries : List (Value × Value) → Nat
  | [] => 0
  | (key, value) :: rest => key.size + value.size + sizeEntries rest

end

/-- Holds for an alias. -/
def Value.isAlias : Value → Bool
  | .alias _ => true
  | _ => false

/-- A value and the values that aliases in it refer to. -/
structure Document where
  root : Value
  anchored : Anchored

/-- The value itself, or the last one of the number that an alias refers to by. -/
def Document.resolved (document : Document) : Value → Value
  | .alias n =>
    ((document.anchored.reverse.find? (·.1 = n)).map (·.2)).getD (.alias n)
  | value => value

/-- The number of aliases that may be followed in reading a document: a hundred for each of its
marks. -/
def Document.aliasLimit (document : Document) : Nat :=
  100 * document.root.size

/-- The document of a text; none if the text has more than one or is no stream. -/
def parse? (stream : String) : Option Document :=
  (lexemes? stream.toList).bind fun lexemes =>
    (document? lexemes).bind fun node =>
      (node.numbered? []).map fun inner => ⟨inner.part, inner.anchored⟩

end BriefSearch.Yaml
