/-!
# XML trees

* **`Xml.Name`** — a local name in a namespace or in none.
* **`Xml.Node`** — elements, texts, comments and processing instructions.
* **`Node.text`** — all text below a node.
* **`Node.attribute?`** — the value of an attribute without namespace.
-/

namespace BriefSearch.Xml

/-- A name after its qualifier has been replaced by the namespace it stands for. -/
structure Name where
  space : Option String
  /-- The name inside the namespace. -/
  localName : String
  deriving DecidableEq, Repr

/-- An attribute with its value. -/
structure Attribute where
  name : Name
  /-- Its value after references and line breaks have been resolved. -/
  value : String
  deriving DecidableEq, Repr

/-- A node of an XML tree. -/
inductive Node where
  | element (name : Name) (attributes : List Attribute) (children : List Node)
  | text (content : String)
  | comment (content : String)
  | instruction (target content : String)
  deriving Repr

namespace Node

/-- The name of an element. -/
def name? : Node → Option Name
  | element name _ _ => some name
  | _ => none

/-- The child nodes of an element; other nodes have none. -/
def children : Node → List Node
  | element _ _ children => children
  | _ => []

/-- The value of the attribute of the given name that is in no namespace. -/
def attribute? (localName : String) : Node → Option String
  | element _ attributes _ =>
    (attributes.find? fun a => a.name = ⟨none, localName⟩).map (·.value)
  | _ => none

/-- Holds for an element of the given name. -/
def hasName (name : Name) (node : Node) : Bool :=
  node.name? = some name

mutual

/-- The texts in a node and below it, in document order. -/
def texts : Node → List String
  | element _ _ children => textsOfAll children
  | text content => [content]
  | comment _ => []
  | instruction _ _ => []

/-- The texts in nodes and below them. -/
def textsOfAll : List Node → List String
  | [] => []
  | node :: rest => node.texts ++ textsOfAll rest

end

/-- All text in a node and below it, one piece behind the other. -/
def content (node : Node) : String :=
  "".intercalate node.texts

end Node

end BriefSearch.Xml
