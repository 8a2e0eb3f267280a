import BriefSearch.Distinct
import BriefSearch.Xml.Basic
import BriefSearch.Xml.Markup
import BriefSearch.Xml.Reference

/-!
# Documents

* **`Xml.Scope`** — the namespaces that qualifiers stand for.
* **`Xml.tree?`** — the root element that a list of markup forms.
* **`Xml.parse?`** — the root element of a document.

Tags have to match by the names as they are written, and there is exactly one root. Every
qualifier has to be declared, and an element has each attribute once, by its name and namespace.
-/

namespace BriefSearch.Xml

/-! ### Namespaces -/

/-- The namespace of the qualifier `xml`. -/
def xmlSpace : String :=
  "http://www.w3.org/XML/1998/namespace"

/-- The namespace of declarations, which no qualifier may be bound to. -/
def declarationSpace : String :=
  "http://www.w3.org/2000/xmlns/"

/-- Qualifiers with their namespaces, the innermost declarations first. The empty qualifier stands
for the default namespace. -/
abbrev Scope := List (List Char × String)

/-- The namespace of a qualifier. -/
def Scope.space? (scope : Scope) (qualifier : List Char) : Option String :=
  (scope.find? fun d => d.1 = qualifier).map (·.2)

/-- What one attribute of a tag does: it declares a namespace, gives a value, or declares what holds
anyway. -/
inductive Role where
  | declaration (qualifier : List Char) (space : String)
  | valued (name : WrittenName) (value : String)
  | nothing

/-- The name that declares namespaces. -/
def declaring : List Char :=
  "xmlns".toList

/-- The role of an attribute. The qualifier `xml` and its namespace belong together, and the
namespace of declarations cannot be declared. -/
def Role.of? (name : WrittenName) (value : String) : Option Role :=
  if name.qualifier = declaring then
    if value = declarationSpace then none
    else if name.localName = "xml".toList then
      if value = xmlSpace then some .nothing else none
    else if value = xmlSpace then none
    else some (.declaration name.localName value)
  else if name.localName = declaring then
    if value = xmlSpace || value = declarationSpace then none
    else some (.declaration [] value)
  else some (.valued name value)

/-- The roles of all attributes of a tag. -/
def roles? : List (WrittenName × List Char) → Option (List Role)
  | [] => some []
  | (name, cs) :: rest =>
    match (attributeValue? cs).bind (Role.of? name) with
    | none => none
    | some role => (roles? rest).map (role :: ·)

/-- The namespaces that a tag declares. -/
def declarations (roles : List Role) : Scope :=
  roles.filterMap fun
    | .declaration qualifier space => some (qualifier, space)
    | _ => none

/-- The attributes that give values. -/
def valuesOf (roles : List Role) : List (WrittenName × String) :=
  roles.filterMap fun
    | .valued name value => some (name, value)
    | _ => none

/-- Holds when a tag declares no qualifier twice; only the default namespace may be repeated. -/
def declaresOnce (declared : Scope) : Bool :=
  isDistinct ((declared.map (·.1)).filter (· ≠ []))

/-- The name of an element. -/
def elementName? (scope : Scope) (name : WrittenName) : Option Name :=
  if name.qualifier = declaring then none
  else
    match scope.space? name.qualifier with
    | some space => some ⟨some space, .ofList name.localName⟩
    | none => if name.qualifier.isEmpty then some ⟨none, .ofList name.localName⟩ else none

/-- The name of an attribute: without qualifier it is in no namespace. -/
def attributeName? (scope : Scope) (name : WrittenName) : Option Name :=
  if name.qualifier.isEmpty then some ⟨none, .ofList name.localName⟩
  else if name.qualifier = "xml".toList then some ⟨some xmlSpace, .ofList name.localName⟩
  else (scope.space? name.qualifier).map fun space => ⟨some space, .ofList name.localName⟩

/-- The attributes with their names resolved. -/
def attributes? (scope : Scope) : List (WrittenName × String) → Option (List Attribute)
  | [] => some []
  | (name, value) :: rest =>
    match attributeName? scope name with
    | none => none
    | some name => (attributes? scope rest).map (⟨name, value⟩ :: ·)

/-! ### Trees -/

/-- An element whose closing tag is still to come. -/
structure Opened where
  /-- Its name as written, which the closing tag has to repeat. -/
  written : WrittenName
  name : Name
  attributes : List Attribute
  /-- The namespaces inside it. -/
  scope : Scope
  /-- Its children so far, the last one first. -/
  children : List Node

/-- The element, after its closing tag. -/
def Opened.element (o : Opened) : Node :=
  .element o.name o.attributes o.children.reverse

/-- Opens an element inside a scope. -/
def Opened.of? (scope : Scope) (written : WrittenName)
    (attributes : List (WrittenName × List Char)) : Option Opened :=
  match roles? attributes with
  | none => none
  | some roles =>
    let declared := declarations roles
    let inner := declared ++ scope
    match elementName? inner written, attributes? inner (valuesOf roles) with
    | some name, some attributes =>
      if declaresOnce declared && isDistinct (attributes.map (·.name)) then
        some ⟨written, name, attributes, inner, []⟩
      else none
    | _, _ => none

/-- A document of which a part has been read: the open elements, the innermost one first, and the
root once it has been closed. -/
structure Progress where
  opened : List Opened
  /-- The root, once closed. -/
  root : Option Node

/-- The namespaces at the place reached. -/
def Progress.scope (p : Progress) : Scope :=
  match p.opened with
  | [] => []
  | o :: _ => o.scope

/-- Adds a node to the innermost open element, or an element as the root. -/
def Progress.add? (p : Progress) (node : Node) : Option Progress :=
  match p.opened with
  | o :: outer => some { p with opened := { o with children := node :: o.children } :: outer }
  | [] =>
    match p.root, node with
    | none, .element name attributes children =>
      some { p with root := some (.element name attributes children) }
    | _, .comment _ => some p
    | _, .instruction _ _ => some p
    | _, _ => none

/-- Goes on by one piece of markup. -/
def Progress.step? (p : Progress) : Markup → Option Progress
  | .opening written attributes closed =>
    match Opened.of? p.scope written attributes with
    | none => none
    | some o =>
      if closed then p.add? o.element
      else if p.opened.isEmpty && p.root.isSome then none
      else some { p with opened := o :: p.opened }
  | .closing written =>
    match p.opened with
    | [] => none
    | o :: outer =>
      if o.written = written then Progress.add? { p with opened := outer } o.element else none
  | .text cs =>
    if p.opened.isEmpty then if cs.all isSpace then some p else none
    else (textContent? cs).bind fun content => p.add? (.text content)
  | .verbatim cs => p.add? (.text (verbatimContent cs))
  | .comment cs => p.add? (.comment (.ofList cs))
  | .instruction target cs => p.add? (.instruction (.ofList target) (.ofList cs))

/-- The root element that a list of markup forms. -/
def tree? (markup : List Markup) : Option Node :=
  match markup.foldlM Progress.step? ⟨[], none⟩ with
  | some ⟨[], root⟩ => root
  | _ => none

/-- The root element of a document; none if the text is not a well-formed document. -/
def parse? (document : String) : Option Node :=
  (markup? document.toList).bind tree?

end BriefSearch.Xml
