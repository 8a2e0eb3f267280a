import BriefSearch.Response.Basic
import BriefSearch.Json
import BriefSearch.Vocabulary

/-!
# Facets

* **`Facet`** — the values that one aspect of the records found has, and how often each occurs.
* **`Response.facets`** — all facets of a response, by the field that a query asks for them with.
* **`Response.facet?`** — the facet of one id.
-/

namespace BriefSearch

/-- The values of one aspect with their frequencies. -/
structure Facet where
  /-- The aspect's name in the response. -/
  id : String
  terms : OrderedMap String UInt64
  deriving DecidableEq, Repr

namespace Facet

/-- The field that a query asks for the aspect of an id with. -/
def keyOf (id : String) : String :=
  "facet_" ++ id

/-- The field that a query asks for the aspect with. -/
def key (facet : Facet) : String :=
  keyOf facet.id

/-- How often a value occurs. -/
def frequency? (facet : Facet) (term : String) : Option UInt64 :=
  facet.terms.get? term

/-- The value and the frequency in an element; none if the element has no value. -/
def term? (mappers : ValueMappers) (id : String) (node : Xml.Node) : Option (String × UInt64) :=
  (node.attribute? "KEY").map fun code =>
    (mappers.decode (keyOf id) code, Response.countIn (node.attribute? "VALUE"))

/-- The facet in an element: its direct children hold the values. -/
def ofNode (mappers : ValueMappers) (id : String) (node : Xml.Node) : Facet where
  id := id
  terms := .ofList <|
    (node.children.filter (·.hasName (Response.searchName "FACET_VALUES"))).filterMap
      (term? mappers id)

/-- The facet as a JSON object. -/
def toJson (facet : Facet) : Json :=
  .object [
    ("id", .text facet.id),
    ("terms", .object (facet.terms.entries.map fun e => (e.1, .number e.2.toNat)))]

end Facet

namespace Response

/-- The elements that hold facets. -/
def facetNodes (response : Response) : List Xml.Node :=
  response.root.elements [searchName "FACET"]

/-- The facets by their fields, in the order in which the fields first occur; of several facets with
one name it is the last one. An element without a name is left out. -/
def facets (response : Response) (mappers : ValueMappers) : OrderedMap String Facet :=
  .ofList <| response.facetNodes.filterMap fun node =>
    (node.attribute? "NAME").map fun id => (Facet.keyOf id, Facet.ofNode mappers id node)

/-- The first facet of an id. -/
def facet? (response : Response) (id : String) (mappers : ValueMappers) : Option Facet :=
  (response.facetNodes.find? fun node => node.attribute? "NAME" = some id).map
    (Facet.ofNode mappers id)

end Response

end BriefSearch
