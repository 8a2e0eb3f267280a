import BriefSearch.Distinct
import BriefSearch.Json
import BriefSearch.OrderedMap
import BriefSearch.Response.Basic
import BriefSearch.Text.Basic

/-!
# Records

* **`Doc`** — a record's element with the record's id.
* **`Record`** — everything the library reads from a record.
* **`Response.docs`** — the records of a response in order.
* **`Response.documents`** — the same by id, the last one of each id.
* **`Response.document?`** — the last record of one id.
-/

namespace BriefSearch

/-- An element of a response that holds a record, with the record's id. -/
structure Doc where
  id : String
  node : Xml.Node

/-- What a record says about a work. -/
structure Record where
  recordId : String
  /-- The organisation the record comes from. -/
  sourceId : Option String
  /-- The record's id there. -/
  sourceRecordId : Option String
  /-- The system it is kept in there. -/
  sourceSystem : Option String
  title : Option String
  description : Option String
  displayFormat : Option String
  isbns : List String
  /-- The addresses of pictures, each once. -/
  thumbnailUrls : List String
  publisher : Option String
  year : Option String
  /-- The language as a code of three letters. -/
  language : Option String
  materialType : Option String
  /-- The names of the creators in parts, the first name first. -/
  creators : List (List String)
  contributors : List String
  /-- All subjects in one text. -/
  subjects : Option String
  /-- The series with the number in it. -/
  seriesData : Option String
  onlineUrl : Option String
  deriving DecidableEq, Repr

namespace Doc

open Response (searchName recordName)

/-- The first text of a field in a section of the record. -/
def field? (doc : Doc) (part field : String) : Option String :=
  doc.node.value? [recordName part, recordName field]

/-- All texts of a field in a section of the record. -/
def fields (doc : Doc) (part field : String) : List String :=
  doc.node.values [recordName part, recordName field]

/-- The parts of a name: what follows the first comma and space comes first. -/
def nameParts (name : String) : List String :=
  match Text.cut? [',', ' '] name.toList with
  | some (last, first) => [.ofList first, .ofList last]
  | none => [name]

/-- A number of at least two digits. -/
def twoDigits (n : UInt32) : String :=
  if n < 10 then "0" ++ toString n.toNat else toString n.toNat

/-- The local display field of a number. -/
def localDisplayField? (doc : Doc) (number : UInt32) : Option String :=
  doc.field? "display" ("lds" ++ twoDigits number)

/-- The local search fields of a number. -/
def localSearchFields (doc : Doc) (number : UInt32) : List String :=
  doc.fields "search" ("lsr" ++ toString number.toNat)

/-- The record that an element holds. -/
def record (doc : Doc) : Record where
  recordId := doc.id
  sourceId := doc.field? "control" "sourceid"
  sourceRecordId := doc.field? "control" "sourcerecordid"
  sourceSystem := doc.field? "control" "sourcesystem"
  title := doc.field? "addata" "btitle"
  description := doc.field? "display" "description"
  displayFormat := doc.field? "display" "format"
  isbns := doc.fields "addata" "isbn"
  thumbnailUrls := distinct (doc.node.values [searchName "thumbnail"])
  publisher := doc.field? "addata" "pub"
  year := doc.field? "addata" "date"
  language := doc.field? "display" "language"
  materialType := doc.field? "display" "type"
  creators := (doc.fields "addata" "au").map nameParts
  contributors := doc.fields "addata" "addau"
  subjects := doc.field? "display" "subject"
  seriesData := doc.field? "addata" "seriestitle"
  onlineUrl := doc.node.value? [searchName "LINKS", searchName "linktorsrc"]

end Doc

/-- The record as a JSON object. -/
def Record.toJson (r : Record) : Json :=
  .object [
    ("record_id", .text r.recordId),
    ("source_id", .optionalText r.sourceId),
    ("source_record_id", .optionalText r.sourceRecordId),
    ("source_system", .optionalText r.sourceSystem),
    ("title", .optionalText r.title),
    ("description", .optionalText r.description),
    ("display_format", .optionalText r.displayFormat),
    ("isbns", .texts r.isbns),
    ("thumbnail_urls", .texts r.thumbnailUrls),
    ("publisher", .optionalText r.publisher),
    ("year", .optionalText r.year),
    ("language", .optionalText r.language),
    ("material_type", .optionalText r.materialType),
    ("creators", .list (r.creators.map .texts)),
    ("contributors", .texts r.contributors),
    ("subjects", .optionalText r.subjects),
    ("series_data", .optionalText r.seriesData),
    ("online_url", .optionalText r.onlineUrl)]

namespace Response

/-- The record's id in an element: the first one found there, without the white space around it. -/
def recordId? (node : Xml.Node) : Option String :=
  (node.value? [recordName "control", recordName "recordid"]).map Text.trim

/-- The records in document order; an element without record id is left out. -/
def docs (response : Response) : List Doc :=
  (response.root.elements [searchName "DOC"]).filterMap fun node =>
    (recordId? node).map (⟨·, node⟩)

/-- The records by id, in the order in which the ids first occur; of several records with one id it
is the last one. -/
def documents (response : Response) : OrderedMap String Doc :=
  .ofList (response.docs.map fun doc => (doc.id, doc))

/-- The last record of an id. -/
def document? (response : Response) (id : String) : Option Doc :=
  (response.docs.filter (·.id = id)).getLast?

end Response

end BriefSearch
