import BriefSearch.Text.Basic
import BriefSearch.Text.Utf8
import BriefSearch.Xml.Document
import BriefSearch.Xml.Select

/-!
# Responses

* **`Response`** — the answer to a brief search, an XML tree.
* **`Response.parse`**, **`Response.ofBytes`** — responses from text and from bytes.
* **`Response.totalHits`** — how many records the search found.
* **`DecodeFault`** — what can be wrong with a response.
* **`Paging.hasMore`** — whether records follow after a number of pages.
* **`Paging.pageOf`** — the page that a record stands on.

Records and pages are counted from 1.
-/

namespace BriefSearch

/-- What can be wrong with a response: bytes that are no text, or a text that is no document. -/
inductive DecodeFault where
  | bytes (fault : Utf8.Fault)
  | document
  deriving DecidableEq, Repr

/-- The text of bytes that are no text. -/
def Utf8.Fault.message (fault : Utf8.Fault) : String :=
  match fault.length with
  | some length =>
    "invalid utf-8 sequence of " ++ toString length ++ " bytes from index "
      ++ toString fault.index
  | none => "incomplete utf-8 byte sequence from index " ++ toString fault.index

/-- The text of a fault. -/
def DecodeFault.message : DecodeFault → String
  | .bytes fault => "response is not valid UTF-8: " ++ fault.message
  | .document => "response is not a well-formed document"

/-- The answer to a brief search. -/
structure Response where
  root : Xml.Node

namespace Response

/-- A name of the response's envelope. -/
def searchName (localName : String) : Xml.Name :=
  ⟨some "http://www.exlibrisgroup.com/xsd/jaguar/search", localName⟩

/-- A name inside a record. -/
def recordName (localName : String) : Xml.Name :=
  ⟨some "http://www.exlibrisgroup.com/xsd/primo/primo_nm_bib", localName⟩

/-- The response that a text holds. -/
def parse (document : String) : Except DecodeFault Response :=
  match Xml.parse? document with
  | some root => .ok ⟨root⟩
  | none => .error .document

/-- The response that bytes hold. -/
def ofBytes (bytes : List UInt8) : Except DecodeFault Response :=
  match Utf8.decode bytes with
  | .error fault => .error (.bytes fault)
  | .ok document => parse document

/-- The local name of the root element, for showing. -/
def summary (response : Response) : String :=
  "BriefSearchResponse \x7b root: "
    ++ Text.quote ((response.root.name?.map (·.localName)).getD "") ++ " \x7d"

/-- The count in an attribute value, 0 if it is none. -/
def countIn (value : Option String) : UInt64 :=
  (value.bind fun s => Text.count? (Text.trim s)).getD 0

/-- How many records the search found, 0 where the response does not say. -/
def totalHits (response : Response) : UInt64 :=
  match response.root.element? [searchName "DOCSET"] with
  | some docset => countIn (docset.attribute? "TOTALHITS")
  | none => 0

end Response

/-! ### Pages -/

namespace Paging

/-- Holds when there are more records than the pages up to the given one hold. -/
def hasMore (totalHits page count : UInt64) : Bool :=
  Text.saturatingMul page count < totalHits

/-- The page of a record when every page holds `count` records; 0 where pages hold none. A position
before the first record counts as the first. -/
def pageOf (offset count : UInt64) : UInt64 :=
  if count = 0 then 0 else (if offset = 0 then 0 else offset - 1) / count + 1

end Paging

end BriefSearch
