import BriefSearch.Error
import BriefSearch.Response.Record

/-!
# The client

* **`Client`** — a vocabulary and the parameters that every search carries.
* **`Plan`** — what an operation does: it has its outcome at once, or makes one call and reads the
  answer.
* **`Client.search`**, **`documents`**, **`document`** — the operations.
-/

namespace BriefSearch

/-- What an operation does before it knows the service's answer. -/
inductive Plan (α : Type) where
  /-- The outcome is there without a call. -/
  | done (outcome : Except SearchError α)
  /-- One call, and how its answer is read. -/
  | ask (call : Call) (read : String → Except SearchError α)

namespace Plan

variable {α β : Type}

/-- The calls that an operation makes. -/
def calls : Plan α → List Call
  | done _ => []
  | ask call _ => [call]

/-- The outcome of an operation over a transport. -/
def run (transport : Transport) : Plan α → Except SearchError α
  | done outcome => outcome
  | ask call read =>
    match transport call with
    | .error fault => .error (.transfer fault)
    | .ok answer => read answer

/-- Goes on with the value of a successful outcome. -/
def map (f : α → β) : Plan α → Plan β
  | done outcome => done (outcome.map f)
  | ask call read => ask call fun answer => (read answer).map f

end Plan

/-- How searches are asked for. -/
structure Client where
  /-- How fields and values are called at the service. -/
  vocabulary : Vocabulary
  /-- The parameters that every search carries. -/
  defaults : Parameters

namespace Client

/-- A client on behalf of an institution. Blank scopes restrict nothing. -/
def new (vocabulary : Vocabulary) (institution ipAddress : String) (scopes : Option String) :
    Client where
  vocabulary := vocabulary
  defaults :=
    let origin := (Parameters.empty.push "institution" institution).push "ip" ipAddress
    match scopes with
    | some scopes =>
      if Text.isBlankText scopes then origin
      else origin.push "loc" ("local,scope:(" ++ scopes ++ ")")
    | none => origin

/-- The client that settings describe. -/
def ofSettings (settings : Settings) : Client :=
  new settings.vocabulary settings.institution settings.ipAddress settings.scopes

/-- The parameters of a search: its queries, and what every search carries. -/
def compile (client : Client) (statements : List Statement) : Except SearchError Parameters :=
  match client.vocabulary.compile statements with
  | .error fault => .error (.ofCompileFault fault)
  | .ok queries => .ok (queries.merge client.defaults)

/-- A search for statements that all have to hold; the answer is the response's text. -/
def search (client : Client) (statements : List Statement) (offset count : UInt64) :
    Plan String :=
  match client.compile statements with
  | .error fault => .done (.error fault)
  | .ok parameters => .ask ⟨parameters, offset, count⟩ .ok

/-- The query for the records of some ids. -/
def recordQuery (ids : List String) : String :=
  "rid,contains," ++ Vocabulary.joined .or (ids.map escapeValue)

/-- The records of a response's text by id. -/
def readRecords (document : String) : Except SearchError (OrderedMap String Record) :=
  match Response.parse document with
  | .error fault => .error (.decode fault)
  | .ok response => .ok (response.documents.mapValues (·.record))

/-- The records of some ids, by id. Without ids there is nothing to ask. -/
def documents (client : Client) (ids : List String) : Plan (OrderedMap String Record) :=
  if ids.isEmpty then .done (.ok .empty)
  else
    .ask
      ⟨(Parameters.empty.push queryParameter (recordQuery ids)).merge client.defaults, 1,
        .ofNat ids.length⟩
      readRecords

/-- The record of one id, if there is one. -/
def document (client : Client) (id : String) : Plan (Option Record) :=
  (client.documents [id]).map fun records => records.get? id

end Client

end BriefSearch
