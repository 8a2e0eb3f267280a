import BriefSearch.Text.Basic
import BriefSearch.Transport.FormEncoded
import BriefSearch.Transport.Reply

/-!
# The search service behind its address

* **`Service.target?`** — path and query of the request that makes a call.
* **`Service.transport`** — calls made through a server that replies to requests.
* **`Service.isImage`** — whether an address leads to a picture.
-/

namespace BriefSearch

/-- A server: what it replies to a path with a query, if it can be reached. -/
abbrev Server := String → Option Reply

/-- The search service at an address. -/
structure Service where
  /-- Protocol, host, port and, where the service has one, the start of its path. -/
  baseUrl : String

namespace Service

/-- The path of the search below the address. -/
def searchPath : String :=
  "PrimoWebServices/xservice/search/brief"

/-- The address of the search: the service's address, without slashes at its end, and the path. -/
def searchUrl (service : Service) : List Char :=
  (service.baseUrl.toList.reverse.dropWhile (· = '/')).reverse ++ ['/'] ++ searchPath.toList

/-- The path of an address: what follows protocol and host. -/
def path? (url : List Char) : Option (List Char) :=
  (Text.cut? "://".toList url).map fun (_, rest) => rest.dropWhile (· ≠ '/')

/-- Path and query of the request that makes a call; none if the address has no protocol. -/
def target? (service : Service) (call : Call) : Option String :=
  (path? service.searchUrl).map fun path =>
    .ofList path ++ "?" ++ FormEncoded.encodePairs call.pairs

/-- Calls made through a server. -/
def transport (service : Service) (server : Server) : Transport := fun call =>
  match (service.target? call).bind server with
  | none => .error .unreachable
  | some reply => reply.text

/-- Holds when an address leads to a picture, as the reply to a request for its header tells. -/
def isImage (head : Server) (url : String) : Bool :=
  (head url).any (·.isImage)

end Service

end BriefSearch
