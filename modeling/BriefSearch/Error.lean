import BriefSearch.Filter.Expression
import BriefSearch.Query.Compile
import BriefSearch.Response.Basic
import BriefSearch.Settings.Basic
import BriefSearch.Transport.Basic

/-!
# Errors

* **`SearchError`** — everything that can go wrong, by the part of the library it goes wrong in.
* **`SearchError.message`** — the text of an error.
-/

namespace BriefSearch

/-- What went wrong, and where. -/
inductive SearchError where
  /-- A tree that the service cannot be asked for. -/
  | unsupportedQuery (shape : UnsupportedShape)
  /-- A group that has no query. -/
  | malformedFilter (group : MalformedGroup)
  /-- A call that failed. -/
  | transfer (fault : TransferFault)
  /-- A response that cannot be read. -/
  | decode (fault : DecodeFault)
  /-- An expression that is none. -/
  | invalidExpression (fault : ExpressionFault)
  /-- Settings that cannot be used. -/
  | config (fault : SettingsFault)
  deriving DecidableEq, Repr

namespace SearchError

/-- The error of statements without queries. -/
def ofCompileFault : CompileFault → SearchError
  | .unsupported shape => unsupportedQuery shape
  | .malformed group => malformedFilter group

/-- The text of an error. -/
def message : SearchError → String
  | unsupportedQuery shape => "Unsupported query: " ++ shape.message
  | malformedFilter group => "Malformed filter: " ++ group.message
  | transfer fault => "Transfer error: " ++ fault.message
  | decode fault => "Decode error: " ++ fault.message
  | invalidExpression fault => "Invalid filter expression: " ++ fault.message
  | config fault => "Configuration error: " ++ fault.message

end SearchError

end BriefSearch
