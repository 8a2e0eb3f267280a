import BriefSearch.Query.Parameters

/-!
# Calls to the search service

* **`Call`** — what the service is asked for.
* **`Transport`** — a way to the service: it answers a call with a text or fails.
* **`TransferFault`** — how a call can fail.
-/

namespace BriefSearch

/-- How a call can fail: no answer, an answer other than success, or what the transport itself
reports. -/
inductive TransferFault where
  | unreachable
  | status (code : Nat) (phrase : String) (body : String)
  | reported (text : String)
  deriving DecidableEq, Repr

/-- The text of a fault. -/
def TransferFault.message : TransferFault → String
  | .unreachable => "the service cannot be reached"
  | .status code phrase body =>
    "Primo brief search error (" ++ toString code ++ " " ++ phrase ++ "): " ++ body
  | .reported text => text

/-- Parameters, and the part of the result that is wanted. -/
structure Call where
  parameters : Parameters
  /-- The first record wanted, counted from 1. -/
  offset : UInt64
  count : UInt64
  deriving DecidableEq, Repr

/-- All names and values of a call: the parameters, and then the part of the result. -/
def Call.pairs (call : Call) : List (String × String) :=
  call.parameters.toPairs ++
    [("indx", toString call.offset.toNat), ("bulkSize", toString call.count.toNat)]

/-- A way to the service. -/
abbrev Transport := Call → Except TransferFault String

end BriefSearch
