import BriefSearch.Client
import BriefSearch.Command.Arguments
import BriefSearch.Response.Facet
import BriefSearch.Settings.Load
import BriefSearch.Transport.Service

/-!
# Commands

* **`Task`** — what a command does: it has its output at once, or makes one call to a service and
  reads the answer.
* **`Task.of`** — the task of an invocation.
* **`CommandFault`** — how a command fails.
-/

namespace BriefSearch

/-- An error with what the command was about when it occurred, the widest description first. -/
structure CommandFault where
  context : List String
  cause : SearchError
  deriving DecidableEq, Repr

/-- The output of a command, or its fault. -/
abbrev CommandResult := Except CommandFault String

/-- Describes the errors of a step. -/
def described {α : Type} (context : String) : Except SearchError α → Except CommandFault α :=
  Except.mapError fun cause => ⟨[context], cause⟩

/-- The errors of a step without a description. -/
def undescribed {α : Type} : Except SearchError α → Except CommandFault α :=
  Except.mapError fun cause => ⟨[], cause⟩

/-- What a command does: its result, or a call to a service with the result of its outcome. -/
inductive Task where
  | finished (result : CommandResult)
  | ask (service : Service) (call : Call) (read : Except TransferFault String → CommandResult)

namespace Task

/-- The call that a task makes, if it makes one. -/
def call? : Task → Option Call
  | finished _ => none
  | ask _ call _ => some call

/-- The result of a task over a way to services. -/
def run (transport : Service → Transport) : Task → CommandResult
  | finished result => result
  | ask service call read => read (transport service call)

/-- The task of an operation at a service, whose outcome is read. -/
def ofPlan {α : Type} (service : Service) (plan : Plan α)
    (read : Except SearchError α → CommandResult) : Task :=
  match plan with
  | .done outcome => finished (read outcome)
  | .ask call answer =>
    ask service call fun
      | .error fault => read (.error (.transfer fault))
      | .ok text => read (answer text)

end Task

namespace Command

/-- The statements of an expression. -/
def statements (expression : String) : Except CommandFault (List Statement) :=
  described ("Failed to parse " ++ Text.quote expression)
    ((Expression.parse expression).mapError .invalidExpression)

/-- The text that a command prints for a value. -/
def printed (value : Json) : String :=
  value.pretty ++ "\n"

/-! ### Showing parameters -/

/-- The settings that show names and values; what a search needs besides is not checked. -/
def mappings (surroundings : Surroundings) : Option String → Except CommandFault Settings
  | none => .ok .empty
  | some path =>
    described ("Failed to read config " ++ path)
      ((Settings.ofFile surroundings path).mapError .config)

/-- The parameters for an expression. -/
def compileExpression (settings : Settings) (expression : String) :
    Except CommandFault Parameters :=
  match statements expression with
  | .error fault => .error fault
  | .ok statements =>
    undescribed ((settings.vocabulary.compile statements).mapError .ofCompileFault)

/-- The output of the command that shows parameters. -/
def compiled (surroundings : Surroundings) (config : Option String) (expression : String) :
    CommandResult :=
  match mappings surroundings config with
  | .error fault => .error fault
  | .ok settings =>
    (compileExpression settings expression).map fun parameters => printed parameters.toJson

/-! ### Searching -/

/-- The settings of a search. -/
def connection (surroundings : Surroundings) (config : Option String) :
    Except CommandFault Settings :=
  described "Failed to load Primo config"
    ((Settings.load surroundings config).mapError .config)

/-- The part of a result that is shown. -/
def resultJson (settings : Settings) (offset count : UInt64) (facets : Bool)
    (response : Response) : Json :=
  let total := response.totalHits
  .object <|
    [("total_hits", .number total.toNat),
     ("has_more_results",
       .bool (Paging.hasMore total (Paging.pageOf offset count) count)),
     ("documents", .list (response.documents.values.map (·.record.toJson)))] ++
    if facets then
      [("facets", .object
        ((response.facets settings.valueMappers).entries.map fun e => (e.1, e.2.toJson)))]
    else []

/-- The output for the answer to a search. -/
def searched (settings : Settings) (offset count : UInt64) (facets : Bool)
    (outcome : Except SearchError String) : CommandResult :=
  match described "Primo search failed" outcome with
  | .error fault => .error fault
  | .ok body =>
    (undescribed ((Response.parse body).mapError .decode)).map fun response =>
      printed (resultJson settings offset count facets response)

/-- The task of a search with settings. -/
def searchTask (settings : Settings) (expression : String) (offset count : UInt64)
    (facets : Bool) : Task :=
  match statements expression with
  | .error fault => .finished (.error fault)
  | .ok statements =>
    .ofPlan ⟨settings.baseUrl⟩ ((Client.ofSettings settings).search statements offset count)
      (searched settings offset count facets)

/-! ### Looking records up -/

/-- Records as an object with their ids as names. -/
def recordsJson (records : OrderedMap String Record) : Json :=
  .object (records.entries.map fun e => (e.1, e.2.toJson))

/-- The task of looking records up with settings. -/
def documentTask (settings : Settings) (ids : List String) : Task :=
  .ofPlan ⟨settings.baseUrl⟩ ((Client.ofSettings settings).documents ids) fun outcome =>
    (described "Primo document lookup failed" outcome).map fun records =>
      printed (recordsJson records)

end Command

open Command in
/-- The task of an invocation. -/
def Task.of (surroundings : Surroundings) (invocation : Invocation) : Task :=
  match invocation.command with
  | .compile expression => .finished (compiled surroundings invocation.config expression)
  | .search expression offset count facets =>
    match connection surroundings invocation.config with
    | .error fault => .finished (.error fault)
    | .ok settings => searchTask settings expression offset count facets
  | .document ids =>
    match connection surroundings invocation.config with
    | .error fault => .finished (.error fault)
    | .ok settings => documentTask settings ids

end BriefSearch
