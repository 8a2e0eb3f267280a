import BriefSearch.Text.Basic

/-!
# Command lines

* **`Invocation`** — what a command line asks for.
* **`Invocation.parse`** — the invocation that a list of arguments writes.
* **`UsageFault`** — why a list of arguments writes none.

Options for all commands may stand before and behind the command's name; behind it they win. A value
that belongs to an option is looked at when the next argument makes clear that it is complete, so an
argument that is not known is reported before a bad value in front of it.
-/

namespace BriefSearch

/-- Why a list of arguments is not carried out. -/
inductive UsageFault where
  | displayHelp
  | nothingGiven
  | missingSubcommand
  | missingRequiredArgument
  | invalidSubcommand
  | unknownArgument
  | valueValidation
  | invalidValue
  | argumentConflict
  | tooManyValues
  deriving DecidableEq, Repr

/-- What a command does. -/
inductive Command where
  /-- Show the parameters for an expression. -/
  | compile (expression : String)
  /-- Search for an expression and show a part of the result. -/
  | search (expression : String) (offset count : UInt64) (facets : Bool)
  /-- Show the records of some ids. -/
  | document (ids : List String)
  deriving DecidableEq, Repr

/-- What a command line asks for. -/
structure Invocation where
  config : Option String
  /-- Whether to tell more about what happens. -/
  verbose : Bool
  command : Command
  deriving DecidableEq, Repr

namespace Arguments

/-- Where an argument stands: before the name of a command, or behind it. -/
inductive Level where
  | top
  | compile
  | search
  | document
  deriving DecidableEq

/-- The options that take a value. -/
inductive Setting where
  | config
  | offset
  | count
  deriving DecidableEq

/-- The options that take none. -/
inductive Switch where
  | help
  | verbose
  | facets
  deriving DecidableEq

/-- The command of a name. -/
def Level.ofName? (name : String) : Option Level :=
  if name = "compile" then some compile
  else if name = "search" then some search
  else if name = "document" then some document
  else none

/-- The option of a name that takes a value. -/
def Level.setting? (level : Level) (name : String) : Option Setting :=
  if name = "config" then some .config
  else if level = search && name = "offset" then some .offset
  else if level = search && name = "count" then some .count
  else none

/-- The option of a name that takes no value. -/
def Level.switch? (level : Level) (name : String) : Option Switch :=
  if name = "help" then some .help
  else if name = "verbose" then some .verbose
  else if level = search && name = "facets" then some .facets
  else none

/-- The option of a letter. -/
def shortSwitch? (c : Char) : Option Switch :=
  if c = 'h' then some .help else if c = 'v' then some .verbose else none

/-- What has been given on a level so far. -/
structure Given where
  config : Option String
  offset : Option UInt64
  count : Option UInt64
  verbose : Bool
  facets : Bool
  /-- The arguments that belong to no option. -/
  words : List String
  /-- An option whose value has not been looked at, with the value once it is there. -/
  pending : Option (Setting × Option String)
  /-- Whether only words follow. -/
  wordsOnly : Bool

namespace Given

/-- Nothing. -/
def nothing : Given :=
  ⟨none, none, none, false, false, [], none, false⟩

/-- Holds when the next argument may be the value of an option. -/
def awaits (given : Given) : Bool :=
  given.pending.any (·.2.isNone)

/-- Holds when anything has been given. -/
def isAny (given : Given) : Bool :=
  given.config.isSome || given.verbose

/-- Sets a count, once. -/
def setCount (old : Option UInt64) (value : String) : Except UsageFault (Option UInt64) :=
  if old.isSome then .error .argumentConflict
  else
    match Text.count? value with
    | some n => .ok (some n)
    | none => .error .valueValidation

/-- Gives an option its value. -/
def set (given : Given) (setting : Setting) (value : String) : Except UsageFault Given :=
  match setting with
  | .config =>
    if given.config.isSome then .error .argumentConflict
    else if value = "" then .error .invalidValue
    else .ok { given with config := some value }
  | .offset => (setCount given.offset value).map fun offset => { given with offset }
  | .count => (setCount given.count value).map fun count => { given with count }

/-- Looks at the option whose value has not been looked at. -/
def settled (given : Given) : Except UsageFault Given :=
  match given.pending with
  | none => .ok given
  | some (_, none) => .error .invalidValue
  | some (setting, some value) => { given with pending := none }.set setting value

/-- Turns an option on that takes no value. -/
def turnOn (given : Given) : Switch → Except UsageFault Given
  | .help => .error .displayHelp
  | .verbose =>
    if given.verbose then .error .argumentConflict else .ok { given with verbose := true }
  | .facets =>
    if given.facets then .error .argumentConflict else .ok { given with facets := true }

/-- Name and value of an argument behind its two hyphens. -/
def nameAndValue (cs : List Char) : String × Option String :=
  match cs.dropWhile (· ≠ '=') with
  | [] => (.ofList cs, none)
  | _ :: value => (.ofList (cs.takeWhile (· ≠ '=')), some (.ofList value))

/-- Takes an argument with two hyphens. -/
def long (given : Given) (level : Level) (cs : List Char) : Except UsageFault Given :=
  match level.setting? (nameAndValue cs).1, level.switch? (nameAndValue cs).1,
    (nameAndValue cs).2 with
  | some setting, _, some value => given.settled.bind (·.set setting value)
  | some setting, _, none =>
    given.settled.map fun given => { given with pending := some (setting, none) }
  | none, some _, some _ => .error .tooManyValues
  | none, some switch, none => given.settled.bind (·.turnOn switch)
  | none, none, _ => .error .unknownArgument

/-- Takes the letters behind a hyphen one by one. -/
def short (given : Given) : List Char → Except UsageFault Given
  | [] => .ok given
  | c :: rest =>
    match shortSwitch? c with
    | none => .error .unknownArgument
    | some switch => (given.settled.bind (·.turnOn switch)).bind (short · rest)

/-- Adds a word. -/
def addWord (given : Given) (word : String) : Except UsageFault Given :=
  given.settled.map fun given => { given with words := given.words ++ [word] }

/-- Takes an argument that belongs to no option. Before the name of a command there is none, and
most commands take a single one. -/
def word (given : Given) (level : Level) (word : String) : Except UsageFault Given :=
  match level with
  | .top =>
    .error <|
      if given.wordsOnly && (word = "help" || (Level.ofName? word).isSome) then .unknownArgument
      else .invalidSubcommand
  | .document => given.addWord word
  | _ => if given.words.isEmpty then given.addWord word else .error .unknownArgument

/-- Takes an argument that is not the name of a command. -/
def take (given : Given) (level : Level) (argument : String) : Except UsageFault Given :=
  if given.wordsOnly then given.word level argument
  else
    match argument.toList with
    | ['-', '-'] => .ok { given with wordsOnly := true }
    | '-' :: '-' :: cs => given.long level cs
    | '-' :: c :: cs => given.short (c :: cs)
    | _ =>
      match given.pending with
      | some (setting, none) => .ok { given with pending := some (setting, some argument) }
      | _ => given.word level argument

/-- Takes all arguments. -/
def takeAll (given : Given) (level : Level) : List String → Except UsageFault Given
  | [] => given.settled
  | argument :: rest => (given.take level argument).bind fun given => given.takeAll level rest

end Given

/-! ### Levels -/

/-- What asking for help on a list of names gives: help on the program or on one command. -/
def helpOn : List String → UsageFault
  | [] => .displayHelp
  | [name] =>
    if name = "help" || (Level.ofName? name).isSome then .displayHelp else .invalidSubcommand
  | _ => .invalidSubcommand

/-- The arguments before the name of a command, the command and the arguments behind its name. -/
def topLevel (given : Given) :
    List String → Except UsageFault (Given × Option (Level × List String))
  | [] => .ok (given, none)
  | argument :: rest =>
    if !given.wordsOnly && !given.awaits && argument = "help" then .error (helpOn rest)
    else if !given.wordsOnly && !given.awaits && (Level.ofName? argument).isSome then
      .ok (given, (Level.ofName? argument).map (·, rest))
    else (given.take .top argument).bind fun given => topLevel given rest

/-- The first result that is shown if nothing is said. -/
def defaultOffset : UInt64 := 1

/-- The number of results that is shown if nothing is said. -/
def defaultCount : UInt64 := 10

/-- The command that what is given behind its name describes. -/
def command? (level : Level) (given : Given) : Except UsageFault Command :=
  match level, given.words with
  | .compile, expression :: _ => .ok (.compile expression)
  | .search, expression :: _ =>
    .ok (.search expression (given.offset.getD defaultOffset) (given.count.getD defaultCount)
      given.facets)
  | .document, id :: ids => .ok (.document (id :: ids))
  | _, _ => .error .missingRequiredArgument

end Arguments

open Arguments in
/-- What a list of arguments asks for. -/
def Invocation.parse (arguments : List String) : Except UsageFault Invocation :=
  match topLevel .nothing arguments with
  | .error fault => .error fault
  | .ok (top, none) =>
    match top.settled with
    | .error fault => .error fault
    | .ok top => .error (if top.isAny then .missingSubcommand else .nothingGiven)
  | .ok (top, some (level, rest)) =>
    match Given.nothing.takeAll level rest with
    | .error fault => .error fault
    | .ok inner =>
      match command? level inner with
      | .error fault => .error fault
      | .ok command =>
        top.settled.map fun top =>
          ⟨inner.config <|> top.config, top.verbose || inner.verbose, command⟩

end BriefSearch
