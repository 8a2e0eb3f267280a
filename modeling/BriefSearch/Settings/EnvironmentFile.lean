import BriefSearch.Text.Basic

/-!
# Files of variables

* **`Variables`** — the variables of an environment.
* **`EnvironmentFile.line?`** — the name and the value on a line, if it has any.
* **`EnvironmentFile.added`** — variables with those of a file; a variable that is set stays as it
  is.

A line has the form `NAME=value`, perhaps behind the word `export`. A value may be quoted; outside
of single quotes a dollar sign brings in the value of a variable. Reading stops at the first line
that has no such form.
-/

namespace BriefSearch

/-- Variables with their values. -/
abbrev Variables := List (String × String)

/-- The value of a variable. -/
def Variables.get? (environment : Variables) (name : String) : Option String :=
  (environment.find? (·.1 = name)).map (·.2)

namespace EnvironmentFile

/-! ### Values -/

/-- Where in a value the reading has come to. `quoted` tells whether it is between double quotes. -/
inductive Place where
  /-- Outside of quotes. -/
  | plain
  /-- Behind a blank outside of quotes, where only a comment may follow. -/
  | ended
  /-- Between single quotes. -/
  | single
  /-- Between double quotes. -/
  | double
  /-- Behind a backslash. -/
  | escape (quoted : Bool)
  /-- In a name behind a dollar sign. -/
  | name (read : List Char) (quoted : Bool)
  /-- In a name between braces. -/
  | braces (read : List Char) (quoted : Bool)

/-- Inside or outside of double quotes. -/
def Place.of (quoted : Bool) : Place :=
  if quoted then .double else .plain

/-- What a backslash and a character stand for. -/
def escape? (c : Char) : Option Char :=
  if c = 'n' then some '\n'
  else if c = '\\' || c = '\'' || c = '"' || c = '$' || c = ' ' then some c
  else none

/-- What a name stands for: the value of the variable, or nothing. -/
def substituted (environment : Variables) (name : List Char) : List Char :=
  ((environment.get? (.ofList name)).getD "").toList

/-- Reads a value from a place on. The character that ends a name behind a dollar sign belongs to
the value, whatever it is, unless it is another dollar sign. -/
def value? (environment : Variables) : Place → List Char → Option (List Char)
  | .plain, [] => some []
  | .ended, [] => some []
  | .single, [] => none
  | .double, [] => none
  | .escape quoted, [] => if quoted then none else some []
  | .name read quoted, [] => if quoted then none else some (substituted environment read)
  | .braces _ _, [] => none
  | .plain, c :: rest =>
    if c = '$' then value? environment (.name [] false) rest
    else if c = '\'' then value? environment .single rest
    else if c = '"' then value? environment .double rest
    else if c = '\\' then value? environment (.escape false) rest
    else if c = ' ' || c = '\t' then value? environment .ended rest
    else (value? environment .plain rest).map (c :: ·)
  | .ended, c :: rest =>
    if c = ' ' || c = '\t' then value? environment .ended rest
    else if c = '#' then some []
    else none
  | .single, c :: rest =>
    if c = '\'' then value? environment .plain rest
    else (value? environment .single rest).map (c :: ·)
  | .double, c :: rest =>
    if c = '$' then value? environment (.name [] true) rest
    else if c = '"' then value? environment .plain rest
    else if c = '\\' then value? environment (.escape true) rest
    else (value? environment .double rest).map (c :: ·)
  | .escape quoted, c :: rest =>
    match escape? c with
    | none => none
    | some d => (value? environment (.of quoted) rest).map (d :: ·)
  | .name read quoted, c :: rest =>
    if Text.isAlphanumeric c then value? environment (.name (read ++ [c]) quoted) rest
    else if c = '\x7b' && read.isEmpty then value? environment (.braces [] quoted) rest
    else if c = '$' then
      (value? environment (.name [] quoted) rest).map (substituted environment read ++ ·)
    else
      (value? environment (.of quoted) rest).map fun more =>
        substituted environment read ++ c :: more
  | .braces read quoted, c :: rest =>
    if c = '\x7d' then
      (value? environment (.of quoted) rest).map (substituted environment read ++ ·)
    else value? environment (.braces (read ++ [c]) quoted) rest

/-! ### Lines -/

/-- Holds for the first character of a name. -/
def isNameStart (c : Char) : Bool :=
  c.isAlpha || c = '_'

/-- Holds for the characters of a name. -/
def isNameChar (c : Char) : Bool :=
  c.isAlphanum || c = '_' || c = '.'

/-- A name, and the text behind it and any white space. -/
def name? (cs : List Char) : Option (List Char × List Char) :=
  if cs.head?.any isNameStart then
    some (cs.takeWhile isNameChar, Text.trimLeft (cs.dropWhile isNameChar))
  else none

/-- A name and the text behind its equals sign. -/
def assignment? (cs : List Char) : Option (List Char × List Char) :=
  match name? cs with
  | some (name, '=' :: rest) => some (name, rest)
  | _ => none

/-- A name, perhaps behind the word `export`, and the text behind its equals sign. -/
def exported? (cs : List Char) : Option (List Char × List Char) :=
  match name? cs with
  | none => none
  | some (name, rest) =>
    match rest with
    | '=' :: rest => some (name, rest)
    | rest => if name = "export".toList then assignment? rest else none

/-- Holds where nothing or a comment follows. -/
def isEmptyOrComment (cs : List Char) : Bool :=
  cs.isEmpty || cs.head? = some '#'

/-- The variable that a line sets, if it sets one; none if the line has no such form. -/
def line? (environment : Variables) (line : List Char) : Option (Option (String × String)) :=
  let cs := Text.trimLeft (Text.trimRight line)
  if isEmptyOrComment cs then some none
  else
    match exported? cs with
    | none => none
    | some (name, rest) =>
      let rest := Text.trimLeft rest
      let value := if isEmptyOrComment rest then some [] else value? environment .plain rest
      value.map fun value => some (.ofList name, .ofList value)

/-- The lines of a text. -/
def lines : List Char → List (List Char)
  | [] => [[]]
  | c :: rest =>
    if c = '\n' then [] :: lines rest
    else
      match lines rest with
      | [] => [[c]]
      | first :: more => (c :: first) :: more

/-- Adds the variables of lines one by one. -/
def addedLines (environment : Variables) : List (List Char) → Variables
  | [] => environment
  | line :: rest =>
    match line? environment line with
    | none => environment
    | some none => addedLines environment rest
    | some (some (name, value)) =>
      if (environment.get? name).isSome then addedLines environment rest
      else addedLines (environment ++ [(name, value)]) rest

/-- The variables with those of a file. -/
def added (environment : Variables) (text : String) : Variables :=
  addedLines environment (lines text.toList)

end EnvironmentFile

end BriefSearch
