import BriefSearch.Yaml.BlockScalar
import BriefSearch.Yaml.Cursor
import BriefSearch.Yaml.Lexeme
import BriefSearch.Yaml.PlainScalar
import BriefSearch.Yaml.Property
import BriefSearch.Yaml.QuotedScalar

/-!
# The lexemes of a stream

* **`Yaml.Scan`** — a stream of which a part has been read.
* **`Scan.step?`** — reads the next lexeme.
* **`Yaml.lexemes?`** — all lexemes of a stream.

Indentation opens and closes collections. A key is known as such only when its colon is read, so
the place where a lexeme began is kept until the line ends, and the mark of a key is put there
afterwards.
-/

namespace BriefSearch.Yaml

/-- A place at which a key may have begun. -/
structure KeyStart where
  mark : Mark
  position : Nat
  /-- Whether nothing but a key can stand there. -/
  required : Bool

/-- A stream of which a part has been read. -/
structure Scan where
  /-- Where reading goes on. -/
  cursor : Cursor
  /-- The lexemes read, the last one first. -/
  read : List Lexeme
  /-- The number of open brackets. -/
  flow : Nat
  /-- The indentation of the innermost open collection, -1 at the top. -/
  indent : Int
  /-- The indentations of the collections around it, the inner ones first. -/
  outer : List Int
  /-- For every bracket level, the inner ones first, where a key may have begun. -/
  starts : List (Option KeyStart)
  keyAllowed : Bool

namespace Scan

/-- A stream of which nothing has been read. -/
def start (cs : List Char) : Scan where
  cursor := ⟨⟨0, 0, 0⟩, cs⟩
  read := []
  flow := 0
  indent := -1
  outer := []
  starts := [none]
  keyAllowed := true

/-- The column reached. -/
def column (s : Scan) : Nat :=
  s.cursor.mark.column

/-- Holds inside brackets. -/
def inFlow (s : Scan) : Bool :=
  0 < s.flow

/-- Adds a lexeme. -/
def push (s : Scan) (lexeme : Lexeme) : Scan :=
  { s with read := lexeme :: s.read }

/-- Puts a lexeme behind the given number of lexemes. -/
def putAt (s : Scan) (position : Nat) (lexeme : Lexeme) : Scan :=
  let later := s.read.length - position
  { s with read := s.read.take later ++ lexeme :: s.read.drop later }

/-- Goes on to a later place. -/
def moveTo (s : Scan) (rest : List Char) : Scan :=
  { s with cursor := s.cursor.moveTo rest }

/-- Goes on some characters later. -/
def skip (s : Scan) (n : Nat) : Scan :=
  { s with cursor := s.cursor.skip n }

/-- Goes on behind the characters of a kind. -/
def skipWhile (s : Scan) (p : Char → Bool) : Scan :=
  { s with cursor := s.cursor.skipWhile p }

/-! ### White space -/

/-- The white space and the comments before the next lexeme, by one step: blanks, a comment and a
break. A tab counts as a blank only where indentation does not matter. A byte order mark may begin
a line, on which it takes up the first column. -/
def pass (s : Scan) : Scan :=
  let s := if s.column = 0 && s.cursor.rest.head? = some '\uFEFF' then s.skip 1 else s
  let tabs := s.inFlow || !s.keyAllowed
  let s := s.skipWhile fun c => c = ' ' || (tabs && c = '\t')
  if s.cursor.rest.head? = some '#' then s.skipWhile (!isBreak ·) else s

/-- Goes on to the next lexeme. Every step but the last takes a break, so a budget of one step per
character and one more suffices. -/
def toLexeme : Nat → Scan → Scan
  | 0, s => s
  | steps + 1, s =>
    let s := s.pass
    if s.cursor.rest.head?.any isBreak then
      let s := s.moveTo (afterBreak s.cursor.rest)
      toLexeme steps { s with keyAllowed := s.keyAllowed || !s.inFlow }
    else s

/-! ### Keys -/

/-- Holds when the place is still near enough for a key: on the same line, and at most 1024 bytes
away. -/
def isNear (s : Scan) (start : KeyStart) : Bool :=
  start.mark.line = s.cursor.mark.line && s.cursor.mark.index ≤ start.mark.index + 1024

/-- Gives up a place for a key; none if only a key can stand there. -/
def givenUp? : Option KeyStart → Option (Option KeyStart)
  | some start => if start.required then none else some none
  | none => some none

/-- Gives up a place for a key if it is too far away. -/
def remembered? (s : Scan) (start : Option KeyStart) : Option (Option KeyStart) :=
  if start.all s.isNear then some start else givenUp? start

/-- Gives up the places that are too far away. -/
def forget? (s : Scan) : Option Scan :=
  (s.starts.mapM s.remembered?).map fun starts => { s with starts }

/-- Gives up the place on the innermost bracket level. -/
def dropStart? (s : Scan) : Option Scan :=
  match s.starts with
  | [] => some s
  | start :: rest => (givenUp? start).map fun start => { s with starts := start :: rest }

/-- Keeps the place reached as one where a key may begin. -/
def keepStart? (s : Scan) : Option Scan :=
  if s.keyAllowed then
    let start : KeyStart := ⟨s.cursor.mark, s.read.length, !s.inFlow && s.indent = s.column⟩
    s.dropStart?.map fun s => { s with starts := some start :: s.starts.drop 1 }
  else some s

/-! ### Indentation -/

/-- Opens a collection at a column if it is deeper than the innermost one, with the given lexeme at
a position. -/
def openAt (s : Scan) (column position : Nat) (lexeme : Lexeme) : Scan :=
  if !s.inFlow && s.indent < column then
    { s.putAt position lexeme with indent := column, outer := s.indent :: s.outer }
  else s

/-- Closes the collections that are deeper than a column. -/
def closeTo (s : Scan) (column : Int) : Scan :=
  if s.inFlow then s
  else
    let rec go (read : List Lexeme) (indent : Int) : List Int → Scan
      | [] => { s with read, indent, outer := [] }
      | next :: rest =>
        if column < indent then go (.blockEnd :: read) next rest
        else { s with read, indent, outer := next :: rest }
    go s.read s.indent s.outer

/-! ### Lexemes -/

/-- Ends the stream. -/
def streamEnd? (s : Scan) : Option Scan :=
  (s.closeTo (-1)).dropStart?.map fun s => { s.push .streamEnd with keyAllowed := false }

/-- Reads a directive. -/
def directive? (s : Scan) : Option Scan :=
  match (s.closeTo (-1)).dropStart?, Property.directive? (s.cursor.rest.drop 1) with
  | some s, some (directive, rest) =>
    some { (s.push directive).moveTo rest with keyAllowed := false }
  | _, _ => none

/-- Reads a line that bounds the document. -/
def documentMark? (s : Scan) (lexeme : Lexeme) : Option Scan :=
  (s.closeTo (-1)).dropStart?.map fun s => { (s.push lexeme).skip 3 with keyAllowed := false }

/-- Reads an opening bracket. -/
def opening? (s : Scan) (lexeme : Lexeme) : Option Scan :=
  s.keepStart?.map fun s =>
    { (s.push lexeme).skip 1 with
      flow := s.flow + 1, starts := none :: s.starts, keyAllowed := true }

/-- Reads a closing bracket. -/
def closing? (s : Scan) (lexeme : Lexeme) : Option Scan :=
  s.dropStart?.map fun s =>
    { (s.push lexeme).skip 1 with
      flow := s.flow - 1
      starts := if s.inFlow then s.starts.drop 1 else s.starts
      keyAllowed := false }

/-- Reads a comma inside brackets. -/
def flowEntry? (s : Scan) : Option Scan :=
  s.dropStart?.map fun s => { (s.push .flowEntry).skip 1 with keyAllowed := true }

/-- Opens a collection at the place reached, where a key or an entry is allowed. Inside brackets
there is nothing to open. -/
def openHere? (s : Scan) (lexeme : Lexeme) : Option Scan :=
  if s.inFlow then some s
  else if s.keyAllowed then some (s.openAt s.column s.read.length lexeme)
  else none

/-- Reads the hyphen of an entry. -/
def blockEntry? (s : Scan) : Option Scan :=
  ((s.openHere? .blockSequence).bind dropStart?).map fun s =>
    { (s.push .blockEntry).skip 1 with keyAllowed := true }

/-- Reads the question mark of a key. -/
def key? (s : Scan) : Option Scan :=
  ((s.openHere? .blockMapping).bind dropStart?).map fun s =>
    { (s.push .key).skip 1 with keyAllowed := !s.inFlow }

/-- Reads the colon of a value. Where a key may have begun it has begun now, and with it perhaps a
collection. -/
def value? (s : Scan) : Option Scan :=
  match s.starts.head?.join with
  | some start =>
    let s := { s.putAt start.position .key with starts := none :: s.starts.drop 1 }
    let s := s.openAt start.mark.column start.position .blockMapping
    some { (s.push .value).skip 1 with keyAllowed := false }
  | none =>
    (s.openHere? .blockMapping).map fun s =>
      { (s.push .value).skip 1 with keyAllowed := !s.inFlow }

/-- Reads a lexeme that may begin a key and behind which no key begins. -/
def word? (s : Scan) (read : List Char → Option (Lexeme × List Char)) : Option Scan :=
  match s.keepStart?, read s.cursor.rest with
  | some s, some (lexeme, rest) => some { (s.push lexeme).moveTo rest with keyAllowed := false }
  | _, _ => none

/-- Reads a quoted scalar. -/
def quoted? (s : Scan) (read : List Char → Option (List Char × List Char)) : Option Scan :=
  s.word? fun cs => (read (cs.drop 1)).map fun (text, rest) => (.scalar (.ofList text) false, rest)

/-- Reads a block scalar. -/
def blockScalar? (s : Scan) (literal : Bool) : Option Scan :=
  match s.dropStart?, BlockScalar.read? literal s.indent (s.cursor.rest.drop 1) with
  | some s, some (text, rest) =>
    some { (s.push (.scalar (.ofList text) false)).moveTo rest with keyAllowed := true }
  | _, _ => none

/-- Reads a plain scalar; behind a line break a key may begin. -/
def plain? (s : Scan) : Option Scan :=
  match s.keepStart?,
    PlainScalar.read? s.inFlow (s.indent + 1).toNat s.column s.cursor.rest with
  | some s, some scalar =>
    some { (s.push (.scalar (.ofList scalar.text) true)).moveTo scalar.rest with
      keyAllowed := scalar.endsLine }
  | _, _ => none

/-- The characters that begin no plain scalar. -/
def indicators : List Char :=
  "-?:,[]\x7b\x7d#&*!|>'\"%@\x60".toList

/-- Holds when a plain scalar begins: some of the indicators may begin one if no blank follows. -/
def startsPlain (inFlow : Bool) : List Char → Bool
  | [] => false
  | c :: rest =>
    (!isWhite c && !indicators.contains c)
      || (c = '-' && !rest.head?.any isBlank)
      || (!inFlow && (c = '?' || c = ':') && !endsWord rest)

/-- Reads the lexeme at the place reached. -/
def lexeme? (s : Scan) : Option Scan :=
  let cs := s.cursor.rest
  let word := endsWord (cs.drop 1)
  match cs with
  | [] => s.streamEnd?
  | c :: rest =>
    if s.column = 0 && c = '%' then s.directive?
    else if s.column = 0 && isDocumentMark cs then
      s.documentMark? (if c = '-' then .documentStart else .documentEnd)
    else if c = '[' then s.opening? .flowSequence
    else if c = '\x7b' then s.opening? .flowMapping
    else if c = ']' then s.closing? .flowSequenceEnd
    else if c = '\x7d' then s.closing? .flowMappingEnd
    else if c = ',' then s.flowEntry?
    else if c = '-' && word then s.blockEntry?
    else if c = '?' && (s.inFlow || word) then s.key?
    else if c = ':' && (s.inFlow || word) then s.value?
    else if c = '*' then
      s.word? fun _ => (Property.name? rest).map fun (name, rest) => (.alias name, rest)
    else if c = '&' then
      s.word? fun _ => (Property.name? rest).map fun (name, rest) => (.anchor name, rest)
    else if c = '!' then s.word? (Property.tag? s.inFlow)
    else if c = '|' && !s.inFlow then s.blockScalar? true
    else if c = '>' && !s.inFlow then s.blockScalar? false
    else if c = '\'' then s.quoted? QuotedScalar.single?
    else if c = '"' then s.quoted? QuotedScalar.double?
    else if startsPlain s.inFlow cs then s.plain?
    else none

/-- Goes on to the next lexeme, with a budget for the way to it, and reads it. -/
def step? (budget : Nat) (s : Scan) : Option Scan :=
  match (toLexeme budget s).forget? with
  | none => none
  | some s => (s.closeTo s.column).lexeme?

/-- Reads up to the end of the stream, with a budget for the way to each lexeme. Every lexeme but
the last takes a character, so a budget of one step per character and one more suffices for the
lexemes too. -/
def finish? (budget : Nat) : Nat → Scan → Option (List Lexeme)
  | 0, _ => none
  | steps + 1, s =>
    match s.step? budget with
    | none => none
    | some s =>
      if s.read.head? = some .streamEnd then some s.read.reverse else finish? budget steps s

end Scan

/-- The lexemes of a stream; none if it holds a character that it must not, or if its lines cannot
be split into lexemes. -/
def lexemes? (stream : List Char) : Option (List Lexeme) :=
  let budget := stream.length + 1
  if stream.all isChar then (Scan.start stream).finish? budget budget else none

end BriefSearch.Yaml
