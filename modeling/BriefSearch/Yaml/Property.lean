import BriefSearch.Yaml.Character
import BriefSearch.Yaml.Lexeme
import BriefSearch.Yaml.QuotedScalar

/-!
# Names, tags and directives

* **`Property.name?`** — the name of an anchor or alias.
* **`Property.tag?`** — a tag, as a handle and a suffix.
* **`Property.directive?`** — a directive about the version or a handle.
-/

namespace BriefSearch.Yaml.Property

/-! ### Anchors -/

/-- What may follow a name besides white space. -/
def isNameEnd (c : Char) : Bool :=
  isWhite c || c = '?' || c = ':' || c = ',' || c = ']' || c = '\x7d' || c = '%' || c = '@'
    || c = '\x60'

/-- The name of an anchor or alias, behind its mark, and what follows. -/
def name? (cs : List Char) : Option (String × List Char) :=
  let name := cs.takeWhile isNameChar
  let rest := cs.dropWhile isNameChar
  if !name.isEmpty && rest.head?.all isNameEnd then some (.ofList name, rest) else none

/-! ### Tags -/

/-- A character of a tag, a percent sign not counted; commas and brackets count where the end of the
tag is marked otherwise. -/
def isTagChar (wide : Bool) (c : Char) : Bool :=
  isNameChar c || ";/?:@&=+$.!~*'()".toList.contains c || (wide && (c = ',' || c = '[' || c = ']'))

/-- The byte that a percent sign and two digits stand for, and what follows. -/
def percentByte? : List Char → Option (UInt8 × List Char)
  | '%' :: a :: b :: rest =>
    match QuotedScalar.hexValue? a, QuotedScalar.hexValue? b with
    | some x, some y => some (.ofNat (x * 16 + y), rest)
    | _, _ => none
  | _ => none

/-- The bytes behind the first byte of a character. -/
def moreBytes? : Nat → List Char → Option (List UInt8 × List Char)
  | 0, cs => some ([], cs)
  | n + 1, cs =>
    match percentByte? cs with
    | none => none
    | some (b, rest) =>
      if 0x80 ≤ b && b < 0xC0 then
        (moreBytes? n rest).map fun (bytes, rest) => (b :: bytes, rest)
      else none

/-- The number of bytes of a character by the first one. -/
def width? (b : UInt8) : Option Nat :=
  if b < 0x80 then some 1
  else if 0xC0 ≤ b && b < 0xE0 then some 2
  else if 0xE0 ≤ b && b < 0xF0 then some 3
  else if 0xF0 ≤ b && b < 0xF8 then some 4
  else none

/-- The bytes of a character that percent signs and digits write. Their number is right, but it may
be a number that no character has. -/
def percentBytes? (cs : List Char) : Option (Tag × List Char) :=
  match percentByte? cs with
  | none => none
  | some (b, rest) =>
    ((width? b).bind fun n => moreBytes? (n - 1) rest).map fun (bytes, rest) => (b :: bytes, rest)

/-- Reads the bytes of a tag. Every round takes a character, so a budget of one step per character
suffices. -/
def tagBytesWithin? (wide : Bool) : Nat → List Char → Option (Tag × List Char)
  | 0, _ => none
  | steps + 1, cs =>
    match cs with
    | [] => some ([], [])
    | c :: rest =>
      if c = '%' then
        match percentBytes? (c :: rest) with
        | none => none
        | some (bytes, rest) =>
          (tagBytesWithin? wide steps rest).map fun (more, rest) => (bytes ++ more, rest)
      else if isTagChar wide c then
        (tagBytesWithin? wide steps rest).map fun (more, rest) => (.ofNat c.toNat :: more, rest)
      else some ([], c :: rest)

/-- The bytes of a tag and what follows. -/
def tagBytes? (wide : Bool) (cs : List Char) : Option (Tag × List Char) :=
  tagBytesWithin? wide (cs.length + 1) cs

/-- The bytes that count: a zero byte ends a tag. -/
def untilZero (bytes : Tag) : Tag :=
  bytes.takeWhile (· ≠ 0)

/-- A handle between exclamation marks, or the start of a tag without one: exclamation mark, name,
and perhaps a second exclamation mark. -/
def handle? : List Char → Option (List Char × List Char)
  | '!' :: cs =>
    let name := cs.takeWhile isNameChar
    match cs.dropWhile isNameChar with
    | '!' :: rest => some ('!' :: name ++ ['!'], rest)
    | rest => some ('!' :: name, rest)
  | _ => none

/-- Holds for a handle that is closed by a second exclamation mark. -/
def isClosed (handle : List Char) : Bool :=
  1 < handle.length && handle.getLast? = some '!'

/-- A tag between angle brackets, behind the exclamation mark and the opening bracket. -/
def verbatim? (cs : List Char) : Option (Lexeme × List Char) :=
  match tagBytes? true cs with
  | some (suffix, '>' :: rest) =>
    if suffix.isEmpty then none else some (.tag "" (untilZero suffix), rest)
  | _ => none

/-- A tag with a handle, or one whose handle is a single exclamation mark. The mark alone is a tag
of its own. -/
def shorthand? (cs : List Char) : Option (Lexeme × List Char) :=
  match handle? cs with
  | none => none
  | some (handle, rest) =>
    match tagBytes? false rest with
    | none => none
    | some (suffix, rest) =>
      if isClosed handle then
        if suffix.isEmpty then none
        else some (.tag (.ofList handle) (untilZero suffix), rest)
      else
        match untilZero (.ofString (.ofList (handle.drop 1)) ++ suffix) with
        | [] => some (.tag "" (.ofString "!"), rest)
        | suffix => some (.tag "!" suffix, rest)

/-- A tag and what follows, which is white space, or a comma inside brackets. -/
def tag? (inFlow : Bool) (cs : List Char) : Option (Lexeme × List Char) :=
  let read :=
    match cs with
    | '!' :: '<' :: rest => verbatim? rest
    | cs => shorthand? cs
  match read with
  | none => none
  | some (tag, rest) =>
    if endsWord rest || (inFlow && rest.head? = some ',') then some (tag, rest) else none

/-! ### Directives -/

/-- A number of at most nine digits. -/
def number? (cs : List Char) : Option (Nat × List Char) :=
  let digits := cs.takeWhile Char.isDigit
  if digits.isEmpty || 9 < digits.length then none
  else
    some (digits.foldl (fun n c => n * 10 + (c.toNat - 48)) 0, cs.dropWhile Char.isDigit)

/-- The numbers of a version, with a dot between them. -/
def version? (cs : List Char) : Option (Lexeme × List Char) :=
  match number? (cs.dropWhile isBlank) with
  | some (major, '.' :: rest) =>
    (number? rest).map fun (minor, rest) => (.version major minor, rest)
  | _ => none

/-- A handle and what it stands for. -/
def handleDirective? (cs : List Char) : Option (Lexeme × List Char) :=
  match handle? (cs.dropWhile isBlank) with
  | none => none
  | some (handle, rest) =>
    if (isClosed handle || handle = ['!']) && rest.head?.any isBlank then
      match tagBytes? true (rest.dropWhile isBlank) with
      | none => none
      | some (replacement, rest) =>
        if !replacement.isEmpty && endsWord rest then
          some (.handle (.ofList handle) (untilZero replacement), rest)
        else none
    else none

/-- A directive behind its percent sign, and the text from the next line on. -/
def directive? (cs : List Char) : Option (Lexeme × List Char) :=
  let name := cs.takeWhile isNameChar
  let rest := cs.dropWhile isNameChar
  if !endsWord rest then none
  else
    let read :=
      if name = "YAML".toList then version? rest
      else if name = "TAG".toList then handleDirective? rest
      else none
    match read with
    | none => none
    | some (directive, rest) => (restOfLine? rest).map (directive, ·)

end BriefSearch.Yaml.Property
