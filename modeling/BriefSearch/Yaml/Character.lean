/-!
# The characters of YAML

* **`Yaml.isChar`** — what may stand in a stream.
* **`Yaml.isBlank`**, **`Yaml.isBreak`** — blanks inside a line, and line breaks.
* **`Yaml.endsWord`** — whether a text begins with a blank, a break or nothing at all.
* **`Yaml.isDocumentMark`** — whether a line begins or ends a document.
-/

namespace BriefSearch.Yaml

/-- A character that may stand in a stream. -/
def isChar (c : Char) : Bool :=
  c = '\t' || c = '\n' || c = '\r' || (0x20 ≤ c.toNat && c.toNat ≤ 0x7E) || c.toNat = 0x85
    || (0xA0 ≤ c.toNat && c.toNat ≤ 0xFFFD) || 0x10000 ≤ c.toNat

/-- A space or tab. -/
def isBlank (c : Char) : Bool :=
  c = ' ' || c = '\t'

/-- A carriage return, line feed, next line, line separator or paragraph separator. -/
def isBreak (c : Char) : Bool :=
  c = '\r' || c = '\n' || c = '\x85' || c = '\u2028' || c = '\u2029'

/-- A blank or a break. -/
def isWhite (c : Char) : Bool :=
  isBlank c || isBreak c

/-- Holds when a text begins with a blank, a break or not at all. -/
def endsWord (cs : List Char) : Bool :=
  cs.head?.all isWhite

/-- Holds when a text begins with a break or not at all. -/
def endsLine (cs : List Char) : Bool :=
  cs.head?.all isBreak

/-- The text behind the line break it begins with; a carriage return and a line feed are one. -/
def afterBreak : List Char → List Char
  | '\r' :: '\n' :: rest => rest
  | c :: rest => if isBreak c then rest else c :: rest
  | [] => []

/-- Holds for a line that begins or ends a document. -/
def isDocumentMark : List Char → Bool
  | '-' :: '-' :: '-' :: rest => endsWord rest
  | '.' :: '.' :: '.' :: rest => endsWord rest
  | _ => false

/-- A letter or digit of ASCII, a hyphen or an underscore: what names consist of. -/
def isNameChar (c : Char) : Bool :=
  c.isAlphanum || c = '-' || c = '_'

/-- Drops blanks and a comment up to the end of the line; none if anything else stands there. -/
def restOfLine? (cs : List Char) : Option (List Char) :=
  let cs := cs.dropWhile isBlank
  let cs := if cs.head? = some '#' then cs.dropWhile (!isBreak ·) else cs
  if endsLine cs then some (afterBreak cs) else none

end BriefSearch.Yaml
