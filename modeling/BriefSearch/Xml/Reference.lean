import BriefSearch.Xml.Character

/-!
# References and line breaks

* **`Xml.pieces?`** — the characters of a text after its references have been resolved, each with
  the knowledge whether a reference stood for it.
* **`Xml.attributeValue?`** — an attribute value, in which every blank is a space.
* **`Xml.textContent?`** — a text, in which every line ends with a line feed.

A reference names one of five characters or gives a character by its number.
-/

namespace BriefSearch.Xml

/-- A character as it stands in a text, or one that a reference stands for. -/
inductive Piece where
  | literal (c : Char)
  | reference (c : Char)

/-- The characters that have a name. -/
def namedChars : List (String × Char) :=
  [("quot", '"'), ("apos", '\''), ("amp", '&'), ("lt", '<'), ("gt", '>')]

/-- The value of a digit in base ten or sixteen. -/
def digitValue (c : Char) : Nat :=
  if c.isDigit then c.toNat - 48 else if 97 ≤ c.toNat then c.toNat - 87 else c.toNat - 55

/-- Holds for the digits of base sixteen in upper and lower case. -/
def isHexDigit (c : Char) : Bool :=
  c.isDigit || ('a' ≤ c && c ≤ 'f') || ('A' ≤ c && c ≤ 'F')

/-- The number that digits stand for. -/
def numberOf (base : Nat) (digits : List Char) : Nat :=
  digits.foldl (fun n c => n * base + digitValue c) 0

/-- The character of a number below 2 ^ 32. A number that no character has gives U+FFFD, and what
may not stand in a document gives nothing. -/
def numbered? (base : Nat) (digits : List Char) : Option Char :=
  let n := numberOf base digits
  if digits.isEmpty || 4294967296 ≤ n then none
  else
    let c := if n.isValidChar then Char.ofNat n else '\uFFFD'
    if isChar c then some c else none

/-- The character that a reference without its ampersand and semicolon stands for. -/
def referenced? : List Char → Option Char
  | '#' :: 'x' :: digits => if digits.all isHexDigit then numbered? 16 digits else none
  | '#' :: digits => if digits.all Char.isDigit then numbered? 10 digits else none
  | name => (namedChars.find? fun p => p.1.toList = name).map (·.2)

/-- Reads a text piece by piece; `open?` holds the reference that is being read. -/
def piecesWith (open? : Option (List Char)) : List Char → Option (List Piece)
  | [] => if open?.isSome then none else some []
  | c :: rest =>
    match open? with
    | none =>
      if c = '&' then piecesWith (some []) rest
      else (piecesWith none rest).map (.literal c :: ·)
    | some read =>
      if c = ';' then
        match referenced? read with
        | none => none
        | some d => (piecesWith none rest).map (.reference d :: ·)
      else piecesWith (some (read ++ [c])) rest

/-- The pieces of a text; none if a reference stands for no character. -/
def pieces? (cs : List Char) : Option (List Piece) :=
  piecesWith none cs

/-- The characters of an attribute value: a literal line break or tab becomes a space. -/
def spaced : List Piece → List Char
  | [] => []
  | .reference c :: rest => c :: spaced rest
  | .literal '\r' :: .literal '\n' :: rest => ' ' :: spaced rest
  | .literal c :: rest => (if isSpace c then ' ' else c) :: spaced rest

/-- The value of an attribute from the text between its quotes. -/
def attributeValue? (cs : List Char) : Option String :=
  (pieces? cs).map fun pieces => .ofList (spaced pieces)

/-- Each character with the mark whether it is kept as it is. A reference protects its character and
the literal one behind it. -/
def protection (afterReference : Bool) : List Piece → List (Char × Bool)
  | [] => []
  | .reference c :: rest => (c, true) :: protection true rest
  | .literal c :: rest => (c, afterReference) :: protection false rest

/-- Ends every line with a line feed. What follows a carriage return decides about it: before a
character that is not kept as it is, or at the end without protection, it becomes a line feed, and
takes a line feed behind it along. -/
def lineEnded : List (Char × Bool) → List Char
  | [] => []
  | [(c, kept)] => [if c = '\r' && !kept then '\n' else c]
  | (c, _) :: (d, kept) :: rest =>
    if c = '\r' && !kept then
      if d = '\n' then '\n' :: lineEnded rest else '\n' :: lineEnded ((d, kept) :: rest)
    else c :: lineEnded ((d, kept) :: rest)

/-- The content of a text between tags. -/
def textContent? (cs : List Char) : Option String :=
  (pieces? cs).map fun pieces => .ofList (lineEnded (protection false pieces))

/-- The content of a section without references. -/
def verbatimContent (cs : List Char) : String :=
  .ofList (lineEnded (cs.map fun c => (c, false)))

end BriefSearch.Xml
