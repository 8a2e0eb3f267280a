import BriefSearch.Yaml.Gap

/-!
# Quoted scalars

* **`QuotedScalar.single?`** — the text between single quotes, where two of them stand for one.
* **`QuotedScalar.double?`** — the text between double quotes, with escapes.

Line breaks between words are folded. A line inside the quotes must not bound the document.
-/

namespace BriefSearch.Yaml.QuotedScalar

/-- The characters that an escape of one letter stands for. -/
def escapes : List (Char × Char) :=
  [('0', '\x00'), ('a', '\x07'), ('b', '\x08'), ('t', '\t'), ('\t', '\t'), ('n', '\n'),
   ('v', '\x0b'), ('f', '\x0c'), ('r', '\r'), ('e', '\x1b'), (' ', ' '), ('"', '"'), ('/', '/'),
   ('\\', '\\'), ('N', '\x85'), ('_', '\xa0'), ('L', '\u2028'), ('P', '\u2029')]

/-- The number of digits behind the letter of an escape by number. -/
def digitCount? (c : Char) : Option Nat :=
  if c = 'x' then some 2 else if c = 'u' then some 4 else if c = 'U' then some 8 else none

/-- The value of a digit of base sixteen. -/
def hexValue? (c : Char) : Option Nat :=
  if c.isDigit then some (c.toNat - 48)
  else if 'a' ≤ c && c ≤ 'f' then some (c.toNat - 87)
  else if 'A' ≤ c && c ≤ 'F' then some (c.toNat - 55)
  else none

/-- The number that digits of base sixteen stand for. -/
def hexNumber? : Nat → List Char → Option Nat
  | n, [] => some n
  | n, c :: rest => (hexValue? c).bind fun d => hexNumber? (n * 16 + d) rest

/-- The character of an escape behind its backslash, and what follows. -/
def escaped? : List Char → Option (Char × List Char)
  | [] => none
  | c :: rest =>
    match digitCount? c with
    | none => (escapes.find? (·.1 = c)).map fun e => (e.2, rest)
    | some count =>
      if rest.length < count then none
      else
        match hexNumber? 0 (rest.take count) with
        | none => none
        | some n => if n.isValidChar then some (Char.ofNat n, rest.drop count) else none

/-- Puts characters in front of a text that has been read. -/
def before (cs : List Char) (read : List Char × List Char) : List Char × List Char :=
  (cs ++ read.1, read.2)

/-- Reads up to the closing quote; `lineStart` tells whether a line begins here. Every round takes a
character, so a budget of one step per character suffices. -/
def singleWithin? : Nat → (lineStart : Bool) → List Char → Option (List Char × List Char)
  | 0, _, _ => none
  | steps + 1, lineStart, cs =>
    if lineStart && isDocumentMark cs then none
    else
      match cs with
      | [] => none
      | '\'' :: '\'' :: rest => (singleWithin? steps false rest).map (before ['\''])
      | '\'' :: rest => some ([], rest)
      | c :: rest =>
        if isWhite c then
          let gap := Gap.of cs
          (singleWithin? steps gap.endsWithBreak (cs.drop gap.run.length)).map
            (before gap.folded)
        else (singleWithin? steps false rest).map (before [c])

/-- The text between single quotes, behind the opening one, and what follows. -/
def single? (cs : List Char) : Option (List Char × List Char) :=
  singleWithin? (cs.length + 1) false cs

/-- Reads up to the closing quote; `lineStart` tells whether a line begins here. A backslash before
a line break takes the break and the blanks of the next line away. -/
def doubleWithin? : Nat → (lineStart : Bool) → List Char → Option (List Char × List Char)
  | 0, _, _ => none
  | steps + 1, lineStart, cs =>
    if lineStart && isDocumentMark cs then none
    else
      match cs with
      | [] => none
      | '"' :: rest => some ([], rest)
      | '\\' :: rest =>
        if rest.head?.any isBreak then
          let behind := afterBreak rest
          let gap := Gap.of behind
          (doubleWithin? steps (gap.run.isEmpty || gap.endsWithBreak)
            (behind.drop gap.run.length)).map (before (breaksOf gap.run))
        else
          match escaped? rest with
          | none => none
          | some (c, behind) => (doubleWithin? steps false behind).map (before [c])
      | c :: rest =>
        if isWhite c then
          let gap := Gap.of cs
          (doubleWithin? steps gap.endsWithBreak (cs.drop gap.run.length)).map
            (before gap.folded)
        else (doubleWithin? steps false rest).map (before [c])

/-- The text between double quotes, behind the opening one, and what follows. -/
def double? (cs : List Char) : Option (List Char × List Char) :=
  doubleWithin? (cs.length + 1) false cs

end BriefSearch.Yaml.QuotedScalar
