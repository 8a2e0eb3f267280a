import BriefSearch.Yaml.Gap

/-!
# Block scalars

* **`BlockScalar.read?`** — the text of the indented lines behind `|` or `>`, and what follows them.

A header tells how the line breaks at the end are treated and how far the lines are indented;
without it the first line that is not blank decides about the indentation. Behind `>` a single
break between lines that begin with a word is a space.
-/

namespace BriefSearch.Yaml.BlockScalar

/-- What happens to the line breaks at the end: all go, one stays, or all stay. -/
inductive Chomping where
  | strip
  | clip
  | keep
  deriving DecidableEq

/-- What stands between `|` or `>` and the first line. -/
structure Header where
  /-- The treatment of the breaks at the end. -/
  chomping : Chomping
  /-- How much deeper than their surroundings the lines are indented, if the header says so. -/
  increment : Option Nat

/-- The treatment that a sign stands for. -/
def chomping? : List Char → Option (Chomping × List Char)
  | '+' :: rest => some (.keep, rest)
  | '-' :: rest => some (.strip, rest)
  | _ => none

/-- Reads an increment; zero is none. -/
def increment? : List Char → Option (Option Nat × List Char)
  | c :: rest =>
    if c.isDigit then if c = '0' then none else some (some (c.toNat - 48), rest)
    else some (none, c :: rest)
  | [] => some (none, [])

/-- Reads sign and increment in either order, and the rest of the line. -/
def header? (cs : List Char) : Option (Header × List Char) :=
  match chomping? cs with
  | some (chomping, rest) =>
    match increment? rest with
    | none => none
    | some (increment, rest) => (restOfLine? rest).map (⟨chomping, increment⟩, ·)
  | none =>
    match increment? cs with
    | none => none
    | some (none, rest) => (restOfLine? rest).map (⟨.clip, none⟩, ·)
    | some (some n, rest) =>
      let (chomping, rest) := (chomping? rest).getD (.clip, rest)
      (restOfLine? rest).map (⟨chomping, some n⟩, ·)

/-- Blank lines: their breaks, the greatest number of spaces on a line and that of the line behind
them, and the text behind those spaces. -/
structure BlankLines where
  breaks : List Char
  greatest : Nat
  column : Nat
  rest : List Char

/-- Reads blank lines, and the spaces of the line behind them. At most `limit` spaces of a line
count, where there is a limit; a tab within them is not allowed. Every round takes a break, so a
budget of one step per character suffices. -/
def blankLines? (limit : Option Nat) : Nat → (greatest : Nat) → List Char → Option BlankLines
  | 0, _, _ => none
  | steps + 1, greatest, cs =>
    let spaces := (cs.takeWhile (· = ' ')).length
    let column := (limit.map (min spaces)).getD spaces
    let rest := cs.drop column
    let greatest := max greatest column
    if limit.all (column < ·) && rest.head? = some '\t' then none
    else if rest.head?.any isBreak then
      (blankLines? limit steps greatest (afterBreak rest)).map fun lines =>
        { lines with breaks := breaksOf (rest.take 1) ++ lines.breaks }
    else some ⟨[], greatest, column, rest⟩

/-- A position between lines: the break before it, whether the line before begins with a blank, the
breaks of the blank lines read since, and the text from the next line's first character on. -/
structure Between where
  first : List Char
  blankBefore : Bool
  more : List Char
  column : Nat
  rest : List Char

/-- The text for the breaks between two lines. -/
def Between.joint (literal : Bool) (b : Between) : List Char :=
  if !literal && b.first.head? = some '\n' && !b.blankBefore && !b.rest.head?.any isBlank then
    if b.more.isEmpty then [' '] else b.more
  else b.first ++ b.more

/-- Reads lines of an indentation. Every line takes a character, so a budget of one step per
character suffices. -/
def lines? (literal : Bool) (indent : Nat) : Nat → Between → Option (List Char × Between)
  | 0, _ => none
  | steps + 1, b =>
    if b.column = indent && !b.rest.isEmpty then
      let line := b.rest.takeWhile (!isBreak ·)
      let behind := b.rest.dropWhile (!isBreak ·)
      let next := afterBreak behind
      match blankLines? (some indent) (next.length + 1) 0 next with
      | none => none
      | some blank =>
        let b' : Between :=
          ⟨breaksOf (behind.take 1), b.rest.head?.any isBlank, blank.breaks, blank.column,
            blank.rest⟩
        (lines? literal indent steps b').map fun (text, last) =>
          (b.joint literal ++ line ++ text, last)
    else some ([], b)

/-- The breaks that stay at the end. -/
def tail (chomping : Chomping) (b : Between) : List Char :=
  match chomping with
  | .strip => []
  | .clip => b.first
  | .keep => b.first ++ b.more

/-- Reads a scalar behind its `|` or `>`, inside a collection of the given indentation, -1 at the
top. -/
def read? (literal : Bool) (parent : Int) (cs : List Char) : Option (List Char × List Char) :=
  match header? cs with
  | none => none
  | some (header, rest) =>
    let given := header.increment.map fun n => (max parent 0).toNat + n
    match blankLines? given (rest.length + 1) 0 rest with
    | none => none
    | some blank =>
      let indent := given.getD (max blank.greatest (max (parent + 1) 1).toNat)
      match lines? literal indent (blank.rest.length + 1)
        ⟨[], false, blank.breaks, blank.column, blank.rest⟩ with
      | none => none
      | some (text, last) => some (text ++ tail header.chomping last, last.rest)

end BriefSearch.Yaml.BlockScalar
