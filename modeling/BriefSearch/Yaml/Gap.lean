import BriefSearch.Yaml.Character

/-!
# White space inside scalars

* **`Yaml.Gap`** — a run of blanks and line breaks between the words of a scalar.
* **`Gap.folded`** — what the run stands for: a single break for a space, further ones for
  themselves.
-/

namespace BriefSearch.Yaml

/-- A line break as it enters a text. -/
def breakChar (c : Char) : Char :=
  if c = '\u2028' || c = '\u2029' then c else '\n'

/-- The line breaks of a text as they enter a text. -/
def breaksOf : List Char → List Char
  | [] => []
  | '\r' :: '\n' :: rest => '\n' :: breaksOf rest
  | c :: rest => if isBreak c then breakChar c :: breaksOf rest else breaksOf rest

/-- Line breaks between words: the first one is a space if it stands alone, and nothing before
further breaks. A line or paragraph separator always stays. -/
def foldedBreaks : List Char → List Char
  | [] => []
  | first :: more =>
    if first = '\n' then if more.isEmpty then [' '] else more else first :: more

/-- A run of blanks and line breaks. -/
structure Gap where
  /-- The characters of the run. -/
  run : List Char

namespace Gap

/-- The run that a text begins with. -/
def of (cs : List Char) : Gap :=
  ⟨cs.takeWhile isWhite⟩

/-- Holds when the run goes over more than one line. -/
def hasBreak (gap : Gap) : Bool :=
  gap.run.any isBreak

/-- The blanks behind the last break, or all of them. -/
def lastLine (gap : Gap) : List Char :=
  (gap.run.reverse.takeWhile (!isBreak ·)).reverse

/-- Holds when the run ends with a break, so that a line begins behind it. -/
def endsWithBreak (gap : Gap) : Bool :=
  gap.run.getLast?.any isBreak

/-- What the run stands for between words. -/
def folded (gap : Gap) : List Char :=
  if gap.hasBreak then foldedBreaks (breaksOf gap.run) else gap.run

/-- Holds when a tab stands behind a break before the given column, `column` characters of the line
being read. -/
def tabBefore (limit : Nat) : (column : Nat) → (broken : Bool) → List Char → Bool
  | _, _, [] => false
  | column, broken, c :: rest =>
    if isBreak c then tabBefore limit 0 true rest
    else (broken && c = '\t' && column < limit) || tabBefore limit (column + 1) broken rest

end Gap

end BriefSearch.Yaml
