import BriefSearch.Yaml.Gap

/-!
# Plain scalars

* **`PlainScalar.read?`** — the text of a scalar without quotes, and what follows it.

Such a scalar ends before a colon and a blank, before a comment, before a line that is indented too
little or bounds the document, and inside brackets before any bracket or comma.
-/

namespace BriefSearch.Yaml.PlainScalar

/-- The characters that end a scalar inside brackets. -/
def isFlowMark (c : Char) : Bool :=
  c = ',' || c = '[' || c = ']' || c = '\x7b' || c = '\x7d'

/-- Holds when a scalar ends before the text. -/
def stops (inFlow : Bool) : List Char → Bool
  | [] => true
  | c :: rest => isWhite c || (c = ':' && endsWord rest) || (inFlow && isFlowMark c)

/-- Holds when a colon stands directly before a mark inside brackets. -/
def isMisplacedColon (inFlow : Bool) : List Char → Bool
  | ':' :: c :: _ => inFlow && (isFlowMark c || c = '?')
  | _ => false

/-- Reads a run of characters without blanks. -/
def word? (inFlow : Bool) : List Char → Option (List Char × List Char)
  | [] => some ([], [])
  | c :: rest =>
    if isMisplacedColon inFlow (c :: rest) then none
    else if stops inFlow (c :: rest) then some ([], c :: rest)
    else (word? inFlow rest).map fun (text, behind) => (c :: text, behind)

/-- A scalar that has been read. -/
structure Result where
  text : List Char
  /-- What follows, behind any white space. -/
  rest : List Char
  /-- Whether white space over several lines follows it. -/
  endsLine : Bool

/-- Reads words and the gaps between them: `gap` is the text for the gap before the next word,
`broken` tells whether that gap goes over several lines, and `column` is the column reached. Every
round takes a character, so a budget of one step per character suffices. -/
def words? (inFlow : Bool) (indent : Nat) :
    Nat → (gap : List Char) → (broken : Bool) → (column : Nat) → List Char → Option Result
  | 0, _, _, _, _ => none
  | steps + 1, gap, broken, column, cs =>
    if (column = 0 && isDocumentMark cs) || cs.head? = some '#' then some ⟨[], cs, broken⟩
    else
      match word? inFlow cs with
      | none => none
      | some ([], _) => some ⟨[], cs, broken⟩
      | some (word, behind) =>
        let white := Gap.of behind
        if white.run.isEmpty then some ⟨gap ++ word, behind, false⟩
        else if Gap.tabBefore indent 0 false white.run then none
        else
          let rest := behind.drop white.run.length
          let column :=
            if white.hasBreak then white.lastLine.length
            else column + word.length + white.run.length
          if !inFlow && column < indent then some ⟨gap ++ word, rest, white.hasBreak⟩
          else
            (words? inFlow indent steps white.folded white.hasBreak column rest).map fun r =>
              { r with text := gap ++ word ++ r.text }

/-- Reads a scalar that begins at a column, inside a collection of the given indentation. -/
def read? (inFlow : Bool) (indent : Nat) (column : Nat) (cs : List Char) : Option Result :=
  words? inFlow indent (cs.length + 1) [] false column cs

end BriefSearch.Yaml.PlainScalar
