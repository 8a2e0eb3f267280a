import BriefSearch.Yaml.Character

/-!
# Positions in a stream

* **`Yaml.Mark`** — how many bytes, lines and columns stand before a place.
* **`Yaml.Cursor`** — a place with the text from it on.
* **`Cursor.moveTo`** — goes on to a later place of the same text.
-/

namespace BriefSearch.Yaml

/-- A place in a stream, counted from zero. -/
structure Mark where
  /-- Bytes before it in UTF-8. -/
  index : Nat
  line : Nat
  /-- Characters before it on its line. -/
  column : Nat
  deriving DecidableEq, Repr

/-- The place behind a piece of text. -/
def Mark.after (mark : Mark) : List Char → Mark
  | [] => mark
  | '\r' :: '\n' :: rest => Mark.after ⟨mark.index + 2, mark.line + 1, 0⟩ rest
  | c :: rest =>
    if isBreak c then Mark.after ⟨mark.index + c.utf8Size, mark.line + 1, 0⟩ rest
    else Mark.after ⟨mark.index + c.utf8Size, mark.line, mark.column + 1⟩ rest

/-- A place and the text from it on. -/
structure Cursor where
  mark : Mark
  rest : List Char

namespace Cursor

/-- The place where the given end of the text begins. -/
def moveTo (cursor : Cursor) (rest : List Char) : Cursor :=
  ⟨cursor.mark.after (cursor.rest.take (cursor.rest.length - rest.length)), rest⟩

/-- The place some characters later. -/
def skip (cursor : Cursor) (n : Nat) : Cursor :=
  ⟨cursor.mark.after (cursor.rest.take n), cursor.rest.drop n⟩

/-- The place behind the characters of a kind that the text begins with. -/
def skipWhile (cursor : Cursor) (p : Char → Bool) : Cursor :=
  ⟨cursor.mark.after (cursor.rest.takeWhile p), cursor.rest.dropWhile p⟩

end Cursor

end BriefSearch.Yaml
