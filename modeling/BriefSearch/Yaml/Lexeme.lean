/-!
# The lexemes of YAML

* **`Yaml.Tag`** — the bytes of a tag.
* **`Yaml.Lexeme`** — scalars, properties of nodes, directives, and the marks that give a document
  its structure.
-/

namespace BriefSearch.Yaml

/-- A tag or a part of one as bytes: percent signs can write bytes that are no text. -/
abbrev Tag := List UInt8

/-- The tag that a text spells. -/
def Tag.ofString (s : String) : Tag :=
  s.toList.flatMap String.utf8EncodeChar

/-- A lexeme of a stream. The begin and the end of a collection without brackets are lexemes of
their own, which the indentation gives. -/
inductive Lexeme where
  | version (major minor : Nat)
  | handle (name : String) (replacement : Tag)
  | documentStart
  | documentEnd
  | streamEnd
  | blockSequence
  | blockMapping
  | blockEnd
  | flowSequence
  | flowSequenceEnd
  | flowMapping
  | flowMappingEnd
  | blockEntry
  | flowEntry
  | key
  | value
  | alias (name : String)
  | anchor (name : String)
  | tag (handle : String) (suffix : Tag)
  | scalar (text : String) (plain : Bool)
  deriving DecidableEq, Repr

end BriefSearch.Yaml
