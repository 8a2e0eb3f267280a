import BriefSearch.Text.Basic
import BriefSearch.Xml.Character

/-!
# The markup of a document

* **`Xml.WrittenName`** — a name as it is written, with its qualifier.
* **`Xml.Markup`** — tags, texts, comments and processing instructions, one behind the other.
* **`Xml.markup?`** — the markup of a document.

Whatever is not well-formed by itself is refused here: names, quotes, characters, comments and the
declaration at the start. Whether tags match is not looked at.
-/

namespace BriefSearch.Xml

/-- A name as it is written: `qualifier:localName`, or a local name without qualifier. -/
structure WrittenName where
  /-- The part before the colon, empty if there is none. -/
  qualifier : List Char
  /-- The part behind the colon, or all of the name. -/
  localName : List Char
  deriving DecidableEq, Repr

/-- A piece of a document. -/
inductive Markup where
  | opening (name : WrittenName) (attributes : List (WrittenName × List Char)) (closed : Bool)
  | closing (name : WrittenName)
  | text (cs : List Char)
  | verbatim (cs : List Char)
  | comment (cs : List Char)
  | instruction (target cs : List Char)
  deriving Repr

/-! ### Names -/

/-- Drops the spaces at the start. -/
def skipSpaces (cs : List Char) : List Char :=
  cs.dropWhile isSpace

/-- Holds for a non-empty text that starts as a name does. -/
def startsName (cs : List Char) : Bool :=
  cs.head?.any isNameStart

/-- The name of a run of name characters: at most one colon, and both parts start as names do. The
qualifier may be empty even before a colon. -/
def WrittenName.ofRun? (run : List Char) : Option WrittenName :=
  match Text.cut? [':'] run with
  | none => if startsName run then some ⟨[], run⟩ else none
  | some (qualifier, localName) =>
    if (qualifier.isEmpty || startsName qualifier) && startsName localName
      && !localName.contains ':' then some ⟨qualifier, localName⟩
    else none

/-- Reads a name. -/
def writtenName? (cs : List Char) : Option (WrittenName × List Char) :=
  (WrittenName.ofRun? (cs.takeWhile isNameChar)).map (·, cs.dropWhile isNameChar)

/-! ### Attributes -/

/-- Reads a quoted value, which holds neither its quote nor a tag's start. -/
def quotedValue? : List Char → Option (List Char × List Char)
  | quotation :: rest =>
    if quotation = '"' || quotation = '\'' then
      match Text.cut? [quotation] rest with
      | none => none
      | some (value, behind) =>
        if value.all fun c => isChar c && c ≠ '<' then some (value, behind) else none
    else none
  | [] => none

/-- Reads an equals sign between spaces. -/
def equals? (cs : List Char) : Option (List Char) :=
  (Text.after? ['='] (skipSpaces cs)).map skipSpaces

/-- Reads an attribute with its value. -/
def attribute? (cs : List Char) : Option ((WrittenName × List Char) × List Char) :=
  match writtenName? cs with
  | none => none
  | some (name, rest) =>
    match (equals? rest).bind quotedValue? with
    | none => none
    | some (value, rest) => some ((name, value), rest)

/-- The attributes of a tag, whether the tag closes itself, and the text behind the tag. -/
structure TagEnd where
  attributes : List (WrittenName × List Char)
  closed : Bool
  rest : List Char

/-- Reads a tag behind its name: attributes, each behind a space, up to `>` or `/>`. Every attribute
takes a character, so a budget of one step per character suffices. -/
def tagEnd? : Nat → List Char → Option TagEnd
  | 0, _ => none
  | steps + 1, cs =>
    match skipSpaces cs with
    | '>' :: rest => some ⟨[], false, rest⟩
    | '/' :: '>' :: rest => some ⟨[], true, rest⟩
    | '/' :: _ => none
    | more =>
      if cs.head?.any isSpace then
        match attribute? more with
        | none => none
        | some (first, rest) =>
          (tagEnd? steps rest).map fun tag =>
            { tag with attributes := first :: tag.attributes }
      else none

/-! ### Pieces -/

/-- Reads a text of document characters up to a mark. -/
def charsUpTo? (mark : String) (cs : List Char) : Option (List Char × List Char) :=
  match Text.cut? mark.toList cs with
  | none => none
  | some (content, rest) => if content.all isChar then some (content, rest) else none

/-- Reads a comment behind its opening mark. Two hyphens stand at its end only. -/
def comment? (cs : List Char) : Option (Markup × List Char) :=
  match charsUpTo? "-->" cs with
  | none => none
  | some (content, rest) =>
    if Text.occurs ['-', '-'] content || content.getLast? = some '-' then none
    else some (.comment content, rest)

/-- Reads a processing instruction behind its opening mark. -/
def instruction? (cs : List Char) : Option (Markup × List Char) :=
  let target := cs.takeWhile isNameChar
  if startsName target then
    (charsUpTo? "?>" (skipSpaces (cs.dropWhile isNameChar))).map fun (content, rest) =>
      (.instruction target content, rest)
  else none

/-- Reads a section without references behind its opening mark. -/
def verbatim? (cs : List Char) : Option (Markup × List Char) :=
  (charsUpTo? "]]>" cs).map fun (content, rest) => (.verbatim content, rest)

/-- Reads a closing tag behind its opening mark. -/
def closing? (cs : List Char) : Option (Markup × List Char) :=
  match writtenName? cs with
  | none => none
  | some (name, rest) => (Text.after? ['>'] (skipSpaces rest)).map (.closing name, ·)

/-- Reads an opening tag behind its opening mark. -/
def opening? (cs : List Char) : Option (Markup × List Char) :=
  match writtenName? cs with
  | none => none
  | some (name, rest) =>
    (tagEnd? (rest.length + 1) rest).map fun tag =>
      (.opening name tag.attributes tag.closed, tag.rest)

/-- Reads a text up to the next tag; it holds document characters only, and not the end mark of a
section without references. -/
def text? (cs : List Char) : Option (Markup × List Char) :=
  let content := cs.takeWhile (· ≠ '<')
  if content.all isChar && !Text.occurs "]]>".toList content then
    some (.text content, cs.dropWhile (· ≠ '<'))
  else none

/-- The opening mark of the declaration, which stands at the very start only. -/
def declarationMark : List Char :=
  "<?xml ".toList

/-- Reads the piece at the start of a text. -/
def piece? (cs : List Char) : Option (Markup × List Char) :=
  if (Text.after? declarationMark cs).isSome then none
  else
    match cs with
    | '<' :: '!' :: '-' :: '-' :: rest => comment? rest
    | '<' :: '!' :: rest => (Text.after? "[CDATA[".toList rest).bind verbatim?
    | '<' :: '?' :: rest => instruction? rest
    | '<' :: '/' :: rest => closing? rest
    | '<' :: rest => opening? rest
    | cs => text? cs

/-- The pieces of a text. Every piece takes a character, so a budget of one step per character
suffices. -/
def piecesOf? : Nat → List Char → Option (List Markup)
  | _, [] => some []
  | 0, _ => none
  | steps + 1, cs =>
    match piece? cs with
    | none => none
    | some (piece, rest) => (piecesOf? steps rest).map (piece :: ·)

/-! ### The declaration -/

/-- Reads the spaces behind a part of the declaration; only its end needs none. -/
def partEnd? (cs : List Char) : Option (List Char) :=
  if cs.head?.any isSpace then some (skipSpaces cs)
  else if (Text.after? "?>".toList cs).isSome then some cs
  else none

/-- Reads a part of the declaration if it is the one of the given name. -/
def declarationPart? (name : String) (cs : List Char) : Option (List Char) :=
  if (Text.after? name.toList cs).isSome then
    (attribute? cs).bind fun (_, rest) => partEnd? rest
  else some cs

/-- Reads the last part of the declaration, which needs no space behind it. -/
def lastPart? (name : String) (cs : List Char) : Option (List Char) :=
  if (Text.after? name.toList cs).isSome then (attribute? cs).map fun (_, rest) => skipSpaces rest
  else some cs

/-- Reads the declaration behind its opening mark: the version, and if wanted the encoding and
whether the document stands alone, in this order. -/
def declaration? (cs : List Char) : Option (List Char) :=
  let start := skipSpaces cs
  if (Text.after? "version".toList start).isSome then
    (declarationPart? "version" start).bind fun rest =>
      (declarationPart? "encoding" rest).bind fun rest =>
        (lastPart? "standalone" rest).bind fun rest => Text.after? "?>".toList rest
  else none

/-- The text behind a byte order mark and the declaration. -/
def behindDeclaration? (cs : List Char) : Option (List Char) :=
  let cs := (Text.after? ['\uFEFF'] cs).getD cs
  match Text.after? declarationMark cs with
  | none => some cs
  | some rest => declaration? rest

/-- The markup of a document. -/
def markup? (cs : List Char) : Option (List Markup) :=
  (behindDeclaration? cs).bind fun rest => piecesOf? rest.length rest

end BriefSearch.Xml
