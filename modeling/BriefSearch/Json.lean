import BriefSearch.OrderedMap

/-!
# JSON values and their text

* **`Json`** — null, truth values, natural numbers, texts, lists and objects with ordered members.
* **`Json.compact`** — the text on one line without spaces.
* **`Json.pretty`** — the text on lines indented by two spaces a level.
-/

namespace BriefSearch

/-- A JSON value; the members of an object keep their order. -/
inductive Json where
  | null
  | bool (b : Bool)
  | number (n : Nat)
  | text (s : String)
  | list (items : List Json)
  | object (members : List (String × Json))

namespace Json

/-- A text, or null where there is none. -/
def optionalText : Option String → Json
  | some s => text s
  | none => null

/-- A list of texts. -/
def texts (ss : List String) : Json :=
  list (ss.map text)

/-- The escape of a control character without a short one, as in `\u001f`. -/
def controlEscape (c : Char) : List Char :=
  ['\\', 'u', '0', '0', Nat.digitChar (c.toNat / 16), Nat.digitChar (c.toNat % 16)]

/-- A character inside a JSON text. -/
def escaped (c : Char) : List Char :=
  if c = '"' then ['\\', '"']
  else if c = '\\' then ['\\', '\\']
  else if c = '\x08' then ['\\', 'b']
  else if c = '\x0c' then ['\\', 'f']
  else if c = '\n' then ['\\', 'n']
  else if c = '\r' then ['\\', 'r']
  else if c = '\t' then ['\\', 't']
  else if c.toNat < 32 then controlEscape c
  else [c]

/-- A text between its quotes. -/
def quoted (s : String) : String :=
  .ofList (['"'] ++ s.toList.flatMap escaped ++ ['"'])

/-- The text of a truth value. -/
def boolText (b : Bool) : String :=
  if b then "true" else "false"

mutual

/-- The text on one line. -/
def compact : Json → String
  | null => "null"
  | bool b => boolText b
  | number n => toString n
  | text s => quoted s
  | list items => "[" ++ ",".intercalate (compactItems items) ++ "]"
  | object members => "\x7b" ++ ",".intercalate (compactMembers members) ++ "\x7d"

/-- The items of a list, each on one line. -/
def compactItems : List Json → List String
  | [] => []
  | item :: rest => item.compact :: compactItems rest

/-- The members of an object, each on one line. -/
def compactMembers : List (String × Json) → List String
  | [] => []
  | (name, value) :: rest => (quoted name ++ ":" ++ value.compact) :: compactMembers rest

end

/-- A line break and the indentation of a level. -/
def newline (level : Nat) : String :=
  "\n" ++ .ofList (.replicate (2 * level) ' ')

/-- Parts between brackets, each on a line of its own, or the bare brackets if there are none. -/
def block (opening closing : String) (level : Nat) (parts : List String) : String :=
  if parts.isEmpty then opening ++ closing
  else opening ++ newline (level + 1) ++ ("," ++ newline (level + 1)).intercalate parts
    ++ newline level ++ closing

mutual

/-- The text over several lines, the first of which stands at the given level. -/
def prettyAt (level : Nat) : Json → String
  | null => "null"
  | bool b => boolText b
  | number n => toString n
  | text s => quoted s
  | list items => block "[" "]" level (prettyItems (level + 1) items)
  | object members => block "\x7b" "\x7d" level (prettyMembers (level + 1) members)

/-- The items of a list at a level. -/
def prettyItems (level : Nat) : List Json → List String
  | [] => []
  | item :: rest => item.prettyAt level :: prettyItems level rest

/-- The members of an object at a level. -/
def prettyMembers (level : Nat) : List (String × Json) → List String
  | [] => []
  | (name, value) :: rest =>
    (quoted name ++ ": " ++ value.prettyAt level) :: prettyMembers level rest

end

/-- The text over several lines. -/
def pretty (value : Json) : String :=
  value.prettyAt 0

end Json

end BriefSearch
