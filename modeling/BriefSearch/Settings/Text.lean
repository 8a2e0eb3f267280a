import BriefSearch.Distinct
import BriefSearch.Settings.Basic
import BriefSearch.Yaml.Document

/-!
# Settings as text

* **`Settings.parse`** — the settings that a YAML text describes.

Every entry may be left out, and entries of other names are passed over. Texts are taken as they are
written, whatever they look like; only scopes can be null. A text in which more aliases would have
to be followed than its length allows describes no settings.
-/

namespace BriefSearch

namespace Settings

open Yaml (Document Value)

/-- The text of a scalar. -/
def text? (document : Document) (value : Value) : Option String :=
  match document.resolved value with
  | .scalar _ text _ => some text
  | _ => none

/-- Holds for the words of null. -/
def isNullWord (text : String) : Bool :=
  ["~", "null", "Null", "NULL"].contains text

/-- The tag of null. -/
def nullTag : Yaml.Tag :=
  .ofString "tag:yaml.org,2002:null"

/-- A text or null: nothing and the words of null stand for it unless they are quoted or have a tag,
and only those words may have the tag of null. -/
def optionalText? (document : Document) (value : Value) : Option (Option String) :=
  match document.resolved value with
  | .scalar (some tag) text true =>
    if tag = nullTag then if isNullWord text then some none else none
    else some (some text)
  | .scalar none text true => some (if text = "" || isNullWord text then none else some text)
  | .scalar _ text false => some (some text)
  | _ => none

/-- The entries of a mapping; where nothing is written there are none. -/
def entries? (document : Document) (value : Value) : Option (List (Value × Value)) :=
  match document.resolved value with
  | .mapping entries => some entries
  | .scalar _ "" true => some []
  | _ => none

/-- The entries of a mapping with texts as keys, and what is read from their values. -/
def keyed? {α : Type} (document : Document) (read : Value → Option α) (value : Value) :
    Option (List (String × α)) :=
  (entries? document value).bind fun entries =>
    entries.mapM fun (key, value) =>
      match text? document key, read value with
      | some key, some a => some (key, a)
      | _, _ => none

/-- A mapping from texts to texts; the last value of a key wins. -/
def texts? (document : Document) (value : Value) : Option (OrderedMap String String) :=
  (keyed? document (text? document) value).map .ofList

/-- A mapping from texts to such mappings. -/
def tables? (document : Document) (value : Value) :
    Option (OrderedMap String (OrderedMap String String)) :=
  (keyed? document (texts? document) value).map .ofList

/-- The names of the entries. -/
def entryNames : List String :=
  ["base_url", "institution", "ip_address", "scopes", "field_mapping", "value_maps"]

/-- What is read from the value of an entry, or what stands for an entry that is left out. -/
def entry? {α : Type} (entries : List (String × Value)) (name : String)
    (read : Value → Option α) (default : α) : Option α :=
  match entries.find? (·.1 = name) with
  | some (_, value) => read value
  | none => some default

/-- How many levels of mappings an entry has; none if there is no entry of the name. -/
def levels? (name : String) : Option Nat :=
  if !entryNames.contains name then none
  else if name = "field_mapping" then some 1
  else if name = "value_maps" then some 2
  else some 0

/-- The number of aliases that are followed to read a value of so many levels. -/
def followedIn (document : Document) : Nat → Value → Nat
  | 0, value => value.isAlias.toNat
  | levels + 1, value =>
    value.isAlias.toNat +
      match document.resolved value with
      | .mapping entries =>
        entries.foldr
          (fun entry n => entry.1.isAlias.toNat + followedIn document levels entry.2 + n) 0
      | _ => 0

/-- The number of aliases that are followed to read the settings of a document. Nothing is followed
in values that are passed over. -/
def followed (document : Document) : Nat :=
  match document.root with
  | .mapping entries =>
    entries.foldr
      (fun entry n =>
        entry.1.isAlias.toNat +
          (match (text? document entry.1).bind levels? with
          | some levels => followedIn document levels entry.2
          | none => 0) + n) 0
  | _ => 0

/-- The settings that a document describes. No entry is given twice, and no more aliases are
followed than the document allows. -/
def ofDocument? (document : Document) : Option Settings := do
  if document.aliasLimit < followed document then none
  let entries ← keyed? document some document.root
  if !isDistinct ((entries.map (·.1)).filter entryNames.contains) then none
  let baseUrl ← entry? entries "base_url" (text? document) ""
  let institution ← entry? entries "institution" (text? document) ""
  let ipAddress ← entry? entries "ip_address" (text? document) ""
  let scopes ← entry? entries "scopes" (optionalText? document) none
  let fieldMapping ← entry? entries "field_mapping" (texts? document) .empty
  let valueMaps ← entry? entries "value_maps" (tables? document) .empty
  return { baseUrl, institution, ipAddress, scopes, fieldMapping, valueMaps }

/-- The settings that a text describes. -/
def parse (text : String) : Except SettingsFault Settings :=
  match (Yaml.parse? text).bind ofDocument? with
  | some settings => .ok settings
  | none => .error .malformed

end Settings

end BriefSearch
