import BriefSearch.Yaml.Lexeme

/-!
# Nodes

* **`Yaml.Node`** — scalars, sequences and mappings as they are written, with anchors and aliases.
* **`Node.read?`** — the node that a list of lexemes begins with.
* **`Yaml.document?`** — the single document of a stream.
-/

namespace BriefSearch.Yaml

/-- The anchor and the tag of a node. -/
structure Properties where
  /-- The name by which aliases refer to the node. -/
  anchor : Option String
  /-- The tag with its handle replaced. -/
  tag : Option Tag
  deriving DecidableEq, Repr

/-- The properties that count for a scalar: an exclamation mark alone is no tag of it. -/
def Properties.ofScalar (properties : Properties) : Properties :=
  if properties.tag = some (.ofString "!") then { properties with tag := none } else properties

/-- A node as it is written. -/
inductive Node where
  | alias (name : String)
  | scalar (properties : Properties) (text : String) (plain : Bool)
  | sequence (properties : Properties) (items : List Node)
  | mapping (properties : Properties) (entries : List (Node × Node))
  deriving Repr

namespace Node

/-- The node that stands where nothing is written. -/
def nothing : Node :=
  scalar ⟨none, none⟩ "" true

/-- Tag handles with what they stand for, the document's own ones first. -/
abbrev Handles := List (String × Tag)

/-- The handles that every document knows. -/
def commonHandles : Handles :=
  [("!", .ofString "!"), ("!!", .ofString "tag:yaml.org,2002:")]

/-- A tag with its handle replaced. -/
def resolvedTag? (handles : Handles) (handle : String) (suffix : Tag) : Option Tag :=
  if handle = "" then some suffix
  else (handles.find? (·.1 = handle)).map fun h => h.2 ++ suffix

/-- Reads anchor and tag in either order. -/
def properties? (handles : Handles) : List Lexeme → Option (Properties × List Lexeme)
  | .anchor name :: .tag handle suffix :: rest =>
    (resolvedTag? handles handle suffix).map fun tag => (⟨some name, some tag⟩, rest)
  | .anchor name :: rest => some (⟨some name, none⟩, rest)
  | .tag handle suffix :: .anchor name :: rest =>
    (resolvedTag? handles handle suffix).map fun tag => (⟨some name, some tag⟩, rest)
  | .tag handle suffix :: rest =>
    (resolvedTag? handles handle suffix).map fun tag => (⟨none, some tag⟩, rest)
  | rest => some (⟨none, none⟩, rest)

/-- Where a node stands: in a collection without brackets, as a key or value of such a mapping,
where a sequence need not be indented, or inside brackets. -/
inductive Context where
  | block
  | blockPair
  | flow
  deriving DecidableEq

/-- What ends an entry of a sequence without brackets. -/
def endsBlockEntry : List Lexeme → Bool
  | .blockEntry :: _ => true
  | .blockEnd :: _ => true
  | _ => false

/-- What ends a key or value of a mapping without brackets. -/
def endsBlockPair : List Lexeme → Bool
  | .key :: _ => true
  | .value :: _ => true
  | .blockEnd :: _ => true
  | _ => false

/-- What ends a key between braces. -/
def endsFlowKey : List Lexeme → Bool
  | .value :: _ => true
  | .flowEntry :: _ => true
  | .flowMappingEnd :: _ => true
  | _ => false

/-- What ends a value between braces. -/
def endsFlowValue : List Lexeme → Bool
  | .flowEntry :: _ => true
  | .flowMappingEnd :: _ => true
  | _ => false

/-- What ends a key of a single pair inside brackets. -/
def endsPairKey : List Lexeme → Bool
  | .value :: _ => true
  | .flowEntry :: _ => true
  | .flowSequenceEnd :: _ => true
  | _ => false

/-- What ends a value of a single pair inside brackets. -/
def endsPairValue : List Lexeme → Bool
  | .flowEntry :: _ => true
  | .flowSequenceEnd :: _ => true
  | _ => false

/-- Reads a node that has an anchor or a tag and nothing else. -/
def emptyNode? (properties : Properties) (rest : List Lexeme) : Option (Node × List Lexeme) :=
  if properties = ⟨none, none⟩ then none else some (.scalar properties "" true, rest)

mutual

/-- Reads a node. No four rounds in a row leave all lexemes where they are. -/
def nodeWithin? (handles : Handles) :
    Nat → Context → List Lexeme → Option (Node × List Lexeme)
  | 0, _, _ => none
  | _ + 1, _, .alias name :: rest => some (.alias name, rest)
  | steps + 1, context, lexemes =>
    match properties? handles lexemes with
    | none => none
    | some (properties, rest) =>
      match rest with
      | .scalar text plain :: rest => some (.scalar properties.ofScalar text plain, rest)
      | .flowSequence :: rest =>
        (flowItems? handles steps true rest).map fun (items, rest) =>
          (.sequence properties items, rest)
      | .flowMapping :: rest =>
        (flowPairs? handles steps true rest).map fun (entries, rest) =>
          (.mapping properties entries, rest)
      | .blockSequence :: rest =>
        if context = .flow then emptyNode? properties (.blockSequence :: rest)
        else
          (blockItems? handles steps rest).map fun (items, rest) =>
            (.sequence properties items, rest)
      | .blockMapping :: rest =>
        if context = .flow then emptyNode? properties (.blockMapping :: rest)
        else
          (blockPairs? handles steps rest).map fun (entries, rest) =>
            (.mapping properties entries, rest)
      | .blockEntry :: rest =>
        if context = .blockPair then
          (indentlessItems? handles steps (.blockEntry :: rest)).map fun (items, rest) =>
            (.sequence properties items, rest)
        else emptyNode? properties (.blockEntry :: rest)
      | rest => emptyNode? properties rest

/-- Reads a node, unless it has ended before it began. -/
def optional? (handles : Handles) :
    Nat → Context → (ended : Bool) → List Lexeme → Option (Node × List Lexeme)
  | 0, _, _, _ => none
  | steps + 1, context, ended, lexemes =>
    if ended then some (nothing, lexemes) else nodeWithin? handles steps context lexemes

/-- Reads the entries of an indented sequence up to its end. -/
def blockItems? (handles : Handles) : Nat → List Lexeme → Option (List Node × List Lexeme)
  | 0, _ => none
  | steps + 1, .blockEntry :: rest =>
    match optional? handles steps .block (endsBlockEntry rest) rest with
    | none => none
    | some (item, rest) =>
      (blockItems? handles steps rest).map fun (items, rest) => (item :: items, rest)
  | _ + 1, .blockEnd :: rest => some ([], rest)
  | _ + 1, _ => none

/-- Reads the entries of a sequence that is not indented, as long as there are any. -/
def indentlessItems? (handles : Handles) : Nat → List Lexeme → Option (List Node × List Lexeme)
  | 0, _ => none
  | steps + 1, .blockEntry :: rest =>
    match optional? handles steps .block (rest.head? = some .blockEntry || endsBlockPair rest)
      rest with
    | none => none
    | some (item, rest) =>
      (indentlessItems? handles steps rest).map fun (items, rest) => (item :: items, rest)
  | _ + 1, rest => some ([], rest)

/-- Reads the pairs of a mapping without braces up to its end. A key may stand without a value, but
a value not without a key. -/
def blockPairs? (handles : Handles) :
    Nat → List Lexeme → Option (List (Node × Node) × List Lexeme)
  | 0, _ => none
  | steps + 1, .key :: rest =>
    match optional? handles steps .blockPair (endsBlockPair rest) rest with
    | none => none
    | some (key, rest) =>
      match blockValue? handles steps rest with
      | none => none
      | some (value, rest) =>
        (blockPairs? handles steps rest).map fun (entries, rest) =>
          ((key, value) :: entries, rest)
  | _ + 1, .blockEnd :: rest => some ([], rest)
  | _ + 1, _ => none

/-- Reads the value of a mapping without braces. -/
def blockValue? (handles : Handles) : Nat → List Lexeme → Option (Node × List Lexeme)
  | 0, _ => none
  | steps + 1, .value :: rest => optional? handles steps .blockPair (endsBlockPair rest) rest
  | _ + 1, rest => some (nothing, rest)

/-- Reads the items between brackets; `first` tells that no item stands before. -/
def flowItems? (handles : Handles) :
    Nat → (first : Bool) → List Lexeme → Option (List Node × List Lexeme)
  | 0, _, _ => none
  | _ + 1, _, .flowSequenceEnd :: rest => some ([], rest)
  | steps + 1, true, rest => flowItem? handles steps rest
  | _ + 1, false, .flowEntry :: .flowSequenceEnd :: rest => some ([], rest)
  | steps + 1, false, .flowEntry :: rest => flowItem? handles steps rest
  | _ + 1, false, _ => none

/-- Reads an item between brackets, which may be a single pair, and the items behind it. -/
def flowItem? (handles : Handles) : Nat → List Lexeme → Option (List Node × List Lexeme)
  | 0, _ => none
  | steps + 1, .key :: rest =>
    match singlePair? handles steps rest with
    | none => none
    | some (item, rest) =>
      (flowItems? handles steps false rest).map fun (items, rest) => (item :: items, rest)
  | steps + 1, rest =>
    match nodeWithin? handles steps .flow rest with
    | none => none
    | some (item, rest) =>
      (flowItems? handles steps false rest).map fun (items, rest) => (item :: items, rest)

/-- Reads a single pair between brackets. What ends an empty key is taken with it. -/
def singlePair? (handles : Handles) : Nat → List Lexeme → Option (Node × List Lexeme)
  | 0, _ => none
  | steps + 1, rest =>
    let key :=
      if endsPairKey rest then some (nothing, rest.drop 1)
      else nodeWithin? handles steps .flow rest
    match key with
    | none => none
    | some (key, rest) =>
      match rest with
      | .value :: rest =>
        (optional? handles steps .flow (endsPairValue rest) rest).map fun (value, rest) =>
          (.mapping ⟨none, none⟩ [(key, value)], rest)
      | rest => some (.mapping ⟨none, none⟩ [(key, nothing)], rest)

/-- Reads the pairs between braces; `first` tells that no pair stands before. -/
def flowPairs? (handles : Handles) :
    Nat → (first : Bool) → List Lexeme → Option (List (Node × Node) × List Lexeme)
  | 0, _, _ => none
  | _ + 1, _, .flowMappingEnd :: rest => some ([], rest)
  | steps + 1, true, rest => flowPair? handles steps rest
  | _ + 1, false, .flowEntry :: .flowMappingEnd :: rest => some ([], rest)
  | steps + 1, false, .flowEntry :: rest => flowPair? handles steps rest
  | _ + 1, false, _ => none

/-- Reads a pair between braces and the pairs behind it. A node without the mark of a key has no
value. -/
def flowPair? (handles : Handles) :
    Nat → List Lexeme → Option (List (Node × Node) × List Lexeme)
  | 0, _ => none
  | steps + 1, .key :: rest =>
    match optional? handles steps .flow (endsFlowKey rest) rest with
    | none => none
    | some (key, rest) =>
      match flowValue? handles steps rest with
      | none => none
      | some (value, rest) =>
        (flowPairs? handles steps false rest).map fun (entries, rest) =>
          ((key, value) :: entries, rest)
  | steps + 1, rest =>
    match nodeWithin? handles steps .flow rest with
    | none => none
    | some (key, rest) =>
      (flowPairs? handles steps false rest).map fun (entries, rest) =>
        ((key, nothing) :: entries, rest)

/-- Reads the value of a pair between braces. -/
def flowValue? (handles : Handles) : Nat → List Lexeme → Option (Node × List Lexeme)
  | 0, _ => none
  | steps + 1, .value :: rest => optional? handles steps .flow (endsFlowValue rest) rest
  | _ + 1, rest => some (nothing, rest)

end

/-- Reads the node that a list of lexemes begins with, with a budget of four rounds per lexeme. -/
def read? (handles : Handles) (lexemes : List Lexeme) : Option (Node × List Lexeme) :=
  nodeWithin? handles (4 * lexemes.length + 4) .block lexemes

end Node

/-! ### Documents -/

/-- The directives before a document: whether the version has been given, and the handles. -/
structure Directives where
  version : Bool
  handles : Node.Handles

/-- Reads the directives before a document. The version is 1.1 or 1.2 and is given once, and no
handle is given twice. -/
def directives? : Directives → List Lexeme → Option (Directives × List Lexeme)
  | d, .version major minor :: rest =>
    if d.version || major ≠ 1 || (minor ≠ 1 && minor ≠ 2) then none
    else directives? { d with version := true } rest
  | d, .handle name replacement :: rest =>
    if d.handles.any (·.1 = name) then none
    else directives? { d with handles := d.handles ++ [(name, replacement)] } rest
  | d, rest => some (d, rest)

/-- Holds for lexemes behind which no document follows. -/
def endsStream : List Lexeme → Bool
  | .documentEnd :: rest => endsStream rest
  | [.streamEnd] => true
  | _ => false

/-- Holds for lexemes that bound a document without content. -/
def boundsDocument : List Lexeme → Bool
  | .version _ _ :: _ => true
  | .handle _ _ :: _ => true
  | .documentStart :: _ => true
  | .documentEnd :: _ => true
  | .streamEnd :: _ => true
  | _ => false

/-- Reads the document that begins with the given lexemes, with the lexemes behind it. -/
def documentNode? (lexemes : List Lexeme) : Option (Node × List Lexeme) :=
  match directives? ⟨false, []⟩ lexemes with
  | none => none
  | some (d, .documentStart :: rest) =>
    if boundsDocument rest then some (.nothing, rest)
    else Node.read? (d.handles ++ Node.commonHandles) rest
  | some (d, rest) =>
    if d.version || !d.handles.isEmpty then none else Node.read? Node.commonHandles rest

/-- The node of the single document of a stream. A stream without a document has an empty node. -/
def document? (lexemes : List Lexeme) : Option Node :=
  if lexemes = [.streamEnd] then some .nothing
  else
    match documentNode? lexemes with
    | none => none
    | some (node, rest) => if endsStream rest then some node else none

end BriefSearch.Yaml
