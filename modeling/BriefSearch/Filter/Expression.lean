import BriefSearch.Filter.Token
import BriefSearch.Text.Basic

/-!
# The filter language

An expression is a sequence of terms, each optionally followed by AND:

* `field:value` is a filter,
* `field:(v1 OR v2)` a group of filters on one field,
* `(f1:v1 AND f2:v2)` a group of filters on any fields.

One group has one operator, OR when it has a single filter. Main definitions:

* **`Expression.Item`** — what a group is made of, read as it is written.
* **`Expression.statements`** — the statements that a list of tokens writes.
* **`Expression.parse`** — the statements that a text writes.
* **`ExpressionFault`** — what can be wrong with a text.
-/

namespace BriefSearch

/-- What can be wrong with the text of an expression. -/
inductive ExpressionFault where
  | unexpectedCharacter (c : Char) (offset : Nat)
  | unterminatedQuote
  | expectedField
  | expectedColon
  | expectedValue
  | expectedClosing
  | mixedOperators
  | orOutsideGroup
  deriving DecidableEq, Repr

/-- The text of a fault. -/
def ExpressionFault.message : ExpressionFault → String
  | .unexpectedCharacter c offset =>
    "Unexpected character " ++ Text.quoteChar c ++ " at offset " ++ toString offset
  | .unterminatedQuote => "Unterminated quoted value"
  | .expectedField => "Expected field name"
  | .expectedColon => "Expected colon"
  | .expectedValue => "Expected value"
  | .expectedClosing => "Expected closing parenthesis"
  | .mixedOperators => "Cannot mix AND and OR within one group"
  | .orOutsideGroup => "OR between terms must be grouped in parentheses, eg. (a:x OR b:y)"

namespace Expression

theorem exists_of_map_eq_ok {ε α β : Type} {x : Except ε α} {f : α → β} {b : β}
    (h : x.map f = .ok b) : ∃ a, x = .ok a ∧ f a = b := by
  cases x with
  | error => cases h
  | ok a => exact ⟨a, rfl, Except.ok.inj h⟩

theorem eq_error_of_map_eq_error {ε α β : Type} {x : Except ε α} {f : α → β} {e : ε}
    (h : x.map f = .error e) : x = .error e := by
  cases x with
  | error => exact congrArg Except.error (Except.error.inj h)
  | ok a => cases h

/-! ### Items of groups -/

/-- Reads a value. -/
def value : List Token → Except ExpressionFault (String × List Token)
  | .value text :: rest => .ok (text, rest)
  | _ => .error .expectedValue

/-- Reads the name of a field and the colon behind it. -/
def field : List Token → Except ExpressionFault (String × List Token)
  | .field name :: .colon :: rest => .ok (name, rest)
  | .field _ :: _ => .error .expectedColon
  | _ => .error .expectedField

/-- Reads a filter, `field:value`. -/
def filter (tokens : List Token) : Except ExpressionFault (Filter × List Token) :=
  match field tokens with
  | .error fault => .error fault
  | .ok (name, rest) => (value rest).map fun (text, rest) => (⟨name, text⟩, rest)

/-- The tokens of a filter. -/
def filterTokens (f : Filter) : List Token :=
  [.field f.name, .colon, .value f.value]

theorem value_eq_ok_iff {tokens rest : List Token} {text : String} :
    value tokens = .ok (text, rest) ↔ tokens = .value text :: rest := by
  constructor
  · intro h
    unfold value at h
    split at h
    · cases h
      rfl
    · cases h
  · rintro rfl
    rfl

theorem field_eq_ok_iff {tokens rest : List Token} {name : String} :
    field tokens = .ok (name, rest) ↔ tokens = .field name :: .colon :: rest := by
  constructor
  · intro h
    unfold field at h
    split at h
    · cases h
      rfl
    · cases h
    · cases h
  · rintro rfl
    rfl

theorem filter_eq_ok_iff {tokens rest : List Token} {f : Filter} :
    filter tokens = .ok (f, rest) ↔ tokens = filterTokens f ++ rest := by
  constructor
  · intro h
    unfold filter at h
    split at h
    · cases h
    · rename_i name rest' hfield
      obtain ⟨⟨text, rest''⟩, hvalue, he⟩ := exists_of_map_eq_ok h
      cases he
      rw [field_eq_ok_iff.1 hfield, value_eq_ok_iff.1 hvalue]
      rfl
  · rintro rfl
    rfl

/-- How the items of a group are read and written. -/
structure Item (α : Type) where
  /-- Reads an item from the start of tokens. -/
  read : List Token → Except ExpressionFault (α × List Token)
  tokens : α → List Token
  tokens_ne_nil : ∀ a, tokens a ≠ []
  /-- What is read is what is written. -/
  read_eq_ok_iff : ∀ {ts rest a}, read ts = .ok (a, rest) ↔ ts = tokens a ++ rest

/-- Values of a field. -/
def Item.value : Item String where
  read := Expression.value
  tokens text := [.value text]
  tokens_ne_nil _ := List.cons_ne_nil _ _
  read_eq_ok_iff := value_eq_ok_iff

/-- Filters on any fields. -/
def Item.filter : Item Filter where
  read := Expression.filter
  tokens := filterTokens
  tokens_ne_nil _ := List.cons_ne_nil _ _
  read_eq_ok_iff := filter_eq_ok_iff

theorem Item.length_lt {α : Type} (item : Item α) {tokens rest : List Token} {a : α}
    (h : item.read tokens = .ok (a, rest)) : rest.length < tokens.length := by
  have hne := List.length_pos_iff.2 (item.tokens_ne_nil a)
  rw [item.read_eq_ok_iff.1 h, List.length_append]
  omega

/-! ### Groups -/

/-- The items of a group with the operator between them, if there is one, and the tokens behind
the group. -/
structure Items (α : Type) where
  operator : Option Operator
  items : List α
  rest : List Token

/-- Puts an item in front. -/
def Items.cons {α : Type} (a : α) (tail : Items α) : Items α :=
  { tail with items := a :: tail.items }

/-- Holds when a keyword differs from the group's operator so far. -/
def clashes (operator : Option Operator) (next : Operator) : Bool :=
  operator.any (· ≠ next)

/-- Reads keywords and items up to the closing parenthesis. -/
def moreItems {α : Type} (item : Item α) (operator : Option Operator) :
    List Token → Except ExpressionFault (Items α)
  | .closing :: rest => .ok ⟨operator, [], rest⟩
  | .keyword next :: tokens =>
    if clashes operator next then .error .mixedOperators
    else
      match _h : item.read tokens with
      | .error fault => .error fault
      | .ok (a, rest) => (moreItems item (some next) rest).map (.cons a)
  | _ => .error .expectedClosing
termination_by tokens => tokens.length
decreasing_by
  have := item.length_lt _h
  rw [List.length_cons]
  omega

/-- Reads the items of a group after the opening parenthesis. -/
def items {α : Type} (item : Item α) (tokens : List Token) : Except ExpressionFault (Items α) :=
  match item.read tokens with
  | .error fault => .error fault
  | .ok (a, rest) => (moreItems item none rest).map (.cons a)

/-- The group that filters form: a single one has no keyword beside it and counts as joined by
OR. -/
def grouped (operator : Option Operator) (filters : List Filter) : Statement :=
  .group (operator.getD .or) (filters.map .filter)

/-- Reads the values of a field after the opening parenthesis. -/
def valueGroup (name : String) (tokens : List Token) :
    Except ExpressionFault (Statement × List Token) :=
  (items .value tokens).map fun tail =>
    (grouped tail.operator (tail.items.map (⟨name, ·⟩)), tail.rest)

/-- Reads the filters of a group after the opening parenthesis. -/
def filterGroup (tokens : List Token) : Except ExpressionFault (Statement × List Token) :=
  (items .filter tokens).map fun tail => (grouped tail.operator tail.items, tail.rest)

/-- Reads a term. -/
def term : List Token → Except ExpressionFault (Statement × List Token)
  | .opening :: rest => filterGroup rest
  | tokens =>
    match field tokens with
    | .error fault => .error fault
    | .ok (name, .opening :: rest) => valueGroup name rest
    | .ok (name, rest) => (value rest).map fun (text, rest) => (.filter ⟨name, text⟩, rest)

/-- Steps over the AND that may follow a term. -/
def afterTerm : List Token → Except ExpressionFault (List Token)
  | .keyword .and :: rest => .ok rest
  | .keyword .or :: _ => .error .orOutsideGroup
  | tokens => .ok tokens

/-! ### Every term takes tokens -/

theorem moreItems_length {α : Type} {item : Item α} {operator : Option Operator}
    {tokens : List Token} {tail : Items α} (h : moreItems item operator tokens = .ok tail) :
    tail.rest.length < tokens.length := by
  fun_induction moreItems item operator tokens generalizing tail with
  | case1 => cases h; simp
  | case4 operator next tokens _ a rest hread ih =>
    obtain ⟨more, hm, rfl⟩ := exists_of_map_eq_ok h
    have := item.length_lt hread
    have := ih hm
    simp only [Items.cons, List.length_cons]
    omega
  | _ => cases h

theorem items_length {α : Type} {item : Item α} {tokens : List Token} {tail : Items α}
    (h : items item tokens = .ok tail) : tail.rest.length < tokens.length := by
  unfold items at h
  split at h
  · cases h
  · rename_i a rest hread
    obtain ⟨more, hm, rfl⟩ := exists_of_map_eq_ok h
    have := item.length_lt hread
    have := moreItems_length hm
    simp only [Items.cons]
    omega

theorem term_length {tokens rest : List Token} {s : Statement}
    (h : term tokens = .ok (s, rest)) : rest.length < tokens.length := by
  unfold term at h
  split at h
  · obtain ⟨tail, hm, he⟩ := exists_of_map_eq_ok h
    cases he
    have := items_length hm
    rw [List.length_cons]
    omega
  · split at h
    · cases h
    · rename_i hfield
      obtain ⟨tail, hm, he⟩ := exists_of_map_eq_ok h
      cases he
      have := items_length hm
      rw [field_eq_ok_iff.1 hfield]
      simp only [List.length_cons]
      omega
    · rename_i hfield
      obtain ⟨⟨text, more⟩, hvalue, he⟩ := exists_of_map_eq_ok h
      cases he
      rw [field_eq_ok_iff.1 hfield, value_eq_ok_iff.1 hvalue]
      simp only [List.length_cons]
      omega

theorem afterTerm_length {tokens rest : List Token} (h : afterTerm tokens = .ok rest) :
    rest.length ≤ tokens.length := by
  unfold afterTerm at h
  split at h <;> cases h <;> simp

/-! ### Expressions -/

/-- The statements that a list of tokens writes. -/
def statements : List Token → Except ExpressionFault (List Statement)
  | [] => .ok []
  | token :: tokens =>
    match _h : term (token :: tokens) with
    | .error fault => .error fault
    | .ok (s, rest) =>
      match _h' : afterTerm rest with
      | .error fault => .error fault
      | .ok rest' => (statements rest').map (s :: ·)
termination_by tokens => tokens.length
decreasing_by
  have := term_length ‹_›
  have := afterTerm_length ‹_›
  omega

/-- The number of bytes that characters take up in UTF-8. -/
def byteLength (cs : List Char) : Nat :=
  cs.foldr (fun c bytes => c.utf8Size + bytes) 0

/-- What a text without tokens reports: the offset of a character counts the bytes before it. -/
def scanFault (text : List Char) : ScanFault → ExpressionFault
  | .unexpected c rest => .unexpectedCharacter c (byteLength text - byteLength rest)
  | .unterminated => .unterminatedQuote

/-- The statements that a text writes. The whole text is split into tokens before any of them is
looked at, so a fault in a token comes before a fault in their order. -/
def parse (text : String) : Except ExpressionFault (List Statement) :=
  match Token.scan text.toList with
  | .error fault => .error (scanFault text.toList fault)
  | .ok tokens => statements tokens

end Expression

end BriefSearch
