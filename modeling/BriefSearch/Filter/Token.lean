import BriefSearch.Filter.Basic
import BriefSearch.Text.Basic

/-!
# Tokens of the filter language

* **`Token`** — field names, values, keywords and punctuation.
* **`Token.scan`** — the tokens of a text, or the place where it has none.

A word is a run of letters, digits and `_`, `.`, `-`, `'`. It names a field when a colon follows,
white space aside, and is a value otherwise, unless it is one of the keywords. A value between
double quotes may hold anything; a backslash takes the character after it as it is.
-/

namespace BriefSearch

/-- A token of the filter language. -/
inductive Token where
  | field (name : String)
  | colon
  | value (text : String)
  | opening
  | closing
  | keyword (operator : Operator)
  deriving DecidableEq, Repr

/-- Why a text has no tokens: a character that starts none, with the text from it on, or a quote
without its partner. -/
inductive ScanFault where
  | unexpected (c : Char) (rest : List Char)
  | unterminated
  deriving DecidableEq, Repr

namespace Token

/-- A character that words are made of. -/
def isWordChar (c : Char) : Bool :=
  Text.isAlphanumeric c || c = '_' || c = '.' || c = '-' || c = '\''

/-- The operator a word stands for, in upper or lower case. -/
def keyword? (word : List Char) : Option Operator :=
  if word.map Char.toLower = ['a', 'n', 'd'] then some .and
  else if word.map Char.toLower = ['o', 'r'] then some .or
  else none

/-- Holds when the text goes on with a colon after any white space. -/
def colonFollows (rest : List Char) : Bool :=
  (rest.dropWhile Text.isBlank).head? = some ':'

/-- The token of a word, given the text behind it. -/
def ofWord (word rest : List Char) : Token :=
  match keyword? word with
  | some operator => .keyword operator
  | none => if colonFollows rest then .field (.ofList word) else .value (.ofList word)

/-- The value up to the closing quote and the text behind that quote. -/
def quoted? : List Char → Option (List Char × List Char)
  | [] => none
  | '"' :: rest => some ([], rest)
  | '\\' :: c :: rest => (quoted? rest).map fun (text, after) => (c :: text, after)
  | c :: rest =>
    if c = '\\' then none else (quoted? rest).map fun (text, after) => (c :: text, after)

/-- A closing quote leaves less text than there was. -/
theorem length_lt_of_quoted? {cs text after : List Char}
    (h : quoted? cs = some (text, after)) : after.length < cs.length := by
  fun_induction quoted? cs generalizing text after with
  | case1 => cases h
  | case2 rest => cases h; simp
  | case3 c rest ih =>
    obtain ⟨⟨t, a⟩, hq, he⟩ := Option.map_eq_some_iff.1 h
    cases he
    have := ih hq
    simp only [List.length_cons]
    omega
  | case4 => cases h
  | case5 c rest _ _ _ ih =>
    obtain ⟨⟨t, a⟩, hq, he⟩ := Option.map_eq_some_iff.1 h
    cases he
    have := ih hq
    simp only [List.length_cons]
    omega

/-- The tokens of a text. -/
def scan : List Char → Except ScanFault (List Token)
  | [] => .ok []
  | c :: rest =>
    if Text.isBlank c then scan rest
    else if c = '(' then (scan rest).map (.opening :: ·)
    else if c = ')' then (scan rest).map (.closing :: ·)
    else if c = ':' then (scan rest).map (.colon :: ·)
    else if c = '"' then
      match _h : quoted? rest with
      | some (text, after) => (scan after).map (.value (.ofList text) :: ·)
      | none => .error .unterminated
    else if isWordChar c then
      let after := rest.dropWhile isWordChar
      (scan after).map (ofWord (c :: rest.takeWhile isWordChar) after :: ·)
    else .error (.unexpected c (c :: rest))
termination_by cs => cs.length
decreasing_by
  all_goals simp only [List.length_cons]
  all_goals first
    | omega
    | exact Nat.lt_succ_of_lt (length_lt_of_quoted? ‹_›)
    | exact Nat.lt_succ_of_le (List.dropWhile_suffix isWordChar).length_le

end Token

end BriefSearch
