import BriefSearch.Text.Character

/-!
# Texts and counts

Small functions that the readers and writers of several formats share:

* **`Text.trim`** — a text without the white space at its two ends.
* **`Text.after?`** — the text behind a fixed start.
* **`Text.cut?`** — the texts before and behind the first occurrence of a mark.
* **`Text.quoteChar`**, **`Text.quote`** — a character between single quotes and a text between
  double quotes, as messages show them. A backslash, the surrounding quote, combining marks and
  whatever cannot be shown are written as escapes, so that every character can be told apart.
* **`Text.count?`** — the number a decimal text stands for, if it fits into 64 bits.
* **`Text.saturatingMul`** — a product that stays at the largest count when it would exceed it.
-/

namespace BriefSearch.Text

/-! ### White space at the ends -/

/-- Drops the white space at the start. -/
def trimLeft (cs : List Char) : List Char :=
  cs.dropWhile isBlank

/-- Drops the white space at the end. -/
def trimRight (cs : List Char) : List Char :=
  (cs.reverse.dropWhile isBlank).reverse

/-- Drops the white space at both ends. -/
def trim (s : String) : String :=
  .ofList (trimRight (trimLeft s.toList))

/-- Holds for a text of white space only, the empty text included. -/
def isBlankText (s : String) : Bool :=
  s.toList.all isBlank

/-! ### Cutting at fixed marks -/

/-- The text behind a fixed start; none if the text starts otherwise. -/
def after? (start cs : List Char) : Option (List Char) :=
  if start.isPrefixOf cs then some (cs.drop start.length) else none

/-- The texts before and behind the first occurrence of a mark of at least one character. -/
def cut? (mark : List Char) : List Char → Option (List Char × List Char)
  | [] => none
  | c :: rest =>
    match after? mark (c :: rest) with
    | some behind => some ([], behind)
    | none => (cut? mark rest).map fun (before, behind) => (c :: before, behind)

/-- Holds when the mark occurs in the text. -/
def occurs (mark cs : List Char) : Bool :=
  (cut? mark cs).isSome

/-! ### Quotes in messages -/

/-- The digits of a number in base sixteen, in lower case and without padding. -/
def hexDigits (n : Nat) : List Char :=
  Nat.toDigits 16 n

/-- An escape by code point, as in `\u{301}`. -/
def codePointEscape (c : Char) : List Char :=
  ['\\', 'u', '\x7b'] ++ hexDigits c.toNat ++ ['\x7d']

/-- One character inside the given kind of quotes. -/
def escapedIn (quotation : Char) (c : Char) : List Char :=
  if c = '\x00' then ['\\', '0']
  else if c = '\t' then ['\\', 't']
  else if c = '\r' then ['\\', 'r']
  else if c = '\n' then ['\\', 'n']
  else if c = '\\' ∨ c = quotation then ['\\', c]
  else if isPrintable c && !isCombining c then [c]
  else codePointEscape c

/-- A character between single quotes. -/
def quoteChar (c : Char) : String :=
  .ofList (['\''] ++ escapedIn '\'' c ++ ['\''])

/-- A text between double quotes. -/
def quote (s : String) : String :=
  .ofList (['"'] ++ s.toList.flatMap (escapedIn '"') ++ ['"'])

/-! ### Counts of 64 bits -/

/-- The number of counts, 2 ^ 64. -/
def countLimit : Nat := 18446744073709551616

/-- Reads digits onto the number already read; anything but a digit refuses the text. -/
def digitsOnto : Nat → List Char → Option Nat
  | n, [] => some n
  | n, c :: rest => if c.isDigit then digitsOnto (10 * n + (c.toNat - 48)) rest else none

/-- A non-empty run of decimal digits. -/
def digits? : List Char → Option Nat
  | [] => none
  | cs => digitsOnto 0 cs

/-- An optional plus sign before decimal digits. -/
def natural? : List Char → Option Nat
  | '+' :: rest => digits? rest
  | cs => digits? cs

/-- The count a text stands for: an optional plus sign, decimal digits and nothing else, below
2 ^ 64. -/
def count? (s : String) : Option UInt64 :=
  match natural? s.toList with
  | some n => if n < countLimit then some (.ofNat n) else none
  | none => none

/-- The product of two counts, or the largest count where the product exceeds it. -/
def saturatingMul (a b : UInt64) : UInt64 :=
  .ofNat (min (a.toNat * b.toNat) (countLimit - 1))

end BriefSearch.Text
