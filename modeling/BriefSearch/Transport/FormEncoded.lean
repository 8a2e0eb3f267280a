/-!
# Names and values in a query string

* **`FormEncoded.encode`** — a text in which only letters, digits and four marks stand for
  themselves.
* **`FormEncoded.encodePairs`** — names and values joined by equals signs and ampersands.
-/

namespace BriefSearch.FormEncoded

/-- Holds for the characters that stand for themselves. -/
def isKept (c : Char) : Bool :=
  c.isAlphanum || c = '*' || c = '-' || c = '.' || c = '_'

/-- A digit of base sixteen in upper case. -/
def hexDigit (n : Nat) : Char :=
  (Nat.digitChar n).toUpper

/-- A percent sign and two digits. -/
def percentEncoded (b : UInt8) : List Char :=
  ['%', hexDigit (b.toNat / 16), hexDigit (b.toNat % 16)]

/-- One character: itself, a plus sign for a space, or its bytes one by one. -/
def encodedChar (c : Char) : List Char :=
  if isKept c then [c]
  else if c = ' ' then ['+']
  else (String.utf8EncodeChar c).flatMap percentEncoded

/-- A name or value. -/
def encode (s : String) : List Char :=
  s.toList.flatMap encodedChar

/-- A name and its value. -/
def encodePair (pair : String × String) : List Char :=
  encode pair.1 ++ ['='] ++ encode pair.2

/-- Names and values in order. -/
def encodePairs (pairs : List (String × String)) : String :=
  .ofList (['&'].intercalate (pairs.map encodePair))

end BriefSearch.FormEncoded
