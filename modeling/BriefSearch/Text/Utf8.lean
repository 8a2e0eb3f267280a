/-!
# Bytes as text

* **`Utf8.decode`** — the text that a list of bytes encodes, or where it stops being one.
* **`Utf8.decodeLossy`** — the same with every maximal ill-formed part read as U+FFFD.

A lead byte fixes the length of its sequence and the range of the second byte, so that neither
overlong forms nor surrogates nor numbers above U+10FFFF are read. The ill-formed part of a bad
sequence is its longest start that could still have become a character.
-/

namespace BriefSearch.Utf8

/-- How many bytes follow a lead byte, and which values the first of them may take. -/
structure Lead where
  /-- The bits that the lead byte gives to the character. -/
  bits : Nat
  /-- The bytes after the lead byte. -/
  following : Nat
  /-- The least second byte. -/
  low : UInt8
  /-- The greatest second byte. -/
  high : UInt8

/-- The sequence that a byte opens; none for a byte that opens no sequence of several bytes. -/
def Lead.ofByte? (b : UInt8) : Option Lead :=
  if 0xC2 ≤ b && b ≤ 0xDF then some ⟨b.toNat - 0xC0, 1, 0x80, 0xBF⟩
  else if b = 0xE0 then some ⟨0, 2, 0xA0, 0xBF⟩
  else if b = 0xED then some ⟨0xD, 2, 0x80, 0x9F⟩
  else if 0xE1 ≤ b && b ≤ 0xEF then some ⟨b.toNat - 0xE0, 2, 0x80, 0xBF⟩
  else if b = 0xF0 then some ⟨0, 3, 0x90, 0xBF⟩
  else if 0xF1 ≤ b && b ≤ 0xF3 then some ⟨b.toNat - 0xF0, 3, 0x80, 0xBF⟩
  else if b = 0xF4 then some ⟨4, 3, 0x80, 0x8F⟩
  else none

/-- What the start of a list of bytes is. -/
inductive Start where
  /-- A character of the given number of bytes. -/
  | char (c : Char) (length : Nat)
  /-- An ill-formed part of the given number of bytes. -/
  | illFormed (length : Nat)
  /-- The list ends inside a sequence, of which it has the given number of bytes. -/
  | incomplete (length : Nat)

/-- Reads on in a sequence of which `taken` bytes are read and `following` bytes are to come, the
next of them between `low` and `high`. -/
def continued (value taken : Nat) : Nat → UInt8 → UInt8 → List UInt8 → Start
  | 0, _, _, _ => .char (.ofNat value) taken
  | _ + 1, _, _, [] => .incomplete taken
  | following + 1, low, high, b :: rest =>
    if low ≤ b && b ≤ high then
      continued (value * 64 + (b.toNat - 0x80)) (taken + 1) following 0x80 0xBF rest
    else .illFormed taken

/-- What the bytes from the given one on start with. -/
def start (b : UInt8) (rest : List UInt8) : Start :=
  if b < 0x80 then .char (.ofNat b.toNat) 1
  else
    match Lead.ofByte? b with
    | some lead => continued lead.bits 1 lead.following lead.low lead.high rest
    | none => .illFormed 1

/-- Where a list of bytes stops being text. -/
structure Fault where
  /-- The number of well-formed bytes before the fault. -/
  index : Nat
  /-- The length of the ill-formed part, or none where the bytes end inside a sequence. -/
  length : Option Nat
  deriving DecidableEq, Repr

/-- Reads characters, `index` bytes having been read before. At least one byte is taken per
character, so a budget of one step per byte suffices. -/
def decodeFrom : Nat → Nat → List UInt8 → Except Fault (List Char)
  | _, _, [] => .ok []
  | 0, _, _ => .ok []
  | steps + 1, index, b :: rest =>
    match start b rest with
    | .char c n => (decodeFrom steps (index + n) ((b :: rest).drop n)).map (c :: ·)
    | .illFormed n => .error ⟨index, some n⟩
    | .incomplete _ => .error ⟨index, none⟩

/-- The text that the bytes encode. -/
def decode (bytes : List UInt8) : Except Fault String :=
  (decodeFrom bytes.length 0 bytes).map String.ofList

/-- Reads characters, U+FFFD in place of each ill-formed part. -/
def decodeLossyFrom : Nat → List UInt8 → List Char
  | _, [] => []
  | 0, _ => []
  | steps + 1, b :: rest =>
    match start b rest with
    | .char c n => c :: decodeLossyFrom steps ((b :: rest).drop n)
    | .illFormed n => '\uFFFD' :: decodeLossyFrom steps ((b :: rest).drop n)
    | .incomplete n => '\uFFFD' :: decodeLossyFrom steps ((b :: rest).drop n)

/-- The text that the bytes encode, U+FFFD in place of each ill-formed part. -/
def decodeLossy (bytes : List UInt8) : String :=
  .ofList (decodeLossyFrom bytes.length bytes)

end BriefSearch.Utf8
