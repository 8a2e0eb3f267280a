import BriefSearch.Text.Character

/-!
# The characters of XML

* **`Xml.isChar`** — what may stand in a document.
* **`Xml.isSpace`** — what separates the parts of markup.
* **`Xml.isNameStart`**, **`Xml.isNameChar`** — what names begin with and consist of.
-/

namespace BriefSearch.Xml

/-- A character that may stand in a document: no control character but tab, line feed and carriage
return, and neither U+FFFE nor U+FFFF. -/
def isChar (c : Char) : Bool :=
  if c.toNat < 32 then c = '\t' || c = '\n' || c = '\r' else c.toNat ≠ 0xFFFE && c.toNat ≠ 0xFFFF

/-- A space, tab, line feed or carriage return. -/
def isSpace (c : Char) : Bool :=
  c = ' ' || c = '\t' || c = '\n' || c = '\r'

/-- The code points that start a name, the colon included. -/
def nameStartRanges : List (Nat × Nat) :=
  [(0x3A, 0x3A), (0x41, 0x5A), (0x5F, 0x5F), (0x61, 0x7A), (0xC0, 0xD6), (0xD8, 0xF6),
   (0xF8, 0x2FF), (0x370, 0x37D), (0x37F, 0x1FFF), (0x200C, 0x200D), (0x2070, 0x218F),
   (0x2C00, 0x2FEF), (0x3001, 0xD7FF), (0xF900, 0xFDCF), (0xFDF0, 0xFFFD), (0x10000, 0xEFFFF)]

/-- The further code points that names consist of. -/
def nameMoreRanges : List (Nat × Nat) :=
  [(0x2D, 0x2E), (0x30, 0x39), (0xB7, 0xB7), (0x300, 0x36F), (0x203F, 0x2040)]

/-- A character that a name may start with. -/
def isNameStart (c : Char) : Bool :=
  Text.inRanges nameStartRanges c.toNat

/-- A character that a name may hold. -/
def isNameChar (c : Char) : Bool :=
  isNameStart c || Text.inRanges nameMoreRanges c.toNat

end BriefSearch.Xml
