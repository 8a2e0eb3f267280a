import BriefSearch.Proofs.Text.Words
import BriefSearch.Transport.FormEncoded

/-!
# Reading a query string back

An encoded text has no ampersand, no equals sign and nothing but kept characters, plus signs and
percent signs with two digits.  So a query string comes apart at the ampersands that were put
between pairs and at the first equals sign of each of them.

* **`FormEncoded.decode?`**, **`FormEncoded.decodePairs?`** — reading a text and a whole query
  string;
* **`FormEncoded.bytes?_encode`** — the bytes of an encoded text are those of the text;
* **`FormEncoded.mark_of_mem_encodePairs`** — what a query string consists of;
* **`FormEncoded.decodePairs?_encodePairs`** — names and values are read back as they were.
-/

namespace BriefSearch.FormEncoded

/-! ### Reading -/

/-- The value of a digit of base sixteen, in upper or lower case. -/
def hexValue? (c : Char) : Option Nat :=
  if '0' ≤ c ∧ c ≤ '9' then some (c.toNat - 48)
  else if 'A' ≤ c ∧ c ≤ 'F' then some (c.toNat - 55)
  else if 'a' ≤ c ∧ c ≤ 'f' then some (c.toNat - 87)
  else none

/-- The bytes that an encoded text stands for: a plus sign for a space, a percent sign and two
digits for any byte, and other characters for themselves.  A percent sign without two digits refuses
the text. -/
def bytes? : List Char → Option (List UInt8)
  | [] => some []
  | '+' :: rest => (bytes? rest).map (String.utf8EncodeChar ' ' ++ ·)
  | '%' :: a :: b :: rest =>
    match hexValue? a, hexValue? b with
    | some high, some low => (bytes? rest).map (UInt8.ofNat (16 * high + low) :: ·)
    | _, _ => none
  | '%' :: _ => none
  | c :: rest => (bytes? rest).map (String.utf8EncodeChar c ++ ·)

/-- The text that is encoded; none if the bytes are no text. -/
def decode? (cs : List Char) : Option String :=
  (bytes? cs).bind fun bytes => String.fromUTF8? bytes.toByteArray

/-- A name and its value, which stand before and behind the first equals sign; without one it is a
name with an empty value. -/
def decodePair? (cs : List Char) : Option (String × String) :=
  match Text.cut? ['='] cs with
  | some (name, value) => (decode? name).bind fun name => (decode? value).map (name, ·)
  | none => (decode? cs).map (·, "")

/-- The names and values between the ampersands of a query string. -/
def decodePairs? (query : String) : Option (List (String × String)) :=
  ((query.toList.splitOn '&').filter (· ≠ [])).mapM decodePair?

/-! ### Texts -/

theorem hexValue?_hexDigit : ∀ n < 16, hexValue? (hexDigit n) = some n := by
  decide

theorem isKept_hexDigit : ∀ n < 16, isKept (hexDigit n) = true := by
  decide

/-- A byte is read from its digits. -/
theorem bytes?_percentEncoded (b : UInt8) (rest : List Char) :
    bytes? (percentEncoded b ++ rest) = (bytes? rest).map (b :: ·) := by
  have hlt := b.toNat_lt
  have hvalue : UInt8.ofNat (16 * (b.toNat / 16) + b.toNat % 16) = b := by
    rw [Nat.div_add_mod, UInt8.ofNat_toNat]
  simp only [percentEncoded, List.cons_append, List.nil_append, bytes?,
    hexValue?_hexDigit (b.toNat / 16) (by omega), hexValue?_hexDigit (b.toNat % 16) (by omega),
    hvalue]

theorem bytes?_flatMap_percentEncoded (bytes : List UInt8) (rest : List Char) :
    bytes? (bytes.flatMap percentEncoded ++ rest) = (bytes? rest).map (bytes ++ ·) := by
  induction bytes with
  | nil => simp
  | cons b bytes ih =>
    rw [List.flatMap_cons, List.append_assoc, bytes?_percentEncoded, ih, Option.map_map]
    rfl

/-- A character that is kept is neither a plus sign nor a percent sign. -/
theorem bytes?_kept {c : Char} (hc : isKept c = true) (rest : List Char) :
    bytes? (c :: rest) = (bytes? rest).map (String.utf8EncodeChar c ++ ·) := by
  have hplus : c ≠ '+' := by
    rintro rfl
    exact absurd hc (by decide)
  have hpercent : c ≠ '%' := by
    rintro rfl
    exact absurd hc (by decide)
  rw [bytes?]
  · exact hplus
  · exact fun _ _ _ h _ => hpercent h
  · exact hpercent

/-- An encoded character stands for the bytes of the character. -/
theorem bytes?_encodedChar (c : Char) (rest : List Char) :
    bytes? (encodedChar c ++ rest) = (bytes? rest).map (String.utf8EncodeChar c ++ ·) := by
  rw [encodedChar]
  split
  · rename_i hkept
    exact bytes?_kept hkept rest
  · split
    · rename_i hspace
      subst hspace
      rw [List.singleton_append, bytes?]
    · exact bytes?_flatMap_percentEncoded _ rest

/-- **An encoded text stands for the bytes of the text.** -/
theorem bytes?_encode (s : String) :
    bytes? (encode s) = some (s.toList.flatMap String.utf8EncodeChar) := by
  rw [encode]
  induction s.toList with
  | nil => rfl
  | cons c cs ih =>
    rw [List.flatMap_cons, bytes?_encodedChar, ih, List.flatMap_cons, Option.map_some]

/-- **An encoded text is read back.** -/
theorem decode?_encode (s : String) : decode? (encode s) = some s := by
  have hbytes : (s.toList.flatMap String.utf8EncodeChar).toByteArray = s.toByteArray := by
    rw [← List.utf8Encode, ← String.toByteArray_ofList, String.ofList_toList]
  rw [decode?, bytes?_encode, Option.bind_some, hbytes, String.fromUTF8?, dif_pos s.isValidUTF8]
  rfl

/-! ### What an encoded text consists of -/

theorem mark_of_mem_percentEncoded {b : UInt8} {c : Char} (h : c ∈ percentEncoded b) :
    isKept c = true ∨ c = '+' ∨ c = '%' := by
  have hlt := b.toNat_lt
  rw [percentEncoded, List.mem_cons, List.mem_cons, List.mem_singleton] at h
  rcases h with rfl | rfl | rfl
  · exact .inr (.inr rfl)
  · exact .inl (isKept_hexDigit _ (by omega))
  · exact .inl (isKept_hexDigit _ (by omega))

theorem mark_of_mem_encode {s : String} {c : Char} (h : c ∈ encode s) :
    isKept c = true ∨ c = '+' ∨ c = '%' := by
  obtain ⟨d, -, hc⟩ := List.mem_flatMap.1 h
  rw [encodedChar] at hc
  split at hc
  · rename_i hkept
    rw [List.mem_singleton.1 hc]
    exact .inl hkept
  · split at hc
    · rw [List.mem_singleton.1 hc]
      exact .inr (.inl rfl)
    · obtain ⟨b, -, hc⟩ := List.mem_flatMap.1 hc
      exact mark_of_mem_percentEncoded hc

theorem separator_notMem_encode {m : Char} (hm : m = '&' ∨ m = '=') (s : String) :
    m ∉ encode s := by
  intro h
  have hmark := mark_of_mem_encode h
  rcases hm with rfl | rfl
  · revert hmark
    decide
  · revert hmark
    decide

/-! ### Pairs -/

theorem encodePair_ne_nil (pair : String × String) : encodePair pair ≠ [] := by
  rw [encodePair, List.append_assoc]
  exact List.append_ne_nil_of_right_ne_nil _ (List.cons_ne_nil _ _)

theorem mark_of_mem_encodePair {pair : String × String} {c : Char} (h : c ∈ encodePair pair) :
    isKept c = true ∨ c = '+' ∨ c = '%' ∨ c = '=' := by
  rw [encodePair, List.mem_append, List.mem_append, List.mem_singleton] at h
  rcases h with (h | rfl) | h
  · rcases mark_of_mem_encode h with h | h | h <;> simp [h]
  · simp
  · rcases mark_of_mem_encode h with h | h | h <;> simp [h]

theorem ampersand_notMem_encodePair (pair : String × String) : '&' ∉ encodePair pair := by
  intro h
  have hmark := mark_of_mem_encodePair h
  revert hmark
  decide

theorem decodePair?_encodePair (pair : String × String) :
    decodePair? (encodePair pair) = some pair := by
  have hcut : Text.cut? ['='] (encodePair pair) = some (encode pair.1, encode pair.2) := by
    rw [encodePair, List.append_assoc, List.singleton_append]
    exact Text.cut?_singleton (separator_notMem_encode (.inr rfl) pair.1) _
  rw [decodePair?, hcut]
  simp only [decode?_encode, Option.bind_some, Option.map_some]

theorem mapM_decodePair?_encodePair (pairs : List (String × String)) :
    (pairs.map encodePair).mapM decodePair? = some pairs := by
  induction pairs with
  | nil => rfl
  | cons pair pairs ih =>
    rw [List.map_cons, List.mapM_cons, decodePair?_encodePair, ih]
    rfl

/-- **Names and values are read back as they were**, whatever characters they have. -/
theorem decodePairs?_encodePairs (pairs : List (String × String)) :
    decodePairs? (encodePairs pairs) = some pairs := by
  have hparts : (encodePairs pairs).toList.splitOn '&' = pairs.map encodePair ∨ pairs = [] := by
    cases pairs with
    | nil => exact .inr rfl
    | cons pair pairs =>
      rw [encodePairs, String.toList_ofList]
      refine .inl (List.splitOn_intercalate '&' ?_ (List.cons_ne_nil _ _))
      intro part hpart
      obtain ⟨pair, -, rfl⟩ := List.mem_map.1 hpart
      exact ampersand_notMem_encodePair pair
  rcases hparts with hparts | rfl
  · have hfilter : (pairs.map encodePair).filter (· ≠ []) = pairs.map encodePair := by
      rw [List.filter_eq_self]
      intro part hpart
      obtain ⟨pair, -, rfl⟩ := List.mem_map.1 hpart
      exact decide_eq_true (encodePair_ne_nil pair)
    rw [decodePairs?, hparts, hfilter, mapM_decodePair?_encodePair]
  · rfl

/-- A query string consists of kept characters, plus signs, percent signs, equals signs and
ampersands. -/
theorem mark_of_mem_encodePairs {pairs : List (String × String)} {c : Char}
    (h : c ∈ (encodePairs pairs).toList) :
    isKept c = true ∨ c = '+' ∨ c = '%' ∨ c = '=' ∨ c = '&' := by
  have hpair : ∀ pair, c ∈ encodePair pair →
      isKept c = true ∨ c = '+' ∨ c = '%' ∨ c = '=' ∨ c = '&' := by
    intro pair hc
    rcases mark_of_mem_encodePair hc with h | h | h | h <;> simp [h]
  rw [encodePairs, String.toList_ofList] at h
  induction pairs with
  | nil => cases h
  | cons pair pairs ih =>
    cases pairs with
    | nil =>
      rw [List.map_singleton, List.intercalate_singleton] at h
      exact hpair pair h
    | cons pair' pairs =>
      rw [List.map_cons, List.map_cons, List.intercalate_cons_cons, List.mem_append,
        List.mem_append, List.mem_singleton] at h
      rcases h with (h | h) | h
      · exact hpair pair h
      · simp [h]
      · exact ih h

end BriefSearch.FormEncoded
