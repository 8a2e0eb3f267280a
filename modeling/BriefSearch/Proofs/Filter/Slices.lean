import BriefSearch.Proofs.Filter.Lexemes

/-!
# Words by the offsets of their bytes

The tokens of a text do not change when its words are cut out of its bytes, from the offset of
their first byte to that of the first byte behind them: the offsets never fall inside a character.

* **`slice?`** — the part of a text between two offsets, if these do not fall inside a character;
* **`scanSlices`** — reading tokens with such parts as words;
* **`slice?_append`** — what stands between two parts of a text is the slice between their offsets;
* **`scanSlices_eq`** — all slices are there, and the tokens are those that are read anyway.
-/

namespace BriefSearch.Token

open Text

/-- The part of a text between two offsets; there is none if the second comes before the first, or
if one of them falls inside a character or behind the text. -/
def slice? (text : String) (start stop : Nat) : Option String :=
  if h : (String.Pos.Raw.mk start).IsValid text ∧ (String.Pos.Raw.mk stop).IsValid text then
    if start ≤ stop then some (text.extract ⟨⟨start⟩, h.1⟩ ⟨⟨stop⟩, h.2⟩) else none
  else none

/-- The offset at which the rest of a text begins. -/
def offsetOf (text : String) (rest : List Char) : Nat :=
  text.utf8ByteSize - (String.ofList rest).utf8ByteSize

/-- The tokens of the rest of a text, whose words are slices of the text, and for which the slice
behind a word says whether a colon follows. -/
def scanSlices (text : String) : List Char → Option (Except ScanFault (List Token))
  | [] => some (.ok [])
  | c :: rest =>
    if isBlank c then scanSlices text rest
    else if c = '(' then (scanSlices text rest).map (·.map (.opening :: ·))
    else if c = ')' then (scanSlices text rest).map (·.map (.closing :: ·))
    else if c = ':' then (scanSlices text rest).map (·.map (.colon :: ·))
    else if c = '"' then
      match _h : quoted? rest with
      | some (content, after) =>
        (scanSlices text after).map (·.map (.value (.ofList content) :: ·))
      | none => some (.error .unterminated)
    else if isWordChar c then
      let after := rest.dropWhile isWordChar
      let stop := offsetOf text after
      match slice? text (offsetOf text (c :: rest)) stop, slice? text stop text.utf8ByteSize with
      | some word, some behind =>
        (scanSlices text after).map (·.map (ofWord word.toList behind.toList :: ·))
      | _, _ => none
    else some (.error (.unexpected c (c :: rest)))
termination_by cs => cs.length
decreasing_by
  all_goals simp only [List.length_cons]
  all_goals first
    | omega
    | exact Nat.lt_succ_of_lt (length_lt_of_quoted? ‹_›)
    | exact Nat.lt_succ_of_le (List.dropWhile_suffix isWordChar).length_le

/-! ### Slices -/

theorem isValid_append (s t : String) :
    (String.Pos.Raw.mk s.utf8ByteSize).IsValid (s ++ t) :=
  String.Pos.Raw.isValid_iff_exists_append.2 ⟨s, t, rfl, rfl⟩

/-- **What stands between two parts of a text is the slice between their offsets.** -/
theorem slice?_append (s t u : String) :
    slice? (s ++ t ++ u) s.utf8ByteSize (s.utf8ByteSize + t.utf8ByteSize) = some t := by
  have hstart : (String.Pos.Raw.mk s.utf8ByteSize).IsValid (s ++ t ++ u) := by
    rw [String.append_assoc]
    exact isValid_append s (t ++ u)
  have hstop : (String.Pos.Raw.mk (s.utf8ByteSize + t.utf8ByteSize)).IsValid (s ++ t ++ u) := by
    rw [← String.utf8ByteSize_append]
    exact isValid_append (s ++ t) u
  rw [slice?, dif_pos ⟨hstart, hstop⟩, if_pos (Nat.le_add_right _ _)]
  refine congrArg some (String.toByteArray_inj.1 ?_)
  rw [String.toByteArray_extract, String.toByteArray_append, String.toByteArray_append,
    ByteArray.append_assoc]
  show (s.toByteArray ++ (t.toByteArray ++ u.toByteArray)).extract (s.toByteArray.size + 0)
    (s.toByteArray.size + t.toByteArray.size) = t.toByteArray
  rw [ByteArray.extract_append_size_add, ByteArray.extract_append_eq_left rfl]

theorem offsetOf_eq {text : String} {before rest : List Char} (h : text.toList = before ++ rest) :
    offsetOf text rest = (String.ofList before).utf8ByteSize := by
  have htext : text = String.ofList before ++ String.ofList rest := by
    rw [← String.ofList_append, ← h, String.ofList_toList]
  rw [offsetOf, htext, String.utf8ByteSize_append, Nat.add_sub_cancel]

/-- The slice between the offsets of two rests of a text is what stands between them. -/
theorem slice?_offsetOf {text : String} {before piece after : List Char}
    (h : text.toList = before ++ (piece ++ after)) :
    slice? text (offsetOf text (piece ++ after)) (offsetOf text after)
      = some (String.ofList piece) := by
  have htext : text = String.ofList before ++ String.ofList piece ++ String.ofList after := by
    rw [← String.ofList_append, ← String.ofList_append, List.append_assoc, ← h,
      String.ofList_toList]
  have hafter : text.toList = (before ++ piece) ++ after := by rw [h, List.append_assoc]
  have hslice := slice?_append (String.ofList before) (String.ofList piece) (String.ofList after)
  rw [← htext] at hslice
  rw [offsetOf_eq h, offsetOf_eq hafter, String.ofList_append, String.utf8ByteSize_append]
  exact hslice

/-- The slice from the offset of a rest of a text to the end of the text is this rest. -/
theorem slice?_rest {text : String} {before rest : List Char}
    (h : text.toList = before ++ rest) :
    slice? text (offsetOf text rest) text.utf8ByteSize = some (String.ofList rest) := by
  have hend : text.utf8ByteSize = offsetOf text [] := rfl
  rw [hend]
  have hslice := @slice?_offsetOf text before rest []
  rw [List.append_nil] at hslice
  exact hslice h

/-! ### Tokens -/

/-- **All slices are there, and they give the tokens that are read from the characters.** -/
theorem scanSlices_eq {text : String} {before cs : List Char} (h : text.toList = before ++ cs) :
    scanSlices text cs = some (scan cs) := by
  fun_induction scan cs generalizing before with
  | case1 => rw [scanSlices]
  | case2 c rest hc ih =>
    rw [List.append_cons] at h
    rw [scanSlices, if_pos hc, ih h]
  | case3 rest hblank ih =>
    rw [List.append_cons] at h
    rw [scanSlices, if_neg hblank, if_pos rfl, ih h]
    rfl
  | case4 rest hblank hopening ih =>
    rw [List.append_cons] at h
    rw [scanSlices, if_neg hblank, if_neg hopening, if_pos rfl, ih h]
    rfl
  | case5 rest hblank hopening hclosing ih =>
    rw [List.append_cons] at h
    rw [scanSlices, if_neg hblank, if_neg hopening, if_neg hclosing, if_pos rfl, ih h]
    rfl
  | case6 rest content after hquoted hblank hopening hclosing hcolon ih =>
    obtain ⟨body, rfl, -⟩ := exists_quoted hquoted
    rw [List.append_cons, ← List.append_assoc] at h
    rw [scanSlices, if_neg hblank, if_neg hopening, if_neg hclosing, if_neg hcolon, if_pos rfl]
    split
    · rename_i hsome
      rw [hquoted] at hsome
      cases hsome
      rw [ih h]
      rfl
    · rename_i hnone
      rw [hquoted] at hnone
      cases hnone
  | case7 rest hquoted hblank hopening hclosing hcolon =>
    rw [scanSlices, if_neg hblank, if_neg hopening, if_neg hclosing, if_neg hcolon, if_pos rfl]
    split
    · rename_i hsome
      rw [hquoted] at hsome
      cases hsome
    · rfl
  | case8 c rest hblank hopening hclosing hcolon hquote hc after =>
    rename_i ih
    have hsplit : c :: rest = (c :: rest.takeWhile isWordChar) ++ after := by
      rw [List.cons_append, List.takeWhile_append_dropWhile]
    rw [hsplit] at h
    have hword := slice?_offsetOf h
    rw [← hsplit] at hword
    rw [← List.append_assoc] at h
    rw [scanSlices, if_neg hblank, if_neg hopening, if_neg hclosing, if_neg hcolon,
      if_neg hquote, if_pos hc]
    dsimp only
    rw [hword, slice?_rest h]
    dsimp only
    rw [ih h, String.toList_ofList, String.toList_ofList]
    rfl
  | case9 c rest hblank hopening hclosing hcolon hquote hc =>
    rw [scanSlices, if_neg hblank, if_neg hopening, if_neg hclosing, if_neg hcolon,
      if_neg hquote, if_neg hc]

end BriefSearch.Token
