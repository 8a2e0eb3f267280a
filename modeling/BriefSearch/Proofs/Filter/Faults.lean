import BriefSearch.Proofs.Filter.Grammar
import BriefSearch.Proofs.Filter.Slices

/-!
# Faults of single characters

What is wrong with a character is reported before anything that is wrong with the order of tokens,
and where it stands.

* **`unescaped`**, **`quoted?_eq_none_iff`** — the characters that no backslash escapes, and the
  quotes that are not closed;
* **`UnexpectedAt`**, **`Unterminated`** — the two faults, said of the text;
* **`parse_unexpected_iff`**, **`parse_unterminated_iff`** — each is reported where it stands;
* **`parse_reports_lexical_faults`** — it is reported before any other fault, and no word is cut
  inside a character.
-/

namespace BriefSearch

open Text Token

/-! ### Quotes that are not closed -/

/-- The characters that no backslash escapes; a backslash takes the character after it away. -/
def Token.unescaped : List Char → List Char
  | [] => []
  | '\\' :: _ :: rest => unescaped rest
  | c :: rest => c :: unescaped rest

/-- **A quote is not closed when all others behind it are escaped.** -/
theorem Token.quoted?_eq_none_iff {cs : List Char} : quoted? cs = none ↔ '"' ∉ unescaped cs := by
  fun_induction quoted? cs with
  | case1 => simp [unescaped]
  | case2 rest => simp [unescaped]
  | case3 c rest ih => rw [Option.map_eq_none_iff, ih, unescaped]
  | case4 rest hquote hescape =>
    rcases rest with _ | ⟨d, rest⟩
    · simp [unescaped]
    · exact absurd rfl (hescape d rest rfl)
  | case5 c rest hquote hescape hne ih =>
    have hkept : unescaped (c :: rest) = c :: unescaped rest := by
      rw [unescaped]
      intro d rest' he
      exact absurd he hne
    have hother : '"' ≠ c := fun he => hquote he.symm
    rw [Option.map_eq_none_iff, ih, hkept, List.mem_cons, not_or]
    exact ⟨fun h => ⟨hother, h⟩, fun h => h.2⟩

namespace Expression

/-! ### Faults and where they stand -/

/-- A character that begins no token stands behind a part of the text that has tokens and takes up
so many bytes. -/
def UnexpectedAt (text : List Char) (c : Char) (offset : Nat) : Prop :=
  ∃ before after, text = before ++ c :: after ∧ Lexes before ∧
    (String.ofList before).utf8ByteSize = offset ∧ IsForeign c

/-- A quote stands behind a part of the text that has tokens, and no other quote closes it. -/
def Unterminated (text : List Char) : Prop :=
  ∃ before rest, text = before ++ '"' :: rest ∧ Lexes before ∧ '"' ∉ unescaped rest

/-- The bytes of characters are those of the text that they make up. -/
theorem byteLength_eq (cs : List Char) : byteLength cs = (String.ofList cs).utf8ByteSize := by
  induction cs with
  | nil => rfl
  | cons c cs ih =>
    have hsplit : String.ofList (c :: cs) = String.singleton c ++ String.ofList cs := by
      rw [String.singleton_eq_ofList, ← String.ofList_append]
      rfl
    rw [hsplit, String.utf8ByteSize_append, String.utf8ByteSize_singleton, ← ih]
    rfl

/-- The offset of a fault is the length of what stands before it. -/
theorem scanFault_unexpected (before after : List Char) (c : Char) :
    scanFault (before ++ c :: after) (.unexpected c (c :: after))
      = .unexpectedCharacter c (String.ofList before).utf8ByteSize := by
  rw [scanFault, byteLength_eq, byteLength_eq, String.ofList_append, String.utf8ByteSize_append,
    Nat.add_sub_cancel]

/-- A fault of a single character is reported when the text has no tokens, and never otherwise. -/
theorem parse_lexical_iff {text : String} {fault : ExpressionFault}
    (hfault : inOrder fault = false) :
    parse text = .error fault ↔
      ∃ f, scan text.toList = .error f ∧ scanFault text.toList f = fault := by
  rw [parse]
  cases hscan : scan text.toList with
  | error f =>
    constructor
    · intro h
      exact ⟨f, rfl, Except.error.inj h⟩
    · rintro ⟨f', hf', rfl⟩
      cases hf'
      rfl
  | ok tokens =>
    constructor
    · intro h
      rw [statements_fault h] at hfault
      cases hfault
    · rintro ⟨f, hf, -⟩
      cases hf

/-- **A foreign character is reported with its offset.** -/
theorem parse_unexpected_iff {text : String} {c : Char} {offset : Nat} :
    parse text = .error (.unexpectedCharacter c offset) ↔ UnexpectedAt text.toList c offset := by
  rw [parse_lexical_iff rfl]
  constructor
  · rintro ⟨f, hscan, hf⟩
    obtain ⟨before, rest, htext, hbefore, hfault⟩ := scan_eq_error_iff.1 hscan
    cases hfault with
    | unexpected hc =>
      rw [htext, scanFault_unexpected] at hf
      cases hf
      exact ⟨before, _, htext, hbefore, rfl, hc⟩
    | unterminated _ => cases hf
  · rintro ⟨before, after, htext, hbefore, rfl, hc⟩
    refine ⟨_, scan_eq_error_iff.2 ⟨before, _, htext, hbefore, .unexpected hc⟩, ?_⟩
    rw [htext, scanFault_unexpected]

/-- **A quote that is not closed is reported.** -/
theorem parse_unterminated_iff {text : String} :
    parse text = .error .unterminatedQuote ↔ Unterminated text.toList := by
  rw [parse_lexical_iff rfl]
  constructor
  · rintro ⟨f, hscan, hf⟩
    obtain ⟨before, rest, htext, hbefore, hfault⟩ := scan_eq_error_iff.1 hscan
    cases hfault with
    | unexpected _ => cases hf
    | unterminated hrest => exact ⟨before, _, htext, hbefore, quoted?_eq_none_iff.1 hrest⟩
  · rintro ⟨before, rest, htext, hbefore, hrest⟩
    have hfault : FaultAt ('"' :: rest) .unterminated := .unterminated (quoted?_eq_none_iff.2 hrest)
    exact ⟨_, scan_eq_error_iff.2 ⟨before, _, htext, hbefore, hfault⟩, rfl⟩

/-- Only a text with tokens is found at fault for their order. -/
theorem lexes_of_inOrder {text : String} {fault : ExpressionFault} (h : parse text = .error fault)
    (hfault : inOrder fault = true) : Lexes text.toList := by
  cases hscan : scan text.toList with
  | ok tokens => exact ⟨tokens, hscan⟩
  | error f =>
    rw [parse, hscan] at h
    cases h
    cases f <;> cases hfault

/-- **Faults of single characters are reported exactly and first.**  A foreign character is
reported with the number of bytes before it, where these have tokens, and a quote where it is not
closed.  At most one of these is there, and if one is, no fault in the order of tokens is reported,
wherever in the text it may be.  Cutting words out of the bytes of the text never cuts a character
and gives the tokens that are read from the characters. -/
theorem parse_reports_lexical_faults (text : String) :
    (∀ c offset, parse text = .error (.unexpectedCharacter c offset) ↔
      UnexpectedAt text.toList c offset) ∧
    (∀ c offset, (ExpressionFault.unexpectedCharacter c offset).message
      = "Unexpected character " ++ quoteChar c ++ " at offset " ++ toString offset) ∧
    (parse text = .error .unterminatedQuote ↔ Unterminated text.toList) ∧
    ExpressionFault.unterminatedQuote.message = "Unterminated quoted value" ∧
    (∀ c offset, UnexpectedAt text.toList c offset → ¬ Unterminated text.toList ∧
      ∀ c' offset', UnexpectedAt text.toList c' offset' → c' = c ∧ offset' = offset) ∧
    (∀ fault, parse text = .error fault → inOrder fault = true → Lexes text.toList ∧
      (∀ c offset, ¬ UnexpectedAt text.toList c offset) ∧ ¬ Unterminated text.toList) ∧
    scanSlices text text.toList = some (scan text.toList) := by
  refine ⟨fun c offset => parse_unexpected_iff, fun c offset => rfl, parse_unterminated_iff, rfl,
    ?_, ?_, ?_⟩
  · intro c offset h
    have hreport := parse_unexpected_iff.2 h
    constructor
    · intro hunterminated
      rw [parse_unterminated_iff.2 hunterminated] at hreport
      cases hreport
    · intro c' offset' h'
      rw [parse_unexpected_iff.2 h'] at hreport
      cases hreport
      exact ⟨rfl, rfl⟩
  · intro fault h hfault
    refine ⟨lexes_of_inOrder h hfault, ?_, ?_⟩
    · intro c offset hunexpected
      rw [parse_unexpected_iff.2 hunexpected] at h
      cases h
      cases hfault
    · intro hunterminated
      rw [parse_unterminated_iff.2 hunterminated] at h
      cases h
      cases hfault
  · exact scanSlices_eq (List.nil_append _).symm

/-- A semicolon behind four bytes, the first of which is a parenthesis that opens nothing, and a
quote whose only partner is escaped. -/
theorem parse_reports_lexical_faults_first :
    UnexpectedAt ") é;\"".toList ';' 4 ∧
    parse ") é;\"" = .error (.unexpectedCharacter ';' 4) ∧
    Unterminated "(a:\"x\\\"".toList ∧ parse "(a:\"x\\\"" = .error .unterminatedQuote := by
  have hforeign : UnexpectedAt ") é;\"".toList ';' 4 :=
    ⟨[')', ' ', 'é'], ['"'], by decide, ⟨[.closing, .value "é"], by decide +kernel⟩,
      by decide +kernel, by decide⟩
  have hopen : Unterminated "(a:\"x\\\"".toList :=
    ⟨['(', 'a', ':'], ['x', '\\', '"'], by decide,
      ⟨[.opening, .field "a", .colon], by decide +kernel⟩, by decide⟩
  exact ⟨hforeign, ((parse_reports_lexical_faults _).1 ';' 4).2 hforeign, hopen,
    (parse_reports_lexical_faults _).2.2.1.2 hopen⟩

end Expression

end BriefSearch
