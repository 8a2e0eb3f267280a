import BriefSearch.Proofs.Filter.Grammar
import BriefSearch.Proofs.Filter.Lexemes

/-!
# Fields and the colons behind them

A word is taken for the name of a field when a colon follows it in the text, white space aside.
The tokens behind it are read later, and the first of them is this colon.

* **`Token.head?_eq_colon_iff`** — the tokens of a text begin with a colon when the text does, white
  space aside: looking ahead and reading on agree;
* **`Token.QuotedAt`** — a value that is written between quotes;
* **`Expression.fields_have_colons`** — a colon follows every field, and no value but a quoted one,
  so that no text is found at fault for a missing colon.
-/

namespace BriefSearch

open Text

namespace Token

/-! ### Looking ahead -/

/-- A word is never read as a colon. -/
theorem ofWord_ne_colon (word rest : List Char) : ofWord word rest ≠ .colon := by
  intro h
  rcases ofWord_cases word rest with ⟨op, -, hword⟩ | ⟨-, -, hword⟩ | ⟨-, -, hword⟩ <;>
    rw [h] at hword <;> cases hword

/-- Where a text does not begin with a colon, neither do its tokens. -/
theorem head?_eq_colon_iff_of_ne {c : Char} {token : Token} (hblank : isBlank c = false)
    (hc : c ≠ ':') (htoken : token ≠ .colon) (rest : List Char) (more : List Token) :
    (token :: more).head? = some .colon ↔ colonFollows (c :: rest) = true := by
  rw [colonFollows_cons hblank]
  simp [hc, htoken]

/-- **Looking ahead for a colon tells whether it is read next.** -/
theorem head?_eq_colon_iff {cs : List Char} {tokens : List Token} (h : scan cs = .ok tokens) :
    tokens.head? = some .colon ↔ colonFollows cs = true := by
  induction cs using lexemeInduction generalizing tokens with
  | nil =>
    rw [scan_nil] at h
    cases h
    decide
  | lexeme piece own after hpiece hafter ih =>
    rw [hpiece.reads hafter] at h
    obtain ⟨more, hmore, rfl⟩ := Expression.exists_of_map_eq_ok h
    cases hpiece with
    | blank hc =>
      have hblank := colonFollows_blank (List.forall_mem_singleton.2 hc) after
      rw [hblank]
      exact ih hmore
    | opening => exact head?_eq_colon_iff_of_ne (by decide) (by decide) (by decide) after more
    | closing => exact head?_eq_colon_iff_of_ne (by decide) (by decide) (by decide) after more
    | colon =>
      have hcolon : colonFollows (':' :: after) = true := colonFollows_cons (by decide) after
      exact ⟨fun _ => hcolon, fun _ => rfl⟩
    | @quoted body text _ =>
      exact head?_eq_colon_iff_of_ne (by decide) (by decide) (by simp) (body ++ after) more
    | word hword =>
      rw [colonFollows_word hword]
      simp [ofWord_ne_colon]
  | fault cs fault hfault =>
    rw [hfault.scan_eq] at h
    cases h

/-! ### Fields and values -/

/-- A field is read where a colon follows, and is one of the names. -/
theorem head?_of_field {cs : List Char} {before after : List Token} {name : String}
    (h : scan cs = .ok (before ++ .field name :: after)) :
    after.head? = some .colon ∧ IsName name.toList := by
  obtain ⟨front, piece, rest, own, -, -, hpiece, hown, hrest⟩ := readFrom_of_scan h
  obtain ⟨hname, hcolon⟩ := hpiece.isName_of_field hown
  exact ⟨(head?_eq_colon_iff hrest).2 hcolon, hname⟩

/-- The value behind some tokens of a text is written between quotes: what is read as these tokens
ends in front of a quote, which has its partner at the end of the value, and the tokens behind the
value are read from there on. -/
def QuotedAt (text : List Char) (before : List Token) (content : String)
    (after : List Token) : Prop :=
  ∃ front body rest, text = front ++ ('"' :: body ++ rest) ∧
    Reads front before ('"' :: body ++ rest) ∧
    (∀ more, quoted? (body ++ more) = some (content.toList, more)) ∧ scan rest = .ok after

/-- A word in front of a colon is no value, so a value in front of one has quotes. -/
theorem quotedAt_of_colon {cs : List Char} {before after : List Token} {content : String}
    (h : scan cs = .ok (before ++ .value content :: .colon :: after)) :
    QuotedAt cs before content (.colon :: after) := by
  obtain ⟨front, piece, rest, own, htext, hfront, hpiece, hown, hrest⟩ := readFrom_of_scan h
  have hcolon : colonFollows rest = true := (head?_eq_colon_iff hrest).1 rfl
  cases hpiece with
  | @quoted body text hbody =>
    have hcontent : String.ofList text = content := by
      have hvalue := List.singleton_inj.1 hown
      exact Token.value.inj hvalue
    refine ⟨front, body, rest, htext, hfront, ?_, hrest⟩
    intro more
    rw [← hcontent, String.toList_ofList]
    exact hbody more
  | word hword =>
    rw [ofWord_eq_value (List.singleton_inj.1 hown)] at hcolon
    cases hcolon
  | _ => simp at hown

end Token

namespace Expression

open Token

/-- Only a missing colon is reported as one. -/
theorem message_eq_iff {fault : ExpressionFault} :
    fault.message = "Expected colon" ↔ fault = .expectedColon := by
  constructor
  · intro h
    unfold ExpressionFault.message at h
    cases fault with
    | expectedColon => rfl
    | unexpectedCharacter c offset =>
      have hhead := congrArg (fun message : String => message.toList.head?) h
      simp [String.toList_append] at hhead
    | _ => exact absurd h (by decide)
  · intro h
    rw [h]
    rfl

/-- No text is found at fault for a missing colon. -/
theorem parse_ne_expectedColon (text : String) : parse text ≠ .error .expectedColon := by
  intro h
  unfold parse at h
  split at h
  · rename_i fault hscan
    cases fault <;> cases h
  · rename_i tokens hscan
    cases statements_misordered h with
    | colon hlacks =>
      obtain ⟨before, name, after, rfl, hcolon⟩ := hlacks
      exact hcolon (head?_of_field hscan).1
    | other _ hne => exact hne rfl

/-- **A colon follows every field.**  Among the tokens of a text, a field stands right in front of a
colon and is a name, and a value that stands right in front of a colon is written between quotes.
So no text is found at fault for a missing colon. -/
theorem fields_have_colons (text : String) :
    (∀ before name after, scan text.toList = .ok (before ++ .field name :: after) →
      after.head? = some .colon ∧ IsName name.toList) ∧
    (∀ before content after,
      scan text.toList = .ok (before ++ .value content :: .colon :: after) →
      QuotedAt text.toList before content (.colon :: after)) ∧
    ∀ fault, parse text = .error fault → fault.message ≠ "Expected colon" := by
  refine ⟨?_, ?_, ?_⟩
  · intro before name after h
    exact head?_of_field h
  · intro before content after h
    exact quotedAt_of_colon h
  · intro fault h hmessage
    rw [message_eq_iff.1 hmessage] at h
    exact parse_ne_expectedColon text h

/-- A colon follows the field, a no-break space aside, and another one the value, which has quotes;
what is reported is that the value is no name of a field. -/
theorem fields_have_colons_behind_value :
    scan "x\u00a0:\"or\" :".toList = .ok [.field "x", .colon, .value "or", .colon] ∧
    IsName "x".toList ∧
    QuotedAt "x\u00a0:\"or\" :".toList [.field "x", .colon] "or" [.colon] ∧
    parse "x\u00a0:\"or\" :" = .error .expectedField ∧
    ExpressionFault.expectedField.message ≠ "Expected colon" := by
  have hscan : scan "x\u00a0:\"or\" :".toList = .ok [.field "x", .colon, .value "or", .colon] := by
    decide +kernel
  have hparse : parse "x\u00a0:\"or\" :" = .error .expectedField := by
    rw [parse, hscan]
    simp [statements, term, field, value, afterTerm, Except.map]
  obtain ⟨hfields, hvalues, hfaults⟩ := fields_have_colons "x\u00a0:\"or\" :"
  exact ⟨hscan, (hfields [] "x" _ hscan).2, hvalues [.field "x", .colon] "or" [] hscan, hparse,
    hfaults _ hparse⟩

end Expression

end BriefSearch
