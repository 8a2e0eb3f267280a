import BriefSearch.Proofs.Filter.Scan

/-!
# Texts as lexemes

A text is a sequence of lexemes up to its end or to the place where it has no token.

* **`Lexeme`** — a piece of text that is read at once, with its tokens, and **`Lexeme.reads`**;
* **`FaultAt`** — a text that begins with no lexeme;
* **`lexemeInduction`** — induction along the lexemes of a text;
* **`readFrom_of_scan`** — every token is read from a lexeme of its own;
* **`ofWord_cases`** — what words are read as;
* **`isName_of_field_mem_scan`** — fields are read with names only;
* **`exists_reads`** — what is read of a text is read in front of others that do not go on with its
  last word;
* **`scan_eq_error_iff`** — a fault of a text stands behind a part that has tokens.
-/

namespace BriefSearch.Token

open Text

/-- A character that begins no lexeme: no white space, no punctuation, no part of a word. -/
def IsForeign (c : Char) : Prop :=
  isBlank c = false ∧ c ∉ ['(', ')', ':', '"'] ∧ isWordChar c = false

instance (c : Char) : Decidable (IsForeign c) :=
  inferInstanceAs (Decidable (_ ∧ _ ∧ _))

/-- The text has tokens. -/
def Lexes (cs : List Char) : Prop :=
  ∃ tokens, scan cs = .ok tokens

/-- A piece of text that is read at once, with the tokens that it gives in front of a text. -/
inductive Lexeme : List Char → (List Char → List Token) → Prop
  | blank {c : Char} (h : isBlank c = true) : Lexeme [c] fun _ => []
  | opening : Lexeme ['('] fun _ => [.opening]
  | closing : Lexeme [')'] fun _ => [.closing]
  | colon : Lexeme [':'] fun _ => [.colon]
  | quoted {body text : List Char} (h : ∀ rest, quoted? (body ++ rest) = some (text, rest)) :
      Lexeme ('"' :: body) fun _ => [.value (.ofList text)]
  | word {word : List Char} (h : IsWord word) : Lexeme word fun rest => [ofWord word rest]

/-- A text that begins with no lexeme, and the fault that it has for it. -/
inductive FaultAt : List Char → ScanFault → Prop
  | unexpected {c : Char} {rest : List Char} (h : IsForeign c) :
      FaultAt (c :: rest) (.unexpected c (c :: rest))
  | unterminated {rest : List Char} (h : quoted? rest = none) : FaultAt ('"' :: rest) .unterminated

/-! ### What follows a word -/

theorem stops_nil : Stops [] := by
  intro c hc
  cases hc

theorem Stops.of_append {cs rest : List Char} (h : Stops (cs ++ rest)) : Stops cs := by
  cases cs with
  | nil => exact stops_nil
  | cons c cs => exact h

theorem Stops.append {cs rest : List Char} (h : Stops cs) (hrest : Stops rest) :
    Stops (cs ++ rest) := by
  cases cs with
  | nil => exact hrest
  | cons c cs => exact h

theorem stops_dropWhile (cs : List Char) : Stops (cs.dropWhile isWordChar) := by
  intro c hc
  have hhead := List.head?_dropWhile_not isWordChar cs
  rw [Option.mem_def.1 hc] at hhead
  simpa using hhead

/-- What does not begin with a colon brings none behind a text. -/
theorem colonFollows_append {rest : List Char} (hrest : colonFollows rest = false)
    (cs : List Char) : colonFollows (cs ++ rest) = colonFollows cs := by
  induction cs with
  | nil =>
    rw [List.nil_append, hrest]
    rfl
  | cons c cs ih =>
    rw [List.cons_append]
    cases hc : isBlank c with
    | true =>
      have hblank : IsBlank [c] := List.forall_mem_singleton.2 hc
      have hleft : colonFollows (c :: (cs ++ rest)) = colonFollows (cs ++ rest) :=
        colonFollows_blank hblank (cs ++ rest)
      have hright : colonFollows (c :: cs) = colonFollows cs := colonFollows_blank hblank cs
      rw [hleft, hright, ih]
    | false => rw [colonFollows_cons hc, colonFollows_cons hc]

/-! ### Lexemes -/

theorem not_isWord_cons {c : Char} (hc : isWordChar c = false) (cs : List Char) :
    ¬ IsWord (c :: cs) := by
  intro hword
  have htrue := hword.2 c List.mem_cons_self
  rw [hc] at htrue
  cases htrue

/-- A quoted value ends at its own quote, whatever follows. -/
theorem exists_quoted {cs text after : List Char} (h : quoted? cs = some (text, after)) :
    ∃ body, cs = body ++ after ∧ ∀ rest, quoted? (body ++ rest) = some (text, rest) := by
  fun_induction quoted? cs generalizing text after with
  | case1 => cases h
  | case2 rest =>
    cases h
    exact ⟨['"'], rfl, fun rest => rfl⟩
  | case3 c rest ih =>
    obtain ⟨⟨text', after'⟩, hquoted, he⟩ := Option.map_eq_some_iff.1 h
    cases he
    obtain ⟨body, rfl, hbody⟩ := ih hquoted
    refine ⟨'\\' :: c :: body, rfl, fun more => ?_⟩
    rw [List.cons_append, List.cons_append, quoted?, hbody]
    rfl
  | case4 => cases h
  | case5 c rest hquote hescape hne ih =>
    obtain ⟨⟨text', after'⟩, hquoted, he⟩ := Option.map_eq_some_iff.1 h
    cases he
    obtain ⟨body, rfl, hbody⟩ := ih hquoted
    refine ⟨c :: body, rfl, fun more => ?_⟩
    rw [List.cons_append, quoted?, if_neg hne, hbody]
    · rfl
    · exact hquote
    · intro d rest' he
      exact absurd he hne

/-- **A lexeme is read as its tokens**; a word if the text does not go on with it. -/
theorem Lexeme.reads {piece : List Char} {tokens : List Char → List Token}
    (h : Lexeme piece tokens) {rest : List Char} (hrest : IsWord piece → Stops rest) :
    Reads piece (tokens rest) rest := by
  cases h with
  | blank hc => exact reads_blank (List.forall_mem_singleton.2 hc) rest
  | opening => exact reads_opening rest
  | closing => exact reads_closing rest
  | colon => exact reads_colon rest
  | quoted hbody => exact scan_quote (hbody rest)
  | word hword => exact reads_word hword (hrest hword)

/-- The tokens of a lexeme depend on whether a colon follows, and on nothing else behind it. -/
theorem Lexeme.tokens_congr {piece : List Char} {tokens : List Char → List Token}
    (h : Lexeme piece tokens) {rest rest' : List Char}
    (hcolon : colonFollows rest = colonFollows rest') : tokens rest = tokens rest' := by
  cases h with
  | word hword =>
    show [ofWord piece rest] = [ofWord piece rest']
    rw [ofWord, hcolon, ofWord]
  | _ => rfl

theorem FaultAt.scan_eq {cs : List Char} {fault : ScanFault} (h : FaultAt cs fault) :
    scan cs = .error fault := by
  cases h with
  | @unexpected c rest hc =>
    obtain ⟨hblank, hmark, hword⟩ := hc
    simp only [List.mem_cons, List.not_mem_nil, or_false, not_or] at hmark
    obtain ⟨hopening, hclosing, hcolon, hquote⟩ := hmark
    rw [scan, if_neg (by simp [hblank]), if_neg hopening, if_neg hclosing, if_neg hcolon,
      if_neg hquote, if_neg (by simp [hword])]
  | @unterminated rest hrest =>
    rw [scan, if_neg (by decide), if_neg (by decide), if_neg (by decide), if_neg (by decide),
      if_pos rfl]
    split
    · rename_i hsome
      rw [hrest] at hsome
      cases hsome
    · rfl

theorem FaultAt.stops {cs : List Char} {fault : ScanFault} (h : FaultAt cs fault) : Stops cs := by
  cases h with
  | unexpected hc => exact stops_cons hc.2.2 _
  | unterminated _ => exact stops_cons (by decide) _

theorem isWord_takeWhile {c : Char} (hc : isWordChar c = true) (rest : List Char) :
    IsWord (c :: rest.takeWhile isWordChar) := by
  refine ⟨List.cons_ne_nil _ _, ?_⟩
  intro d hd
  rcases List.mem_cons.1 hd with rfl | hd
  · exact hc
  · exact List.mem_takeWhile_imp hd

/-- **Induction along the lexemes of a text**, up to its end or to the place where it has a
fault. -/
@[elab_as_elim]
theorem lexemeInduction {motive : List Char → Prop} (nil : motive [])
    (lexeme : ∀ piece tokens after, Lexeme piece tokens → (IsWord piece → Stops after) →
      motive after → motive (piece ++ after))
    (fault : ∀ cs fault, FaultAt cs fault → motive cs) (cs : List Char) : motive cs := by
  fun_induction scan cs with
  | case1 => exact nil
  | case2 c rest hc ih =>
    have hnone := not_isWord_cons (isWordChar_of_isBlank hc) []
    exact lexeme [c] _ rest (.blank hc) (fun hword => absurd hword hnone) ih
  | case3 rest _ ih =>
    have hnone : ¬ IsWord ['('] := not_isWord_cons (by decide) []
    exact lexeme _ _ rest .opening (fun hword => absurd hword hnone) ih
  | case4 rest _ _ ih =>
    have hnone : ¬ IsWord [')'] := not_isWord_cons (by decide) []
    exact lexeme _ _ rest .closing (fun hword => absurd hword hnone) ih
  | case5 rest _ _ _ ih =>
    have hnone : ¬ IsWord [':'] := not_isWord_cons (by decide) []
    exact lexeme _ _ rest .colon (fun hword => absurd hword hnone) ih
  | case6 rest text after hquoted _ _ _ _ ih =>
    obtain ⟨body, rfl, hbody⟩ := exists_quoted hquoted
    have hnone : ¬ IsWord ('"' :: body) := not_isWord_cons (by decide) body
    exact lexeme _ _ after (.quoted hbody) (fun hword => absurd hword hnone) ih
  | case7 rest hnone => exact fault _ _ (.unterminated hnone)
  | case8 c rest _ _ _ _ _ hc after ih =>
    have hsplit : c :: rest = (c :: rest.takeWhile isWordChar) ++ rest.dropWhile isWordChar := by
      rw [List.cons_append, List.takeWhile_append_dropWhile]
    rw [hsplit]
    exact lexeme _ _ _ (.word (isWord_takeWhile hc rest)) (fun _ => stops_dropWhile rest) ih
  | case9 c rest hblank hopening hclosing hcolon hquote hword =>
    refine fault _ _ (.unexpected ⟨by simpa using hblank, ?_, by simpa using hword⟩)
    simp [hopening, hclosing, hcolon, hquote]

/-! ### Where a token is written -/

/-- A lexeme gives one token or, if it is white space, none. -/
theorem Lexeme.tokens_eq {piece : List Char} {own : List Char → List Token}
    (h : Lexeme piece own) (rest : List Char) : own rest = [] ∨ ∃ token, own rest = [token] := by
  cases h with
  | blank _ => exact .inl rfl
  | _ => exact .inr ⟨_, rfl⟩

/-- A token of a text has a lexeme of its own: the part of the text before it is read as the tokens
before it, and the part behind it as those behind it. -/
def ReadFrom (cs : List Char) (before : List Token) (token : Token) (after : List Token) : Prop :=
  ∃ front piece rest own, cs = front ++ (piece ++ rest) ∧ Reads front before (piece ++ rest) ∧
    Lexeme piece own ∧ own rest = [token] ∧ scan rest = .ok after

/-- What has a lexeme in a text has it behind another part of it. -/
theorem ReadFrom.behind {part cs : List Char} {tokens before after : List Token} {token : Token}
    (h : ReadFrom cs before token after) (hpart : Reads part tokens cs) :
    ReadFrom (part ++ cs) (tokens ++ before) token after := by
  obtain ⟨front, piece, rest, own, rfl, hfront, hpiece, hown, hrest⟩ := h
  exact ⟨part ++ front, piece, rest, own, (List.append_assoc _ _ _).symm, hpart.append hfront,
    hpiece, hown, hrest⟩

/-- **Every token is read from a lexeme of its own.** -/
theorem readFrom_of_scan {cs : List Char} {before after : List Token} {token : Token}
    (h : scan cs = .ok (before ++ token :: after)) : ReadFrom cs before token after := by
  induction cs using lexemeInduction generalizing before with
  | nil =>
    rw [scan_nil] at h
    have hnil := Except.ok.inj h
    simp at hnil
  | lexeme piece own rest hpiece hrest ih =>
    have hreads := hpiece.reads hrest
    rw [hreads] at h
    obtain ⟨more, hmore, htokens⟩ := Expression.exists_of_map_eq_ok h
    rcases hpiece.tokens_eq rest with hnone | ⟨first, hone⟩
    · rw [hnone] at htokens hreads
      rw [show more = before ++ token :: after from htokens] at hmore
      exact (ih hmore).behind hreads
    · rw [hone] at htokens hreads
      cases before with
      | nil =>
        obtain ⟨rfl, rfl⟩ := List.cons.inj htokens
        have hnothing : Reads [] [] (piece ++ rest) :=
          reads_blank (fun c hc => absurd hc List.not_mem_nil) _
        exact ⟨[], piece, rest, own, rfl, hnothing, hpiece, hone, hmore⟩
      | cons first' before =>
        obtain ⟨rfl, htail⟩ := List.cons.inj htokens
        rw [show more = before ++ token :: after from htail] at hmore
        exact (ih hmore).behind hreads
  | fault cs fault hfault =>
    rw [hfault.scan_eq] at h
    cases h

/-! ### Words -/

/-- **What a word is read as**: a keyword, if it spells one; else a field or a value, as a colon
follows or does not. -/
theorem ofWord_cases (word rest : List Char) :
    (∃ op, Spells op word ∧ ofWord word rest = .keyword op) ∨
    ((∀ op, ¬ Spells op word) ∧ colonFollows rest = true ∧
      ofWord word rest = .field (.ofList word)) ∨
    ((∀ op, ¬ Spells op word) ∧ colonFollows rest = false ∧
      ofWord word rest = .value (.ofList word)) := by
  rw [ofWord]
  cases hkeyword : keyword? word with
  | some op => exact .inl ⟨op, keyword?_eq_some_iff.1 hkeyword, rfl⟩
  | none =>
    right
    have hnone : ∀ op, ¬ Spells op word := by
      intro op hop
      rw [keyword?_eq_some_iff.2 hop] at hkeyword
      cases hkeyword
    cases hcolon : colonFollows rest with
    | true => exact .inl ⟨hnone, rfl, rfl⟩
    | false => exact .inr ⟨hnone, rfl, rfl⟩

/-- Only a word that is no keyword is read as a field, and only where a colon follows. -/
theorem ofWord_eq_field {word rest : List Char} {name : String}
    (h : ofWord word rest = .field name) :
    name.toList = word ∧ (∀ op, ¬ Spells op word) ∧ colonFollows rest = true := by
  rcases ofWord_cases word rest with ⟨op, -, hop⟩ | ⟨hnone, hcolon, hfield⟩ | ⟨-, -, hvalue⟩
  · rw [hop] at h
    cases h
  · rw [hfield] at h
    cases h
    exact ⟨String.toList_ofList, hnone, hcolon⟩
  · rw [hvalue] at h
    cases h

/-- No word that a colon follows is read as a value. -/
theorem ofWord_eq_value {word rest : List Char} {content : String}
    (h : ofWord word rest = .value content) : colonFollows rest = false := by
  rcases ofWord_cases word rest with ⟨op, -, hop⟩ | ⟨-, -, hfield⟩ | ⟨-, hcolon, -⟩
  · rw [hop] at h
    cases h
  · rw [hfield] at h
    cases h
  · exact hcolon

/-! ### Names of fields -/

/-- Only words are read as fields, and these are no keywords. -/
theorem Lexeme.isName_of_field {piece rest : List Char} {own : List Char → List Token}
    {name : String} (h : Lexeme piece own) (hname : own rest = [.field name]) :
    IsName name.toList ∧ colonFollows rest = true := by
  cases h with
  | word hword =>
    obtain ⟨hsame, hnone, hcolon⟩ := ofWord_eq_field (List.singleton_inj.1 hname)
    rw [hsame]
    exact ⟨⟨hword, hnone⟩, hcolon⟩
  | _ => simp at hname

/-- **Fields are read with names only.** -/
theorem isName_of_field_mem_scan {cs : List Char} {tokens : List Token} {name : String}
    (h : scan cs = .ok tokens) (hname : .field name ∈ tokens) : IsName name.toList := by
  obtain ⟨before, after, rfl⟩ := List.append_of_mem hname
  obtain ⟨front, piece, rest, own, -, -, hpiece, hown, -⟩ := readFrom_of_scan h
  exact (hpiece.isName_of_field hown).1

/-! ### Texts in front of others -/

/-- **What is read of a text is read in front of another one** that does not go on with its last
word, and as the same tokens when no colon makes a field of that word. -/
theorem exists_reads {cs rest : List Char} {tokens : List Token} (h : scan cs = .ok tokens)
    (hrest : Stops rest) :
    ∃ tokens', Reads cs tokens' rest ∧ (colonFollows rest = false → tokens' = tokens) := by
  induction cs using lexemeInduction generalizing tokens with
  | nil =>
    rw [scan_nil] at h
    exact ⟨[], reads_blank (fun c hc => absurd hc List.not_mem_nil) rest, fun _ => Except.ok.inj h⟩
  | lexeme piece own after hpiece hafter ih =>
    rw [hpiece.reads hafter] at h
    obtain ⟨more, hmore, rfl⟩ := Expression.exists_of_map_eq_ok h
    obtain ⟨more', hreads, hsame⟩ := ih hmore
    -- A word still ends where it did: neither the text behind it nor the rest goes on with it.
    have hfirst : Reads piece (own (after ++ rest)) (after ++ rest) :=
      hpiece.reads fun hword => (hafter hword).append hrest
    refine ⟨own (after ++ rest) ++ more', hfirst.append hreads, fun hcolon => ?_⟩
    rw [hsame hcolon, hpiece.tokens_congr (colonFollows_append hcolon after)]
  | fault cs fault hfault =>
    rw [hfault.scan_eq] at h
    cases h

/-- **A text has a fault where a part with tokens ends in front of no lexeme.** -/
theorem scan_eq_error_iff {cs : List Char} {fault : ScanFault} :
    scan cs = .error fault ↔
      ∃ before rest, cs = before ++ rest ∧ Lexes before ∧ FaultAt rest fault := by
  constructor
  · intro h
    induction cs using lexemeInduction with
    | nil =>
      rw [scan_nil] at h
      cases h
    | lexeme piece own after hpiece hafter ih =>
      rw [hpiece.reads hafter] at h
      obtain ⟨before, rest, rfl, ⟨tokens, hbefore⟩, hfault⟩ :=
        ih (Expression.eq_error_of_map_eq_error h)
      have hreads := hpiece.reads fun hword => (hafter hword).of_append
      exact ⟨piece ++ before, rest, (List.append_assoc _ _ _).symm,
        ⟨_, hreads.scan_eq hbefore⟩, hfault⟩
    | fault cs fault' hfault =>
      rw [hfault.scan_eq] at h
      cases h
      exact ⟨[], cs, rfl, ⟨[], scan_nil⟩, hfault⟩
  · rintro ⟨before, rest, rfl, ⟨tokens, hbefore⟩, hfault⟩
    obtain ⟨tokens', hreads, -⟩ := exists_reads hbefore hfault.stops
    rw [hreads, hfault.scan_eq]
    rfl

end BriefSearch.Token
