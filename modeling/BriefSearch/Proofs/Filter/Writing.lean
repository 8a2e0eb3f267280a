import BriefSearch.Proofs.Filter.Grammar
import BriefSearch.Proofs.Filter.Lexemes

/-!
# Writing filter expressions

The ways to write statements, as relations between statements and characters, and what the reader
makes of them.

* **`Statement.Writable`** — what the language can say: filters and flat groups of filters;
* **`Written`** — a text writes statements: values with or without quotes, groups with or without
  their field in front, keywords in upper or lower case, white space wherever tokens meet;
* **`parse_of_written`** — all writings are read back;
* **`exists_written`**, **`writable_of_parse`** — the writable lists are those that are read;
* **`writing_roundTrip`** — the three together.
-/

namespace BriefSearch

open Text Token

/-! ### Writable statements -/

/-- The field can be named. -/
def Filter.Named (f : Filter) : Prop :=
  IsName f.name.toList

instance (f : Filter) : Decidable f.Named :=
  inferInstanceAs (Decidable (IsName f.name.toList))

/-- A filter or a flat group of filters; a single filter is joined by OR. -/
def Statement.Writable : Statement → Prop
  | .filter f => f.Named
  | .group op ss => ∃ fs : List Filter, ss = fs.map .filter ∧ fs ≠ [] ∧
      (fs.length = 1 → op = .or) ∧ ∀ f ∈ fs, f.Named

namespace Expression

/-! ### Ways of writing -/

/-- A value between quotes, or a name on its own. -/
inductive WritesValue (text : String) : List Char → Prop
  | quoted : WritesValue text ('"' :: (quotedBody text.toList ++ ['"']))
  | bare (h : IsName text.toList) : WritesValue text text.toList

/-- A field, a colon and a value. -/
inductive WritesFilter (f : Filter) : List Char → Prop
  | mk {s₁ s₂ t : List Char} (h₁ : IsBlank s₁) (h₂ : IsBlank s₂) (ht : WritesValue f.value t) :
      WritesFilter f (f.name.toList ++ s₁ ++ [':'] ++ s₂ ++ t)

/-- Things written one after the other with separators between them. -/
inductive Joined {α : Type} (writes : α → List Char → Prop) (separates : List Char → Prop) :
    List α → List Char → Prop
  | single {a : α} {t : List Char} (h : writes a t) : Joined writes separates [a] t
  | cons {a : α} {as : List α} {t s t' : List Char} (h : writes a t) (hs : separates s)
      (h' : Joined writes separates as t') : Joined writes separates (a :: as) (t ++ s ++ t')

/-- An operator's keyword with white space on both sides. -/
inductive SetOff (op : Operator) : List Char → Prop
  | mk {s₁ word s₂ : List Char} (h₁ : IsGap s₁) (hw : Spells op word) (h₂ : IsGap s₂) :
      SetOff op (s₁ ++ word ++ s₂)

/-- A filter, or a group between parentheses; the field stands in front of them when all filters
agree on it. -/
inductive WritesStatement : Statement → List Char → Prop
  | filter {f : Filter} {t : List Char} (ht : WritesFilter f t) : WritesStatement (.filter f) t
  | filters {op : Operator} {fs : List Filter} {s₁ t s₂ : List Char} (h₁ : IsBlank s₁)
      (ht : Joined WritesFilter (SetOff op) fs t) (h₂ : IsBlank s₂) :
      WritesStatement (.group op (fs.map .filter)) (['('] ++ s₁ ++ t ++ s₂ ++ [')'])
  | values {op : Operator} {name : String} {texts : List String} {s₁ s₂ s₃ t s₄ : List Char}
      (h₁ : IsBlank s₁) (h₂ : IsBlank s₂) (h₃ : IsBlank s₃)
      (ht : Joined WritesValue (SetOff op) texts t) (h₄ : IsBlank s₄) :
      WritesStatement (.group op ((texts.map (Filter.mk name)).map .filter))
        (name.toList ++ s₁ ++ [':'] ++ s₂ ++ ['('] ++ s₃ ++ t ++ s₄ ++ [')'])

/-- What stands between terms: white space, or AND set off by it. -/
inductive Separates : List Char → Prop
  | gap {s : List Char} (h : IsGap s) : Separates s
  | conjunction {s : List Char} (h : SetOff .and s) : Separates s

/-- A text that writes statements one after the other. -/
inductive Written : List Statement → List Char → Prop
  | blank {s : List Char} (h : IsBlank s) : Written [] s
  | terms {ss : List Statement} {s₁ t s₂ : List Char} (h₁ : IsBlank s₁)
      (ht : Joined WritesStatement Separates ss t) (h₂ : IsBlank s₂) : Written ss (s₁ ++ t ++ s₂)

/-! ### Reading filters -/

theorem reads_value {text : String} {t rest : List Char} (h : WritesValue text t)
    (hrest : Closed rest) : Reads t [.value text] rest := by
  cases h with
  | quoted => exact reads_quoted text rest
  | bare h => exact reads_bare h hrest

theorem reads_filter {f : Filter} {t rest : List Char} (hf : f.Named) (h : WritesFilter f t)
    (hrest : Closed rest) : Reads t (filterTokens f) rest := by
  obtain ⟨h₁, h₂, ht⟩ := h
  have hname := reads_field hf h₁
  exact ((((hname _).append (reads_blank h₁ _)).append (reads_colon _)).append
    (reads_blank h₂ _)).append (reads_value ht hrest)

/-! ### Reading groups -/

/-- A keyword ends the value in front of it. -/
theorem closed_setOff {op : Operator} {s : List Char} (h : SetOff op s) (rest : List Char) :
    Closed (s ++ rest) := by
  obtain ⟨h₁, hw, h₂⟩ := h
  rw [List.append_assoc, List.append_assoc]
  exact closed_gap h₁ (colonFollows_word (isWord_of_spells hw) _)

theorem reads_setOff {op : Operator} {s : List Char} (h : SetOff op s) (rest : List Char) :
    Reads s [.keyword op] rest := by
  obtain ⟨h₁, hw, h₂⟩ := h
  exact ((reads_blank h₁.2 _).append (reads_keyword hw (stops_gap h₂ rest))).append
    (reads_blank h₂.2 rest)

section

variable {α : Type} (item : Item α)

/-- The series of one item and others. -/
def Series.ofList (op : Operator) (a : α) : List α → Series α
  | [] => .single a
  | b :: more => .several op a b more

theorem Series.toList_ofList (op : Operator) (a : α) (more : List α) :
    (Series.ofList op a more).toList = a :: more := by
  cases more <;> rfl

/-- The operator of a series, where a single item counts as joined by OR. -/
theorem Series.operator_ofList {op : Operator} {a : α} {more : List α}
    (hop : (a :: more).length = 1 → op = .or) :
    (Series.ofList op a more).operator?.getD .or = op := by
  cases more with
  | nil => exact (hop rfl).symm
  | cons b more => rfl

theorem Series.tokens_ofList (op : Operator) (a : α) (more : List α) :
    (Series.ofList op a more).tokens item = item.tokens a ++ Series.moreTokens item op more := by
  cases more with
  | nil => exact (List.append_nil _).symm
  | cons b more => rfl

/-- **Joined items are read as a series of them.** -/
theorem exists_series {writes : α → List Char → Prop} {op : Operator} {as : List α}
    {t : List Char} (h : Joined writes (SetOff op) as t)
    (hitem : ∀ a ∈ as, ∀ t rest, writes a t → Closed rest → Reads t (item.tokens a) rest) :
    ∃ a more, as = a :: more ∧ ∀ rest, Closed rest →
      Reads t ((Series.ofList op a more).tokens item) rest := by
  induction h with
  | single h =>
    refine ⟨_, [], rfl, ?_⟩
    intro rest hrest
    exact hitem _ List.mem_cons_self _ _ h hrest
  | @cons a as t s t' h hs h' ih =>
    obtain ⟨b, more, rfl, hmore⟩ := ih fun a ha => hitem a (List.mem_cons_of_mem _ ha)
    refine ⟨a, b :: more, rfl, ?_⟩
    intro rest hrest
    have hfirst : Reads t (item.tokens a) (s ++ (t' ++ rest)) :=
      hitem a List.mem_cons_self _ _ h (closed_setOff hs _)
    have htokens : (Series.ofList op a (b :: more)).tokens item
        = item.tokens a ++ [.keyword op] ++ (Series.ofList op b more).tokens item := by
      rw [Series.tokens_ofList, Series.tokens_ofList, List.append_assoc]
      rfl
    rw [htokens]
    exact (hfirst.append (reads_setOff hs _)).append (hmore rest hrest)

end

/-! ### Reading statements -/

/-- What is written between parentheses is read in front of the closing one. -/
theorem reads_closed {s₁ t s₂ : List Char} {tokens : List Token} (h₁ : IsBlank s₁)
    (ht : ∀ rest, Closed rest → Reads t tokens rest) (h₂ : IsBlank s₂) (rest : List Char) :
    Reads (['('] ++ s₁ ++ t ++ s₂ ++ [')']) (.opening :: (tokens ++ [.closing])) rest := by
  have hopening : Reads (['('] ++ s₁) [.opening] (t ++ (s₂ ++ ([')'] ++ rest))) :=
    (reads_opening _).append (reads_blank h₁ _)
  have hinner : Reads t tokens (s₂ ++ ([')'] ++ rest)) := ht _ (closed_closing h₂ rest)
  have hall := ((hopening.append hinner).append (reads_blank h₂ _)).append (reads_closing rest)
  rwa [List.append_nil] at hall

/-- A field and its colon are read in front of a group of values. -/
theorem reads_fieldColon {name : String} {s₁ s₂ : List Char} (hname : IsName name.toList)
    (h₁ : IsBlank s₁) (h₂ : IsBlank s₂) (rest : List Char) :
    Reads (name.toList ++ s₁ ++ [':'] ++ s₂) [.field name, .colon] rest :=
  (((reads_field hname h₁ _).append (reads_blank h₁ _)).append (reads_colon _)).append
    (reads_blank h₂ rest)

theorem filter_inj {fs fs' : List Filter}
    (h : fs.map Statement.filter = fs'.map Statement.filter) : fs = fs' :=
  (List.map_inj_right fun _ _ => Statement.filter.inj).1 h

/-- **A written statement is read as a term that derives it.** -/
theorem exists_term {s : Statement} {t : List Char} (hs : s.Writable)
    (h : WritesStatement s t) : ∃ term : Term, term.statement = s ∧
      ∀ rest, Closed rest → Reads t term.tokens rest := by
  cases h with
  | @filter f t ht => exact ⟨.filter f, rfl, fun rest hrest => reads_filter hs ht hrest⟩
  | @filters op fs s₁ t s₂ h₁ ht h₂ =>
    obtain ⟨fs', hfs, -, hop, hnamed⟩ := hs
    obtain rfl := filter_inj hfs
    obtain ⟨f, more, rfl, hseries⟩ := exists_series .filter ht
      fun f hf t rest hw hrest => reads_filter (hnamed f hf) hw hrest
    refine ⟨.filters (.ofList op f more), ?_, ?_⟩
    · rw [Term.statement, Series.operator_ofList hop, Series.toList_ofList]
    · intro rest _
      exact reads_closed h₁ hseries h₂ rest
  | @values op name texts s₁ s₂ s₃ t s₄ h₁ h₂ h₃ ht h₄ =>
    obtain ⟨fs, hfs, -, hop, hnamed⟩ := hs
    obtain rfl := filter_inj hfs
    obtain ⟨text, more, rfl, hseries⟩ := exists_series .value ht
      fun text _ t rest hw hrest => reads_value hw hrest
    have hname : IsName name.toList := hnamed ⟨name, text⟩ List.mem_cons_self
    rw [List.length_map] at hop
    refine ⟨.values name (.ofList op text more), ?_, ?_⟩
    · rw [Term.statement, Series.operator_ofList hop, Series.toList_ofList, List.map_map]
      rfl
    · intro rest _
      have hall := (reads_fieldColon hname h₁ h₂ _).append (reads_closed h₃ hseries h₄ rest)
      rwa [← List.append_assoc, ← List.append_assoc, ← List.append_assoc,
        ← List.append_assoc] at hall

/-- No statement begins with a colon. -/
theorem colonFollows_statement {s : Statement} {t : List Char} (hs : s.Writable)
    (h : WritesStatement s t) (rest : List Char) : colonFollows (t ++ rest) = false := by
  cases h with
  | @filter f t ht =>
    obtain ⟨h₁, h₂, ht⟩ := ht
    rw [List.append_assoc, List.append_assoc, List.append_assoc, List.append_assoc]
    exact colonFollows_word hs.1 _
  | @filters op fs s₁ t s₂ h₁ ht h₂ => exact colonFollows_cons (by decide) _
  | @values op name texts s₁ s₂ s₃ t s₄ h₁ h₂ h₃ ht h₄ =>
    obtain ⟨fs, hfs, hne, hop, hnamed⟩ := hs
    obtain rfl := filter_inj hfs
    obtain ⟨f, hf⟩ := List.exists_mem_of_ne_nil _ hne
    obtain ⟨text, -, rfl⟩ := List.mem_map.1 hf
    have hname : IsName name.toList := hnamed _ hf
    simp only [List.append_assoc]
    exact colonFollows_word hname.1 _

theorem exists_conjoined {s : List Char} (h : Separates s) (rest : List Char) :
    ∃ conjoined, Reads s (conjunction conjoined) rest := by
  cases h with
  | gap h => exact ⟨false, reads_blank h.2 rest⟩
  | conjunction h => exact ⟨true, reads_setOff h rest⟩

theorem closed_separates {s rest : List Char} (h : Separates s)
    (hrest : colonFollows rest = false) : Closed (s ++ rest) := by
  cases h with
  | gap h => exact closed_gap h hrest
  | conjunction h => exact closed_setOff h rest

/-- **Joined statements are read as clauses that derive them.** -/
theorem exists_clauses_of_joined {ss : List Statement} {t : List Char}
    (hss : ∀ s ∈ ss, s.Writable) (h : Joined WritesStatement Separates ss t)
    (rest : List Char) (hrest : Closed rest) :
    ∃ clauses, statementsOf clauses = ss ∧ Reads t (tokensOf clauses) rest ∧
      colonFollows (t ++ rest) = false := by
  -- A term is closed off by what is behind it, so the terms behind come first.
  induction h with
  | @single s t h =>
    have hs : s.Writable := hss s List.mem_cons_self
    obtain ⟨term, rfl, hterm⟩ := exists_term hs h
    refine ⟨[⟨term, false⟩], rfl, ?_, colonFollows_statement hs h rest⟩
    have htokens : tokensOf [⟨term, false⟩] = term.tokens := by
      rw [tokensOf_cons]
      exact List.append_nil _
    rw [htokens]
    exact hterm rest hrest
  | @cons s ss t sep t' h hsep h' ih =>
    have hs : s.Writable := hss s List.mem_cons_self
    obtain ⟨clauses, rfl, hclauses, hcolon⟩ := ih fun s hs => hss s (List.mem_cons_of_mem _ hs)
    obtain ⟨term, rfl, hterm⟩ := exists_term hs h
    obtain ⟨conjoined, hconjoined⟩ := exists_conjoined hsep (t' ++ rest)
    refine ⟨⟨term, conjoined⟩ :: clauses, rfl, ?_, ?_⟩
    · rw [tokensOf_cons, ← List.append_assoc]
      have hfirst : Reads t term.tokens (sep ++ (t' ++ rest)) :=
        hterm _ (closed_separates hsep hcolon)
      exact (hfirst.append hconjoined).append hclauses
    · rw [List.append_assoc, List.append_assoc]
      exact colonFollows_statement hs h _

theorem scan_blank {s : List Char} (hs : IsBlank s) : scan s = .ok [] := by
  have h := (reads_blank hs []).scan_eq scan_nil
  rwa [List.append_nil] at h

/-- **All writings of writable statements are read back.** -/
theorem parse_of_written {ss : List Statement} {text : String} (hss : ∀ s ∈ ss, s.Writable)
    (h : Written ss text.toList) : parse text = .ok ss := by
  have hclauses : ∃ clauses, statementsOf clauses = ss ∧
      scan text.toList = .ok (tokensOf clauses) := by
    generalize text.toList = cs at h
    cases h with
    | blank hs => exact ⟨[], rfl, scan_blank hs⟩
    | @terms ss s₁ t s₂ h₁ ht h₂ =>
      obtain ⟨clauses, hclauses, hreads, -⟩ :=
        exists_clauses_of_joined hss ht s₂ (closed_blank h₂)
      refine ⟨clauses, hclauses, ?_⟩
      have hall := ((reads_blank h₁ _).append hreads).scan_eq (scan_blank h₂)
      rwa [List.append_nil] at hall
  obtain ⟨clauses, rfl, hscan⟩ := hclauses
  exact parse_of_scan hscan

/-! ### What is read can be written -/

theorem Series.toList_ne_nil {α : Type} (series : Series α) : series.toList ≠ [] := by
  cases series <;> exact List.cons_ne_nil _ _

/-- A single item has no keyword beside it. -/
theorem Series.operator_of_length {α : Type} {series : Series α}
    (h : series.toList.length = 1) : series.operator?.getD .or = .or := by
  cases series with
  | single a => rfl
  | several op a b more => cases h

theorem Series.mem_tokens {α : Type} (item : Item α) {series : Series α} {a : α} {token : Token}
    (ha : a ∈ series.toList) (h : token ∈ item.tokens a) : token ∈ series.tokens item := by
  cases series with
  | single b =>
    obtain rfl := List.mem_singleton.1 ha
    exact h
  | several op b c more =>
    rcases List.mem_cons.1 ha with rfl | ha
    · exact List.mem_append_left _ h
    · exact List.mem_append_right _ (List.mem_flatMap.2 ⟨a, ha, List.mem_cons_of_mem _ h⟩)

/-- A term whose fields have names derives a writable statement. -/
theorem Term.statement_writable {t : Term}
    (h : ∀ name, .field name ∈ t.tokens → IsName name.toList) : t.statement.Writable := by
  cases t with
  | filter f => exact h f.name List.mem_cons_self
  | values name series =>
    have hname : IsName name.toList := h name List.mem_cons_self
    refine ⟨series.toList.map (Filter.mk name), ?_, ?_, ?_, ?_⟩
    · rw [List.map_map]
      rfl
    · rw [Ne, List.map_eq_nil_iff]
      exact series.toList_ne_nil
    · rw [List.length_map]
      exact Series.operator_of_length
    · intro f hf
      obtain ⟨text, -, rfl⟩ := List.mem_map.1 hf
      exact hname
  | filters series =>
    refine ⟨series.toList, rfl, series.toList_ne_nil, Series.operator_of_length, ?_⟩
    intro f hf
    have hfield : Token.field f.name ∈ series.tokens .filter :=
      Series.mem_tokens .filter hf List.mem_cons_self
    exact h f.name (List.mem_cons_of_mem _ (List.mem_append_left _ hfield))

/-- **Only writable statements are read.** -/
theorem writable_of_parse {text : String} {ss : List Statement} (h : parse text = .ok ss) :
    ∀ s ∈ ss, s.Writable := by
  intro s hs
  obtain ⟨clauses, hscan, rfl⟩ := parse_eq_ok_iff.1 h
  obtain ⟨c, hc, rfl⟩ := List.mem_map.1 hs
  refine Term.statement_writable fun name hname => isName_of_field_mem_scan hscan ?_
  exact List.mem_flatMap.2 ⟨c, hc, List.mem_append_left _ hname⟩

/-! ### What is writable can be written -/

theorem isBlank_nil : IsBlank [] := by
  decide

theorem isGap_space : IsGap [' '] := by
  decide

theorem exists_joined {α : Type} {writes : α → List Char → Prop} {separates : List Char → Prop}
    {as : List α} (hne : as ≠ []) (hwrites : ∀ a ∈ as, ∃ t, writes a t)
    (hseparates : ∃ s, separates s) : ∃ t, Joined writes separates as t := by
  obtain ⟨s, hs⟩ := hseparates
  induction as with
  | nil => exact absurd rfl hne
  | cons a as ih =>
    obtain ⟨t, ht⟩ := hwrites a List.mem_cons_self
    rcases as with _ | ⟨b, as⟩
    · exact ⟨t, .single ht⟩
    · obtain ⟨t', ht'⟩ := ih (List.cons_ne_nil b as) fun c hc =>
        hwrites c (List.mem_cons_of_mem a hc)
      exact ⟨_, .cons ht hs ht'⟩

theorem exists_writesFilter (f : Filter) : ∃ t, WritesFilter f t :=
  ⟨_, .mk isBlank_nil isBlank_nil .quoted⟩

theorem exists_writesStatement {s : Statement} (hs : s.Writable) :
    ∃ t, WritesStatement s t := by
  cases s with
  | filter f =>
    obtain ⟨t, ht⟩ := exists_writesFilter f
    exact ⟨t, .filter ht⟩
  | group op ss =>
    obtain ⟨fs, rfl, hne, -, -⟩ := hs
    have hkeyword : SetOff op ([' '] ++ op.word.toList ++ [' ']) :=
      .mk isGap_space rfl isGap_space
    obtain ⟨t, ht⟩ := exists_joined hne (fun f _ => exists_writesFilter f) ⟨_, hkeyword⟩
    exact ⟨_, .filters isBlank_nil ht isBlank_nil⟩

/-- **Writable statements can be written.** -/
theorem exists_written {ss : List Statement} (hss : ∀ s ∈ ss, s.Writable) :
    ∃ text : String, Written ss text.toList := by
  have h : ∃ t, Written ss t := by
    by_cases hne : ss = []
    · subst hne
      exact ⟨[], .blank isBlank_nil⟩
    · obtain ⟨t, ht⟩ := exists_joined hne (fun s hs => exists_writesStatement (hss s hs))
        ⟨_, Separates.gap isGap_space⟩
      exact ⟨_, .terms isBlank_nil ht isBlank_nil⟩
  obtain ⟨t, ht⟩ := h
  refine ⟨.ofList t, ?_⟩
  rwa [String.toList_ofList]

/-- **The language round-trips.**  Every way of writing writable statements is read back as these
statements, there is one for each list of them, and no others are ever read. -/
theorem writing_roundTrip :
    (∀ (ss : List Statement) (text : String), (∀ s ∈ ss, s.Writable) →
      Written ss text.toList → parse text = .ok ss) ∧
    (∀ ss : List Statement, (∀ s ∈ ss, s.Writable) → ∃ text : String, Written ss text.toList) ∧
    (∀ (text : String) (ss : List Statement), parse text = .ok ss → ∀ s ∈ ss, s.Writable) :=
  ⟨fun _ _ => parse_of_written, fun _ => exists_written, fun _ _ => writable_of_parse⟩

/-- White space, keywords in mixed case, quotes inside a value and a value that needs them. -/
theorem parse_mixed_writing :
    parse "title :\"a \\\"b\\\"\" aNd\u00a0x-1:( y or \"OR\")" = .ok
      [.filter ⟨"title", "a \"b\""⟩,
        .group .or [.filter ⟨"x-1", "y"⟩, .filter ⟨"x-1", "OR"⟩]] := by
  have hfilter : WritesFilter ⟨"title", "a \"b\""⟩
      ("title".toList ++ [' '] ++ [':'] ++ [] ++
        '"' :: (quotedBody "a \"b\"".toList ++ ['"'])) :=
    .mk (by decide) (by decide) .quoted
  have hvalues : Joined WritesValue (SetOff .or) ["y", "OR"]
      ("y".toList ++ ([' '] ++ ['o', 'r'] ++ [' ']) ++
        '"' :: (quotedBody "OR".toList ++ ['"'])) :=
    .cons (.bare (by decide)) (.mk (by decide) (by decide) (by decide)) (.single .quoted)
  have hand : SetOff .and ([' '] ++ ['a', 'N', 'd'] ++ ['\u00a0']) :=
    .mk (by decide) (by decide) (by decide)
  have hgroup := @WritesStatement.values .or "x-1" ["y", "OR"] [] [] [' '] _ [] (by decide)
    (by decide) (by decide) hvalues (by decide)
  have hwritten := @Written.terms _ [] _ [] (by decide)
    (.cons (.filter hfilter) (.conjunction hand) (.single hgroup)) (by decide)
  refine writing_roundTrip.1 _ _ ?_ hwritten
  intro s hs
  rcases List.mem_cons.1 hs with rfl | hs
  · show Filter.Named _
    decide
  · obtain rfl := List.mem_singleton.1 hs
    exact ⟨[⟨"x-1", "y"⟩, ⟨"x-1", "OR"⟩], rfl, by decide, by decide, by decide⟩

end Expression

end BriefSearch
