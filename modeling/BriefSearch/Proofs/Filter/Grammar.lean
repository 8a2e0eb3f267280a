import BriefSearch.Filter.Expression

/-!
# The grammar of the filter language

    expression = { term [AND] }
    term       = Field Colon Value
               | Field Colon LParen Value { OP Value } RParen
               | LParen Field Colon Value { OP Field Colon Value } RParen

where all operators of one group are the same.  Derivations are trees; their tokens and their
statements are read off the tree without looking at the reader.

* **`Clause`** — a term as it is derived, with or without the AND behind it;
* **`statements_tokensOf`**, **`exists_clauses`** — derived tokens are read as the statements of
  their derivation, and no others are read;
* **`tokensOf_injective`** — tokens have at most one derivation;
* **`statements_misordered`** — what is reported of tokens that have none;
* **`statements_iff_derivation`** — the reader accepts exactly the grammar.
-/

namespace BriefSearch.Expression

/-! ### Derivations -/

/-- The items between parentheses: one on its own, or several with one operator between them. -/
inductive Series (α : Type) where
  | single (a : α)
  | several (operator : Operator) (first second : α) (more : List α)
  deriving DecidableEq

namespace Series

variable {α : Type}

/-- The operator between the items, if there is one. -/
def operator? : Series α → Option Operator
  | single _ => none
  | several op _ _ _ => some op

/-- The items in order. -/
def toList : Series α → List α
  | single a => [a]
  | several _ a b more => a :: b :: more

/-- The tokens of keywords and the items behind them. -/
def moreTokens (item : Item α) (op : Operator) (as : List α) : List Token :=
  as.flatMap fun a => .keyword op :: item.tokens a

/-- The tokens of the items with the keywords between them. -/
def tokens (item : Item α) : Series α → List Token
  | single a => item.tokens a
  | several op a b more => item.tokens a ++ moreTokens item op (b :: more)

/-- What is read of a series with tokens behind its parenthesis. -/
def read (series : Series α) (rest : List Token) : Items α :=
  ⟨series.operator?, series.toList, rest⟩

theorem read_injective {series series' : Series α} {rest rest' : List Token}
    (h : series.read rest = series'.read rest') : series = series' ∧ rest = rest' := by
  cases series <;> cases series' <;> cases h
  · exact ⟨rfl, rfl⟩
  · exact ⟨rfl, rfl⟩

end Series

/-- A term as the grammar derives it. -/
inductive Term where
  | filter (f : Filter)
  | values (field : String) (series : Series String)
  | filters (series : Series Filter)
  deriving DecidableEq

namespace Term

/-- The tokens of a term. -/
def tokens : Term → List Token
  | filter f => filterTokens f
  | values field series =>
    .field field :: .colon :: .opening :: (series.tokens .value ++ [.closing])
  | filters series => .opening :: (series.tokens .filter ++ [.closing])

/-- The statement of a term: a group takes the operator of its keyword and OR when it has a single
item. -/
def statement : Term → Statement
  | filter f => .filter f
  | values field series =>
    .group (series.operator?.getD .or) (series.toList.map fun text => .filter ⟨field, text⟩)
  | filters series => .group (series.operator?.getD .or) (series.toList.map .filter)

end Term

/-- A term and whether AND stands behind it. -/
structure Clause where
  term : Term
  /-- Holds when AND stands behind the term. -/
  conjoined : Bool
  deriving DecidableEq

/-- The AND behind a term, if there is one. -/
def conjunction : Bool → List Token
  | true => [.keyword .and]
  | false => []

/-- The tokens that clauses derive. -/
def tokensOf (clauses : List Clause) : List Token :=
  clauses.flatMap fun c => c.term.tokens ++ conjunction c.conjoined

/-- The statements that clauses derive. -/
def statementsOf (clauses : List Clause) : List Statement :=
  clauses.map (·.term.statement)

/-! ### Groups -/

section

variable {α : Type} (item : Item α)

theorem moreItems_closing (op : Option Operator) (rest : List Token) :
    moreItems item op (.closing :: rest) = .ok ⟨op, [], rest⟩ := by
  rw [moreItems]

/-- A keyword that fits and the item behind it are read before the others. -/
theorem moreItems_keyword {op : Option Operator} {next : Operator} (hop : clashes op next = false)
    (a : α) (rest : List Token) :
    moreItems item op (.keyword next :: (item.tokens a ++ rest))
      = (moreItems item (some next) rest).map (.cons a) := by
  rw [moreItems, hop]
  have hread : item.read (item.tokens a ++ rest) = .ok (a, rest) := item.read_eq_ok_iff.2 rfl
  simp only [Bool.false_eq_true, if_false]
  split
  · rename_i hfault
    rw [hread] at hfault
    cases hfault
  · rename_i hok
    rw [hread] at hok
    cases hok
    rfl

theorem moreItems_moreTokens (op : Operator) (as : List α) (rest : List Token) :
    moreItems item (some op) (Series.moreTokens item op as ++ .closing :: rest)
      = .ok ⟨some op, as, rest⟩ := by
  induction as with
  | nil => exact moreItems_closing item (some op) rest
  | cons a as ih =>
    have hop : clashes (some op) op = false := by simp [clashes]
    rw [Series.moreTokens, List.flatMap_cons, ← Series.moreTokens, List.cons_append,
      List.cons_append, List.append_assoc, moreItems_keyword item hop, ih]
    rfl

/-- Once the operator of a group is known, what is read is keywords of it and items. -/
theorem exists_moreTokens {op : Operator} {tokens : List Token} {tail : Items α}
    (h : moreItems item (some op) tokens = .ok tail) :
    tokens = Series.moreTokens item op tail.items ++ .closing :: tail.rest ∧
      tail.operator = some op := by
  generalize hop : some op = known at h
  fun_induction moreItems item known tokens generalizing tail with
  | case1 known rest =>
    cases h
    subst hop
    exact ⟨rfl, rfl⟩
  | case4 known next tokens hclash a rest hread ih =>
    obtain ⟨more, hmore, rfl⟩ := exists_of_map_eq_ok h
    subst hop
    have hnext : op = next := by simpa [clashes] using hclash
    subst hnext
    obtain ⟨htokens, hoperator⟩ := ih rfl hmore
    refine ⟨?_, hoperator⟩
    rw [item.read_eq_ok_iff.1 hread, htokens]
    simp [Items.cons, Series.moreTokens]
  | _ => cases h

/-- **The items of a group are read as the series that its tokens write.** -/
theorem items_eq_ok_iff {tokens : List Token} {tail : Items α} :
    items item tokens = .ok tail ↔ ∃ (series : Series α) (rest : List Token),
      series.read rest = tail ∧ tokens = series.tokens item ++ .closing :: rest := by
  constructor
  · intro h
    unfold items at h
    split at h
    · cases h
    · rename_i a rest hread
      obtain ⟨more, hmore, rfl⟩ := exists_of_map_eq_ok h
      rw [item.read_eq_ok_iff.1 hread]
      unfold moreItems at hmore
      split at hmore
      · cases hmore
        exact ⟨.single a, _, rfl, rfl⟩
      · rename_i next tokens'
        -- With no operator known, the first keyword fits and fixes it.
        split at hmore
        · cases hmore
        · split at hmore
          · cases hmore
          · rename_i b rest' hread'
            obtain ⟨more', hmore', rfl⟩ := exists_of_map_eq_ok hmore
            obtain ⟨htokens, hoperator⟩ := exists_moreTokens item hmore'
            refine ⟨.several next a b more'.items, more'.rest, ?_, ?_⟩
            · rw [Series.read, Series.operator?, ← hoperator]
              rfl
            · rw [item.read_eq_ok_iff.1 hread', htokens]
              simp [Series.tokens, Series.moreTokens]
      · cases hmore
  · rintro ⟨series, rest, rfl, rfl⟩
    cases series with
    | single a =>
      have hread : item.read (item.tokens a ++ .closing :: rest) = .ok (a, .closing :: rest) :=
        item.read_eq_ok_iff.2 rfl
      rw [Series.tokens, items, hread]
      dsimp only
      rw [moreItems_closing]
      rfl
    | several op a b more =>
      have hread : item.read (item.tokens a ++ (.keyword op :: (item.tokens b ++
          (Series.moreTokens item op more ++ .closing :: rest)))) = .ok (a, _) :=
        item.read_eq_ok_iff.2 rfl
      have htokens : (Series.several op a b more).tokens item ++ .closing :: rest
          = item.tokens a ++ (.keyword op :: (item.tokens b ++
            (Series.moreTokens item op more ++ .closing :: rest))) := by
        simp [Series.tokens, Series.moreTokens]
      rw [htokens, items, hread]
      dsimp only
      rw [moreItems_keyword item rfl, moreItems_moreTokens]
      rfl

/-- A series ends where its parenthesis closes. -/
theorem series_tokens_inj {series series' : Series α} {rest rest' : List Token}
    (h : series.tokens item ++ .closing :: rest = series'.tokens item ++ .closing :: rest') :
    series = series' ∧ rest = rest' := by
  have hread := (items_eq_ok_iff item).2 ⟨series, rest, rfl, rfl⟩
  have hread' := (items_eq_ok_iff item).2 ⟨series', rest', rfl, h⟩
  rw [hread] at hread'
  exact Series.read_injective (Except.ok.inj hread')

end

/-! ### Terms -/

/-- **A term is read as the statement that its tokens derive.** -/
theorem term_eq_ok_iff {tokens rest : List Token} {s : Statement} :
    term tokens = .ok (s, rest) ↔ ∃ t : Term, t.statement = s ∧ tokens = t.tokens ++ rest := by
  constructor
  · intro h
    unfold term at h
    split at h
    · obtain ⟨tail, hitems, he⟩ := exists_of_map_eq_ok h
      obtain ⟨series, rest', rfl, rfl⟩ := (items_eq_ok_iff Item.filter).1 hitems
      cases he
      refine ⟨.filters series, rfl, ?_⟩
      simp [Term.tokens, Series.read]
    · split at h
      · cases h
      · rename_i name more hfield
        obtain ⟨tail, hitems, he⟩ := exists_of_map_eq_ok h
        obtain ⟨series, rest', rfl, rfl⟩ := (items_eq_ok_iff Item.value).1 hitems
        cases he
        refine ⟨.values name series, ?_, ?_⟩
        · rw [grouped, List.map_map]
          rfl
        · rw [field_eq_ok_iff.1 hfield]
          simp [Term.tokens, Series.read]
      · rename_i hfield
        obtain ⟨⟨text, more⟩, hvalue, he⟩ := exists_of_map_eq_ok h
        cases he
        refine ⟨.filter ⟨_, text⟩, rfl, ?_⟩
        rw [field_eq_ok_iff.1 hfield, value_eq_ok_iff.1 hvalue]
        rfl
  · rintro ⟨t, rfl, rfl⟩
    cases t with
    | filter f => rfl
    | values name series =>
      have hitems := (items_eq_ok_iff Item.value).2 ⟨series, rest, rfl, rfl⟩
      have htokens : (Term.values name series).tokens ++ rest
          = .field name :: .colon :: .opening :: (series.tokens .value ++ .closing :: rest) := by
        simp [Term.tokens]
      rw [htokens]
      show valueGroup name _ = _
      rw [valueGroup, hitems]
      show Except.ok (grouped series.operator? (series.toList.map (⟨name, ·⟩)), rest) = _
      rw [grouped, List.map_map]
      rfl
    | filters series =>
      have hitems := (items_eq_ok_iff Item.filter).2 ⟨series, rest, rfl, rfl⟩
      have htokens : (Term.filters series).tokens ++ rest
          = .opening :: (series.tokens .filter ++ .closing :: rest) := by
        simp [Term.tokens]
      rw [htokens]
      show filterGroup _ = _
      rw [filterGroup, hitems]
      rfl

/-- The tokens of a term say which term it is and where it ends. -/
theorem term_tokens_inj {t t' : Term} {rest rest' : List Token}
    (h : t.tokens ++ rest = t'.tokens ++ rest') : t = t' ∧ rest = rest' := by
  cases t with
  | filter f =>
    cases t' with
    | filter f' =>
      obtain ⟨name, text⟩ := f
      obtain ⟨name', text'⟩ := f'
      cases h
      exact ⟨rfl, rfl⟩
    | values name' series' => cases h
    | filters series' => cases h
  | values name series =>
    cases t' with
    | filter f' => cases h
    | values name' series' =>
      simp only [Term.tokens, List.cons_append, List.append_assoc, List.nil_append,
        List.cons.injEq, Token.field.injEq, true_and] at h
      obtain ⟨rfl, h⟩ := h
      obtain ⟨rfl, rfl⟩ := series_tokens_inj Item.value h
      exact ⟨rfl, rfl⟩
    | filters series' => cases h
  | filters series =>
    cases t' with
    | filter f' => cases h
    | values name' series' => cases h
    | filters series' =>
      simp only [Term.tokens, List.cons_append, List.append_assoc, List.nil_append,
        List.cons.injEq, true_and] at h
      obtain ⟨rfl, rfl⟩ := series_tokens_inj Item.filter h
      exact ⟨rfl, rfl⟩

theorem tokensOf_cons (t : Term) (conjoined : Bool) (clauses : List Clause) :
    tokensOf (⟨t, conjoined⟩ :: clauses)
      = t.tokens ++ (conjunction conjoined ++ tokensOf clauses) := by
  rw [tokensOf, List.flatMap_cons, List.append_assoc, tokensOf]

theorem tokensOf_cons_ne_nil (c : Clause) (clauses : List Clause) :
    tokensOf (c :: clauses) ≠ [] := by
  obtain ⟨t, conjoined⟩ := c
  rw [tokensOf_cons]
  cases t <;> exact List.cons_ne_nil _ _

/-! ### What may stand between terms -/

/-- No term begins with a keyword, so the optional AND takes nothing from the next term. -/
theorem afterTerm_tokensOf (conjoined : Bool) (clauses : List Clause) :
    afterTerm (conjunction conjoined ++ tokensOf clauses) = .ok (tokensOf clauses) := by
  cases conjoined with
  | true => rfl
  | false =>
    rcases clauses with _ | ⟨⟨t, conjoined⟩, clauses⟩
    · rfl
    · cases t <;> rfl

theorem exists_conjunction {tokens rest : List Token} (h : afterTerm tokens = .ok rest) :
    ∃ conjoined, tokens = conjunction conjoined ++ rest := by
  unfold afterTerm at h
  split at h
  · cases h
    exact ⟨true, rfl⟩
  · cases h
  · cases h
    exact ⟨false, rfl⟩

theorem conjunction_inj {conjoined conjoined' : Bool} {rest : List Token}
    (h : conjunction conjoined ++ rest = conjunction conjoined' ++ rest) :
    conjoined = conjoined' := by
  have hlength := congrArg List.length (List.append_cancel_right h)
  cases conjoined <;> cases conjoined' <;> first | rfl | cases hlength

/-! ### Expressions -/

theorem statements_of_term {tokens rest rest' : List Token} {s : Statement}
    (hterm : term tokens = .ok (s, rest)) (hafter : afterTerm rest = .ok rest') :
    statements tokens = (statements rest').map (s :: ·) := by
  cases tokens with
  | nil => cases hterm
  | cons token tokens =>
    rw [statements]
    split
    · rename_i hfault
      rw [hterm] at hfault
      cases hfault
    · rename_i hok
      rw [hterm] at hok
      cases hok
      split
      · rename_i hfault
        rw [hafter] at hfault
        cases hfault
      · rename_i hok
        rw [hafter] at hok
        cases hok
        rfl

/-- **Derived tokens are read as the statements of their derivation.** -/
theorem statements_tokensOf (clauses : List Clause) :
    statements (tokensOf clauses) = .ok (statementsOf clauses) := by
  induction clauses with
  | nil => rw [tokensOf, List.flatMap_nil, statements, statementsOf, List.map_nil]
  | cons c clauses ih =>
    obtain ⟨t, conjoined⟩ := c
    rw [tokensOf_cons, statements_of_term (term_eq_ok_iff.2 ⟨t, rfl, rfl⟩)
      (afterTerm_tokensOf conjoined clauses), ih]
    rfl

/-- **Tokens that are read have a derivation.** -/
theorem exists_clauses {tokens : List Token} {ss : List Statement}
    (h : statements tokens = .ok ss) :
    ∃ clauses, tokensOf clauses = tokens ∧ statementsOf clauses = ss := by
  fun_induction statements tokens generalizing ss with
  | case1 =>
    cases h
    exact ⟨[], rfl, rfl⟩
  | case4 token tokens s rest hterm rest' hafter ih =>
    obtain ⟨more, hmore, rfl⟩ := exists_of_map_eq_ok h
    obtain ⟨clauses, rfl, rfl⟩ := ih hmore
    obtain ⟨t, rfl, htokens⟩ := term_eq_ok_iff.1 hterm
    obtain ⟨conjoined, rfl⟩ := exists_conjunction hafter
    refine ⟨⟨t, conjoined⟩ :: clauses, ?_, rfl⟩
    rw [htokens, tokensOf, List.flatMap_cons, List.append_assoc, tokensOf]
  | _ => cases h

theorem parse_of_scan {text : String} {clauses : List Clause}
    (h : Token.scan text.toList = .ok (tokensOf clauses)) :
    parse text = .ok (statementsOf clauses) := by
  rw [parse, h]
  exact statements_tokensOf clauses

/-- A text is read when its tokens have a derivation. -/
theorem parse_eq_ok_iff {text : String} {ss : List Statement} :
    parse text = .ok ss ↔
      ∃ clauses, Token.scan text.toList = .ok (tokensOf clauses) ∧ statementsOf clauses = ss := by
  constructor
  · intro h
    cases hscan : Token.scan text.toList with
    | error fault =>
      rw [parse, hscan] at h
      cases h
    | ok tokens =>
      rw [parse, hscan] at h
      obtain ⟨clauses, rfl, rfl⟩ := exists_clauses h
      exact ⟨clauses, rfl, rfl⟩
  · rintro ⟨clauses, hscan, rfl⟩
    exact parse_of_scan hscan

/-- **Tokens have at most one derivation.** -/
theorem tokensOf_injective {clauses clauses' : List Clause}
    (h : tokensOf clauses = tokensOf clauses') : clauses = clauses' := by
  induction clauses generalizing clauses' with
  | nil =>
    cases clauses' with
    | nil => rfl
    | cons c' clauses' => exact absurd h.symm (tokensOf_cons_ne_nil c' clauses')
  | cons c clauses ih =>
    cases clauses' with
    | nil => exact absurd h (tokensOf_cons_ne_nil c clauses)
    | cons c' clauses' =>
      obtain ⟨t, conjoined⟩ := c
      obtain ⟨t', conjoined'⟩ := c'
      rw [tokensOf_cons, tokensOf_cons] at h
      obtain ⟨rfl, hrest⟩ := term_tokens_inj h
      -- Stepping over the optional AND leaves the same clauses on both sides.
      have hafter := afterTerm_tokensOf conjoined clauses
      rw [hrest, afterTerm_tokensOf conjoined' clauses'] at hafter
      have hclauses := Except.ok.inj hafter
      rw [hclauses] at hrest
      rw [ih hclauses.symm, conjunction_inj hrest]

/-! ### Faults -/

/-- Holds for what can be wrong with the order of tokens, as against a token itself. -/
def inOrder : ExpressionFault → Bool
  | .unexpectedCharacter _ _ => false
  | .unterminatedQuote => false
  | _ => true

/-- Some name of a field stands in front of no colon. -/
def LacksColon (tokens : List Token) : Prop :=
  ∃ before name after, tokens = before ++ .field name :: after ∧ after.head? ≠ some .colon

/-- What is wrong with the order of tokens, wherever among them it is: a colon is missed behind the
name of a field only. -/
inductive Misordered (tokens : List Token) : ExpressionFault → Prop
  | colon (h : LacksColon tokens) : Misordered tokens .expectedColon
  | other {fault : ExpressionFault} (h : inOrder fault = true) (hne : fault ≠ .expectedColon) :
      Misordered tokens fault

theorem Misordered.inOrder_eq {tokens : List Token} {fault : ExpressionFault}
    (h : Misordered tokens fault) : inOrder fault = true := by
  cases h with
  | colon _ => rfl
  | other h _ => exact h

/-- Tokens in front of a fault leave it as it is. -/
theorem Misordered.append {tokens : List Token} {fault : ExpressionFault}
    (h : Misordered tokens fault) (front : List Token) : Misordered (front ++ tokens) fault := by
  cases h with
  | colon h =>
    obtain ⟨before, name, after, rfl, hcolon⟩ := h
    exact .colon ⟨front ++ before, name, after, (List.append_assoc _ _ _).symm, hcolon⟩
  | other h hne => exact .other h hne

theorem value_fault {tokens : List Token} {fault : ExpressionFault}
    (h : value tokens = .error fault) : Misordered tokens fault := by
  unfold value at h
  split at h
  · cases h
  · cases h
    exact .other rfl (by decide)

theorem field_fault {tokens : List Token} {fault : ExpressionFault}
    (h : field tokens = .error fault) : Misordered tokens fault := by
  unfold field at h
  split at h
  · cases h
  · rename_i name rest hcolon
    cases h
    refine .colon ⟨[], name, rest, rfl, ?_⟩
    intro hhead
    obtain ⟨more, rfl⟩ := List.head?_eq_some_iff.1 hhead
    exact hcolon more rfl
  · cases h
    exact .other rfl (by decide)

theorem filter_fault {tokens : List Token} {fault : ExpressionFault}
    (h : filter tokens = .error fault) : Misordered tokens fault := by
  unfold filter at h
  split at h
  · rename_i hfield
    cases h
    exact field_fault hfield
  · rename_i name rest hfield
    rw [field_eq_ok_iff.1 hfield]
    exact (value_fault (eq_error_of_map_eq_error h)).append [.field name, .colon]

theorem moreItems_fault {α : Type} {item : Item α} {op : Option Operator} {tokens : List Token}
    {fault : ExpressionFault}
    (hitem : ∀ ts fault, item.read ts = .error fault → Misordered ts fault)
    (h : moreItems item op tokens = .error fault) : Misordered tokens fault := by
  fun_induction moreItems item op tokens with
  | case1 => cases h
  | case2 =>
    cases h
    exact .other rfl (by decide)
  | case3 op next tokens _ fault' hread =>
    cases h
    exact (hitem _ _ hread).append [.keyword next]
  | case4 op next tokens _ a rest hread ih =>
    rw [item.read_eq_ok_iff.1 hread]
    exact (ih (eq_error_of_map_eq_error h)).append (.keyword next :: item.tokens a)
  | case5 =>
    cases h
    exact .other rfl (by decide)

theorem items_fault {α : Type} {item : Item α} {tokens : List Token} {fault : ExpressionFault}
    (hitem : ∀ ts fault, item.read ts = .error fault → Misordered ts fault)
    (h : items item tokens = .error fault) : Misordered tokens fault := by
  unfold items at h
  split at h
  · rename_i hread
    cases h
    exact hitem _ _ hread
  · rename_i a rest hread
    rw [item.read_eq_ok_iff.1 hread]
    exact (moreItems_fault hitem (eq_error_of_map_eq_error h)).append (item.tokens a)

theorem term_fault {tokens : List Token} {fault : ExpressionFault}
    (h : term tokens = .error fault) : Misordered tokens fault := by
  unfold term at h
  split at h
  · have hitems := items_fault (fun _ _ => filter_fault) (eq_error_of_map_eq_error h)
    exact hitems.append [.opening]
  · split at h
    · rename_i hfield
      cases h
      exact field_fault hfield
    · rename_i name rest hfield
      rw [field_eq_ok_iff.1 hfield]
      have hitems := items_fault (fun _ _ => value_fault) (eq_error_of_map_eq_error h)
      exact hitems.append [.field name, .colon, .opening]
    · rename_i name rest _ hfield
      rw [field_eq_ok_iff.1 hfield]
      exact (value_fault (eq_error_of_map_eq_error h)).append [.field name, .colon]

theorem afterTerm_fault {tokens : List Token} {fault : ExpressionFault}
    (h : afterTerm tokens = .error fault) : Misordered tokens fault := by
  unfold afterTerm at h
  split at h
  · cases h
  · cases h
    exact .other rfl (by decide)
  · cases h

/-- **Tokens that are not read are found at fault for their order.** -/
theorem statements_misordered {tokens : List Token} {fault : ExpressionFault}
    (h : statements tokens = .error fault) : Misordered tokens fault := by
  fun_induction statements tokens with
  | case1 => cases h
  | case2 token tokens fault' hterm =>
    cases h
    exact term_fault hterm
  | case3 token tokens s rest hterm fault' hafter =>
    cases h
    obtain ⟨t, -, htokens⟩ := term_eq_ok_iff.1 hterm
    rw [htokens]
    exact (afterTerm_fault hafter).append t.tokens
  | case4 token tokens s rest hterm rest' hafter ih =>
    obtain ⟨t, -, htokens⟩ := term_eq_ok_iff.1 hterm
    obtain ⟨conjoined, rfl⟩ := exists_conjunction hafter
    rw [htokens]
    exact ((ih (eq_error_of_map_eq_error h)).append (conjunction conjoined)).append t.tokens

/-- Reading tokens never finds fault with a single token. -/
theorem statements_fault {tokens : List Token} {fault : ExpressionFault}
    (h : statements tokens = .error fault) : inOrder fault = true :=
  (statements_misordered h).inOrder_eq

/-! ### Acceptance -/

/-- **The reader accepts exactly the grammar.**  Tokens are read when they have a derivation, which
is then the only one, and as the statements of that derivation; all other tokens are a fault in
their order. -/
theorem statements_iff_derivation (tokens : List Token) :
    (∀ ss, statements tokens = .ok ss ↔
      ∃ clauses, tokensOf clauses = tokens ∧ statementsOf clauses = ss) ∧
    (∀ clauses clauses', tokensOf clauses = tokens → tokensOf clauses' = tokens →
      clauses = clauses') ∧
    ((∀ clauses, tokensOf clauses ≠ tokens) →
      ∃ fault, statements tokens = .error fault ∧ inOrder fault = true) := by
  refine ⟨?_, ?_, ?_⟩
  · intro ss
    constructor
    · exact exists_clauses
    · rintro ⟨clauses, rfl, rfl⟩
      exact statements_tokensOf clauses
  · intro clauses clauses' h h'
    exact tokensOf_injective (h.trans h'.symm)
  · intro hnone
    cases h : statements tokens with
    | ok ss =>
      obtain ⟨clauses, hclauses, -⟩ := exists_clauses h
      exact absurd hclauses (hnone clauses)
    | error fault => exact ⟨fault, rfl, statements_fault h⟩

/-- A second AND behind a term has no derivation and is a fault. -/
theorem statements_doubled_and :
    ∃ fault, statements [.field "a", .colon, .value "x", .keyword .and, .keyword .and]
      = .error fault ∧ inOrder fault = true := by
  have hfault : statements [.field "a", .colon, .value "x", .keyword .and, .keyword .and]
      = .error .expectedField := by
    simp [statements, term, field, value, afterTerm, Except.map]
  refine (statements_iff_derivation _).2.2 ?_
  intro clauses h
  have hread := statements_tokensOf clauses
  rw [h, hfault] at hread
  cases hread

end BriefSearch.Expression
