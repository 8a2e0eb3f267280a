import BriefSearch.Proofs.Filter.Grammar
import BriefSearch.Proofs.Filter.Lexemes

/-!
# Expressions one after the other

White space between two expressions keeps each of them as it is: it ends the last word of the first,
which does not become a field, since no expression begins with a colon.

* **`colonFollows_of_parse`** — no expression begins with a colon;
* **`tokensOf_append`** — the tokens of two derivations behind one another have a derivation;
* **`parse_concatenated`** — so expressions with white space between them are read one after the
  other.
-/

namespace BriefSearch

open Text Token

theorem Token.exists_of_colonFollows {cs : List Char} (h : colonFollows cs = true) :
    ∃ s rest, IsBlank s ∧ cs = s ++ ':' :: rest := by
  rw [colonFollows, decide_eq_true_eq, List.head?_eq_some_iff] at h
  obtain ⟨rest, hrest⟩ := h
  refine ⟨cs.takeWhile isBlank, rest, fun c hc => List.mem_takeWhile_imp hc, ?_⟩
  rw [← hrest, List.takeWhile_append_dropWhile]

namespace Expression

/-- No term begins with a colon. -/
theorem tokensOf_ne_colon_cons (clauses : List Clause) (tokens : List Token) :
    tokensOf clauses ≠ .colon :: tokens := by
  intro h
  rcases clauses with _ | ⟨⟨t, conjoined⟩, clauses⟩
  · cases h
  · rw [tokensOf_cons] at h
    cases t <;> cases h

/-- **No expression begins with a colon.** -/
theorem colonFollows_of_parse {text : String} {ss : List Statement} (h : parse text = .ok ss) :
    colonFollows text.toList = false := by
  rw [← Bool.not_eq_true]
  intro hcolon
  obtain ⟨clauses, hscan, -⟩ := parse_eq_ok_iff.1 h
  obtain ⟨s, rest, hs, htext⟩ := exists_of_colonFollows hcolon
  have hreads : Reads (s ++ [':']) [.colon] rest := (reads_blank hs _).append (reads_colon rest)
  rw [htext, List.append_cons, hreads] at hscan
  obtain ⟨tokens, -, htokens⟩ := exists_of_map_eq_ok hscan
  exact tokensOf_ne_colon_cons clauses tokens htokens.symm

theorem tokensOf_append (clauses clauses' : List Clause) :
    tokensOf (clauses ++ clauses') = tokensOf clauses ++ tokensOf clauses' :=
  List.flatMap_append

/-- **Expressions concatenate.**  Two expressions with white space between them are read as the
statements of the first followed by those of the second. -/
theorem parse_concatenated {text text' gap : String} {ss ss' : List Statement}
    (h : parse text = .ok ss) (h' : parse text' = .ok ss') (hgap : IsGap gap.toList) :
    parse (text ++ gap ++ text') = .ok (ss ++ ss') := by
  obtain ⟨clauses, hscan, rfl⟩ := parse_eq_ok_iff.1 h
  obtain ⟨clauses', hscan', rfl⟩ := parse_eq_ok_iff.1 h'
  have hcolon : colonFollows (gap.toList ++ text'.toList) = false := by
    rw [colonFollows_blank hgap.2, colonFollows_of_parse h']
  have hrest : scan (gap.toList ++ text'.toList) = .ok (tokensOf clauses') :=
    (reads_blank hgap.2 _).scan_eq hscan'
  obtain ⟨tokens, hreads, hsame⟩ := exists_reads hscan (stops_gap hgap text'.toList)
  have hall := hreads.scan_eq hrest
  rw [hsame hcolon, ← tokensOf_append, ← String.toList_append, ← String.toList_append,
    ← String.append_assoc] at hall
  rw [parse_of_scan hall, statementsOf, List.map_append]
  rfl

/-- The first expression ends with a keyword, the second begins with a field, and a no-break space
stands between them; a blank expression adds nothing. -/
theorem parse_concatenated_conjoined :
    parse "a:x and" = .ok [.filter ⟨"a", "x"⟩] ∧
    parse "b :(\"y\" OR z)" = .ok [.group .or [.filter ⟨"b", "y"⟩, .filter ⟨"b", "z"⟩]] ∧
    IsGap "\u00a0".toList ∧
    parse ("a:x and" ++ "\u00a0" ++ "b :(\"y\" OR z)")
      = .ok [.filter ⟨"a", "x"⟩, .group .or [.filter ⟨"b", "y"⟩, .filter ⟨"b", "z"⟩]] ∧
    parse " " = .ok [] ∧
    parse ("a:x and" ++ "\u00a0" ++ " ") = .ok [.filter ⟨"a", "x"⟩] := by
  have hfirst : parse "a:x and" = .ok [.filter ⟨"a", "x"⟩] :=
    @parse_of_scan _ [⟨.filter ⟨"a", "x"⟩, true⟩] (by decide +kernel)
  have hsecond : parse "b :(\"y\" OR z)"
      = .ok [.group .or [.filter ⟨"b", "y"⟩, .filter ⟨"b", "z"⟩]] :=
    @parse_of_scan _ [⟨.values "b" (.several .or "y" "z" []), false⟩] (by decide +kernel)
  have hblank : parse " " = .ok [] := @parse_of_scan _ [] (by decide +kernel)
  have hgap : IsGap "\u00a0".toList := by decide
  exact ⟨hfirst, hsecond, hgap, parse_concatenated hfirst hsecond hgap, hblank,
    parse_concatenated hfirst hblank hgap⟩

end Expression

end BriefSearch
