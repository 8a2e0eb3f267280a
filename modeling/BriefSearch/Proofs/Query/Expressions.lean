import BriefSearch.Proofs.Filter.Writing
import BriefSearch.Proofs.Query.Composition
import BriefSearch.Proofs.Query.Structure
import BriefSearch.Proofs.Vocabulary

/-!
# What written expressions compile to

An expression is read as filters and flat groups of filters, on fields whose names are words.  So a
single fault is left for compiling to find: OR between different fields.

* **`Statement.JoinsFields`** — the groups with that fault;
* **`compile_of_writable`**, **`compile_of_joinsFields`**, **`fault_of_writable`** — what statements
  that can be written compile to;
* **`queries_of_named`** — the queries of filters on words, where the service has no other names;
* **`Expression.compile_of_parse`** — the same for expressions.
-/

namespace BriefSearch

open Token

/-! ### Flat groups -/

namespace Statement

/-- A group that joins filters on different fields by OR. -/
def JoinsFields : Statement → Prop
  | filter _ => False
  | group op statements => op = .or ∧
      ∃ f ∈ leavesOfAll statements, ∃ f' ∈ leavesOfAll statements, f.name ≠ f'.name

instance : ∀ s : Statement, Decidable s.JoinsFields
  | filter _ => inferInstanceAs (Decidable False)
  | group op statements => inferInstanceAs (Decidable (op = .or ∧
      ∃ f ∈ leavesOfAll statements, ∃ f' ∈ leavesOfAll statements, f.name ≠ f'.name))

theorem leavesOfAll_eq_flatMap (ss : List Statement) : leavesOfAll ss = ss.flatMap leaves := by
  induction ss with
  | nil => rw [leavesOfAll, List.flatMap_nil]
  | cons s ss ih => rw [leavesOfAll, ih, List.flatMap_cons]

theorem leavesOfAll_map_filter (fs : List Filter) : leavesOfAll (fs.map filter) = fs := by
  rw [leavesOfAll_eq_flatMap, List.flatMap_map]
  have hleaves : ∀ f : Filter, (filter f).leaves = [f] := fun f => by rw [leaves]
  simp only [hleaves]
  exact List.flatMap_singleton' fs

theorem named_of_writable {s : Statement} (hs : s.Writable) : ∀ f ∈ s.leaves, f.Named := by
  intro f hf
  cases s with
  | filter g =>
    rw [leaves, List.mem_singleton] at hf
    rw [hf]
    exact hs
  | group op ss =>
    obtain ⟨fs, rfl, -, -, hnamed⟩ := hs
    rw [leaves, leavesOfAll_map_filter] at hf
    exact hnamed f hf

theorem leaves_ne_nil_of_writable {s : Statement} (hs : s.Writable) : s.leaves ≠ [] := by
  cases s with
  | filter f =>
    rw [leaves]
    exact List.cons_ne_nil f []
  | group op ss =>
    obtain ⟨fs, rfl, hne, -, -⟩ := hs
    rw [leaves, leavesOfAll_map_filter]
    exact hne

end Statement

theorem Filter.Named.name_ne_empty {f : Filter} (hf : f.Named) : f.name ≠ "" := by
  intro hempty
  have hne := hf.1.1
  rw [hempty] at hne
  exact hne rfl

namespace Group

theorem absorbedAll_map_filter (op : Operator) (fs : List Filter) :
    absorbedAll op (fs.map .filter) = .ok fs := by
  induction fs with
  | nil => rw [List.map_nil, absorbedAll]
  | cons f fs ih =>
    rw [List.map_cons, absorbedAll_cons_eq_ok_iff]
    refine ⟨[f], fs, ?_, ih, rfl⟩
    rw [absorbed]

/-- A statement that can be written has groups, all of them on fields, if it does not join fields
by OR. -/
theorem ofStatement_of_writable {s : Statement} (hs : s.Writable) (hjoins : ¬ s.JoinsFields) :
    ∃ groups, ofStatement s = .ok groups ∧ groups ≠ [] ∧
      ∀ g ∈ groups, ∃ name, g.commonField = .ok name := by
  have hnames : ∀ f ∈ s.leaves, f.name ≠ "" := fun f hf =>
    (Statement.named_of_writable hs f hf).name_ne_empty
  obtain ⟨groups, hgroups⟩ : ∃ groups, ofStatement s = .ok groups := by
    cases s with
    | filter f => exact ⟨[single f], by rw [ofStatement]⟩
    | group op ss =>
      obtain ⟨fs, rfl, -, -, -⟩ := hs
      rw [Statement.JoinsFields, Statement.leavesOfAll_map_filter] at hjoins
      rw [ofStatement, absorbedAll_map_filter]
      dsimp only
      by_cases hmany : 1 < (distinct (fs.map (·.name))).length
      · obtain ⟨name, hname, name', hname', hdiffer⟩ := one_lt_length_distinct_iff.1 hmany
        obtain ⟨f, hf, rfl⟩ := List.mem_map.1 hname
        obtain ⟨f', hf', rfl⟩ := List.mem_map.1 hname'
        cases op with
        | and => exact ⟨_, ofFilters_eq_ok_iff.2 (.inr ⟨hmany, rfl, rfl⟩)⟩
        | or => exact absurd ⟨rfl, f, hf, f', hf', hdiffer⟩ hjoins
      · exact ⟨_, ofFilters_eq_ok_iff.2 (.inl ⟨Nat.not_lt.1 hmany, rfl⟩)⟩
  refine ⟨groups, hgroups, (onOneField_of_ofStatement hgroups).1, ?_⟩
  exact (commonField_ofStatement_iff hgroups).2 ⟨Statement.leaves_ne_nil_of_writable hs, hnames⟩

theorem ofStatement_of_joinsFields {s : Statement} (hs : s.Writable) (hjoins : s.JoinsFields) :
    ∃ fields, ofStatement s = .error (.acrossFields .or fields) := by
  cases s with
  | filter f => exact absurd hjoins id
  | group op ss =>
    obtain ⟨fs, rfl, -, -, -⟩ := hs
    rw [Statement.JoinsFields, Statement.leavesOfAll_map_filter] at hjoins
    obtain ⟨rfl, f, hf, f', hf', hdiffer⟩ := hjoins
    have hmany : 1 < (distinct (fs.map (·.name))).length := one_lt_length_distinct_iff.2
      ⟨f.name, List.mem_map_of_mem hf, f'.name, List.mem_map_of_mem hf', hdiffer⟩
    refine ⟨distinct (fs.map (·.name)), ?_⟩
    rw [ofStatement, absorbedAll_map_filter]
    show ofFilters .or fs = _
    rw [ofFilters, if_neg (Nat.not_le.2 hmany)]

/-- The first group that joins fields by OR is what statements fail with. -/
theorem ofStatements_of_joinsFields {ss : List Statement} (hss : ∀ s ∈ ss, s.Writable)
    (hjoins : ∃ s ∈ ss, s.JoinsFields) :
    ∃ fields, ofStatements ss = .error (.acrossFields .or fields) := by
  induction ss with
  | nil =>
    obtain ⟨s, hs, -⟩ := hjoins
    exact absurd hs List.not_mem_nil
  | cons s ss ih =>
    obtain ⟨hs, hss⟩ := List.forall_mem_cons.1 hss
    by_cases hfirst : s.JoinsFields
    · obtain ⟨fields, hfields⟩ := ofStatement_of_joinsFields hs hfirst
      refine ⟨fields, ?_⟩
      rw [ofStatements, hfields]
    · have hrest : ∃ s ∈ ss, s.JoinsFields := by
        obtain ⟨s', hs', hjoins'⟩ := hjoins
        rcases List.mem_cons.1 hs' with rfl | hs'
        · exact absurd hjoins' hfirst
        · exact ⟨s', hs', hjoins'⟩
      obtain ⟨fields, hfields⟩ := ih hss hrest
      obtain ⟨groups, hgroups, -⟩ := ofStatement_of_writable hs hfirst
      refine ⟨fields, ?_⟩
      rw [ofStatements, hgroups, hfields]
      rfl

end Group

/-! ### Compiling statements one by one -/

namespace Vocabulary

variable (vocabulary : Vocabulary)

/-- A statement that does not join fields by OR has at least one query. -/
theorem compile_singleton_of_writable {s : Statement} (hs : s.Writable)
    (hjoins : ¬ s.JoinsFields) :
    ∃ queries, vocabulary.compile [s] = .ok (.ofQueries queries) ∧ queries ≠ [] := by
  obtain ⟨groups, hgroups, hne, hnamed⟩ := Group.ofStatement_of_writable hs hjoins
  obtain ⟨queries, hqueries⟩ : ∃ queries, groups.mapM vocabulary.query = .ok queries :=
    exists_mapM_eq_ok_iff.2 fun g hg => vocabulary.exists_query_iff.2 (hnamed g hg)
  refine ⟨queries, vocabulary.compile_eq_ok_iff.2 ⟨groups, queries, ?_, hqueries, rfl⟩, ?_⟩
  · refine Group.ofStatements_cons_eq_ok_iff.2 ⟨groups, [], hgroups, ?_, List.append_nil groups⟩
    rw [Group.ofStatements]
  · rintro rfl
    rw [mapM_query_eq_ok_iff, List.forall₂_nil_right_iff] at hqueries
    exact hne hqueries

/-- **Statements that can be written compile** if none of them joins fields by OR, each to queries
of its own. -/
theorem compile_of_writable {ss : List Statement} (hss : ∀ s ∈ ss, s.Writable)
    (hjoins : ∀ s ∈ ss, ¬ s.JoinsFields) :
    ∃ parts : List (List String), vocabulary.compile ss = .ok (.ofQueries parts.flatten) ∧
      List.Forall₂ (fun s queries => queries ≠ [] ∧
        vocabulary.compile [s] = .ok (.ofQueries queries)) ss parts := by
  induction ss with
  | nil => exact ⟨[], rfl, .nil⟩
  | cons s ss ih =>
    obtain ⟨hs, hss⟩ := List.forall_mem_cons.1 hss
    obtain ⟨hfirst, hjoins⟩ := List.forall_mem_cons.1 hjoins
    obtain ⟨parts, hparts, hall⟩ := ih hss hjoins
    obtain ⟨queries, hqueries, hne⟩ := vocabulary.compile_singleton_of_writable hs hfirst
    refine ⟨queries :: parts, ?_, .cons ⟨hne, hqueries⟩ hall⟩
    rw [← List.singleton_append, compile_append_eq_ok_iff]
    exact ⟨queries, parts.flatten, hqueries, hparts, rfl⟩

/-- **Joining fields by OR is a fault**, whatever stands beside it. -/
theorem compile_of_joinsFields {ss : List Statement} (hss : ∀ s ∈ ss, s.Writable)
    (hjoins : ∃ s ∈ ss, s.JoinsFields) :
    ∃ fields, vocabulary.compile ss = .error (.unsupported (.acrossFields .or fields)) := by
  obtain ⟨fields, hfields⟩ := Group.ofStatements_of_joinsFields hss hjoins
  refine ⟨fields, ?_⟩
  rw [compile, hfields]

/-- No other fault is left. -/
theorem fault_of_writable {ss : List Statement} (hss : ∀ s ∈ ss, s.Writable)
    {fault : CompileFault} (h : vocabulary.compile ss = .error fault) :
    (∃ s ∈ ss, s.JoinsFields) ∧ ∃ fields, fault = .unsupported (.acrossFields .or fields) := by
  by_cases hjoins : ∃ s ∈ ss, s.JoinsFields
  · obtain ⟨fields, hfields⟩ := vocabulary.compile_of_joinsFields hss hjoins
    rw [hfields] at h
    cases h
    exact ⟨hjoins, fields, rfl⟩
  · have hnone : ∀ s ∈ ss, ¬ s.JoinsFields := fun s hs h => hjoins ⟨s, hs, h⟩
    obtain ⟨parts, hparts, -⟩ := vocabulary.compile_of_writable hss hnone
    rw [hparts] at h
    cases h

/-! ### Fields with names of their own -/

/-- Where the service has no other names for fields, queries keep their structure and begin with a
word. -/
theorem queries_of_named {ss : List Statement} {p : Parameters}
    (hnames : vocabulary.fields.isEmpty = true)
    (hnamed : ∀ f ∈ Statement.leavesOfAll ss, f.Named) (hp : vocabulary.compile ss = .ok p) :
    ∀ q ∈ (p.get? queryParameter).getD [], q.toList.count ',' = 2 ∧
      ∃ name text, queryParts q = [name, "exact", text] ∧ IsWord name.toList := by
  intro q hq
  obtain ⟨groups, queries, hgroups, hqueries, rfl⟩ := vocabulary.compile_eq_ok_iff.1 hp
  rw [Parameters.get?_ofQueries] at hq
  rw [mapM_query_eq_ok_iff] at hqueries
  obtain ⟨g, hg, hquery⟩ := exists_mem_of_forall₂ hqueries.flip hq
  obtain ⟨name, hname, hon⟩ := vocabulary.isQueryOn_of_query hquery
  rw [FieldNames.serviceName_of_isEmpty hnames] at hon
  have hword : IsWord name.toList := by
    obtain ⟨hne, -, hall⟩ := Group.commonField_eq_ok_iff.1 hname
    obtain ⟨f, hf⟩ := List.exists_mem_of_ne_nil _ hne
    have hleaf : f ∈ Statement.leavesOfAll ss := by
      rw [← Group.flatMap_filters_ofStatements hgroups]
      exact List.mem_flatMap.2 ⟨g, hg, hf⟩
    rw [← hall f hf]
    exact (hnamed f hleaf).1
  have hcomma : ',' ∉ name.toList := fun hmem => ne_of_isWordChar (hword.2 _ hmem) (by decide) rfl
  obtain ⟨hcount, text, htext⟩ := hon.of_comma_notMem hcomma
  exact ⟨hcount, name, text, htext, hword⟩

end Vocabulary

/-! ### Expressions -/

namespace Expression

/-- **What an expression can fail with.**  The statements that an expression is read as have no
malformed group and no nested one.  They cannot be asked for when one of them joins filters on
different fields by OR, and only then; otherwise each has queries of its own.  Without other names
for fields these queries have two commas and begin with a word, whatever the values are. -/
theorem compile_of_parse (vocabulary : Vocabulary) {text : String} {ss : List Statement}
    (h : parse text = .ok ss) :
    (∀ group, vocabulary.compile ss ≠ .error (.malformed group)) ∧
    (∀ inner outer, vocabulary.compile ss ≠ .error (.unsupported (.nested inner outer))) ∧
    ((∃ shape, vocabulary.compile ss = .error (.unsupported shape)) ↔
      ∃ s ∈ ss, s.JoinsFields) ∧
    ((∀ s ∈ ss, ¬ s.JoinsFields) → ∃ parts : List (List String),
      vocabulary.compile ss = .ok (.ofQueries parts.flatten) ∧
      List.Forall₂ (fun s queries => queries ≠ [] ∧
        vocabulary.compile [s] = .ok (.ofQueries queries)) ss parts) ∧
    (vocabulary.fields.isEmpty = true → ∀ p, vocabulary.compile ss = .ok p →
      ∀ q ∈ (p.get? queryParameter).getD [], q.toList.count ',' = 2 ∧
        ∃ name value, queryParts q = [name, "exact", value] ∧ IsWord name.toList) := by
  have hss := writable_of_parse h
  have hnamed : ∀ f ∈ Statement.leavesOfAll ss, f.Named := by
    intro f hf
    rw [Statement.leavesOfAll_eq_flatMap] at hf
    obtain ⟨s, hs, hfs⟩ := List.mem_flatMap.1 hf
    exact Statement.named_of_writable (hss s hs) f hfs
  refine ⟨?_, ?_, ?_, vocabulary.compile_of_writable hss, fun hnames p hp =>
    vocabulary.queries_of_named hnames hnamed hp⟩
  · intro group hfault
    obtain ⟨-, fields, he⟩ := vocabulary.fault_of_writable hss hfault
    cases he
  · intro inner outer hfault
    obtain ⟨-, fields, he⟩ := vocabulary.fault_of_writable hss hfault
    cases he
  · constructor
    · rintro ⟨shape, hfault⟩
      exact (vocabulary.fault_of_writable hss hfault).1
    · intro hjoins
      obtain ⟨fields, hfields⟩ := vocabulary.compile_of_joinsFields hss hjoins
      exact ⟨_, hfields⟩

/-- Commas and keywords between quotes, a group on one field and a group on two. -/
theorem compile_of_parse_quoted :
    parse "lang:(eng OR \"a,b\") title:\"x AND ,y\"" = .ok
      [.group .or [.filter ⟨"lang", "eng"⟩, .filter ⟨"lang", "a,b"⟩],
        .filter ⟨"title", "x AND ,y"⟩] ∧
    (∃ parts : List (List String), parts.length = 2 ∧
      Vocabulary.compile ⟨.empty, .empty⟩
        [.group .or [.filter ⟨"lang", "eng"⟩, .filter ⟨"lang", "a,b"⟩],
          .filter ⟨"title", "x AND ,y"⟩] = .ok (.ofQueries parts.flatten)) ∧
    (∃ p, Vocabulary.compile ⟨.empty, .empty⟩
        [.group .or [.filter ⟨"lang", "eng"⟩, .filter ⟨"lang", "a,b"⟩],
          .filter ⟨"title", "x AND ,y"⟩] = .ok p ∧
      (p.get? queryParameter).getD [] = ["lang,exact,eng OR a b", "title,exact,x  y"] ∧
      ∀ q ∈ (p.get? queryParameter).getD [], q.toList.count ',' = 2 ∧
        ∃ name value, queryParts q = [name, "exact", value] ∧ IsWord name.toList) ∧
    parse "(lang:eng OR title:x)" = .ok
      [.group .or [.filter ⟨"lang", "eng"⟩, .filter ⟨"title", "x"⟩]] ∧
    ∃ shape, Vocabulary.compile ⟨.empty, .empty⟩
      [.group .or [.filter ⟨"lang", "eng"⟩, .filter ⟨"title", "x"⟩]]
        = .error (.unsupported shape) := by
  have hread : parse "lang:(eng OR \"a,b\") title:\"x AND ,y\"" = .ok
      [.group .or [.filter ⟨"lang", "eng"⟩, .filter ⟨"lang", "a,b"⟩],
        .filter ⟨"title", "x AND ,y"⟩] :=
    @parse_of_scan _ [⟨.values "lang" (.several .or "eng" "a,b" []), false⟩,
      ⟨.filter ⟨"title", "x AND ,y"⟩, false⟩] (by decide +kernel)
  have hjoined : parse "(lang:eng OR title:x)" = .ok
      [.group .or [.filter ⟨"lang", "eng"⟩, .filter ⟨"title", "x"⟩]] :=
    @parse_of_scan _ [⟨.filters (.several .or ⟨"lang", "eng"⟩ ⟨"title", "x"⟩ []), false⟩]
      (by decide +kernel)
  have hok := compile_of_parse ⟨.empty, .empty⟩ hread
  have hfault := compile_of_parse ⟨.empty, .empty⟩ hjoined
  refine ⟨hread, ?_, ?_, hjoined, ?_⟩
  · obtain ⟨parts, hcompile, hparts⟩ := hok.2.2.2.1 (by decide)
    exact ⟨parts, hparts.length_eq.symm, hcompile⟩
  · have hqueries : Vocabulary.compile ⟨.empty, .empty⟩
        [.group .or [.filter ⟨"lang", "eng"⟩, .filter ⟨"lang", "a,b"⟩],
          .filter ⟨"title", "x AND ,y"⟩]
        = .ok (.ofQueries ["lang,exact,eng OR a b", "title,exact,x  y"]) := by decide +kernel
    exact ⟨_, hqueries, by decide, hok.2.2.2.2 rfl _ hqueries⟩
  · exact hfault.2.2.1.2 ⟨_, List.mem_cons_self, by decide⟩

end Expression

end BriefSearch
