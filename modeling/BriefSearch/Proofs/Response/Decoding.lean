import BriefSearch.Proofs.OrderedMap
import BriefSearch.Proofs.Response.Layout
import BriefSearch.Proofs.Text.Count
import BriefSearch.Proofs.Text.Words

/-!
# Reading records back

Reading the tree of a response gives the records back that it was made of: no field of a section is
taken for one of another section, of another number or of another record.

* **`Entry.fields_node`**, **`Entry.record_node`** — a field and a whole record;
* **`Entry.IsNameParts`** — a name and its parts;
* **`Response.docs_layout`**, **`Response.decode_layout`** — all records of a response.
-/

namespace BriefSearch

open Response (searchName recordName)

namespace Entry

variable (e : Entry)

/-! ### Fields -/

/-- The texts of a field in a section are the ones of the record. -/
theorem fields_node (id : String) (p : Part) (s : String) :
    (Doc.mk id e.node).fields p.name s = Fields.texts s (e.fields p) := by
  rw [Doc.fields, Xml.Node.values, Xml.Node.elements_pair, elements_node_part,
    List.flatMap_singleton]
  exact contents_leaves Response.recordName_injective s

theorem thumbnails_node : e.node.values [searchName "thumbnail"] = e.thumbnails := by
  rw [Xml.Node.values, elements_node_searchName, if_neg (by decide), if_neg (by decide),
    List.nil_append, List.nil_append, contents_leaves Response.searchName_injective]
  simp only [links, Fields.texts_append, Fields.texts_each, String.reduceEq, if_true, if_false,
    List.append_nil]

theorem onlineUrl_node :
    e.node.value? [searchName "LINKS", searchName "linktorsrc"] = e.onlineUrl := by
  have hlinks : Fields.texts "LINKS" e.links = [] := by
    simp only [links, Fields.texts_append, Fields.texts_each, String.reduceEq, if_false,
      List.append_nil]
  have hurl : Fields.texts "linktorsrc" e.links = e.onlineUrl.toList := by
    simp only [links, Fields.texts_append, Fields.texts_each, String.reduceEq, if_true, if_false,
      List.nil_append]
  rw [Xml.Node.value?, Xml.Node.values, Xml.Node.elements_pair, elements_node_searchName,
    if_neg (by decide), if_pos rfl, filter_leaves_eq_nil Response.searchName_injective hlinks,
    List.nil_append, List.append_nil, List.flatMap_singleton]
  show (((leaves searchName e.links).filter (·.hasName (searchName "linktorsrc"))).map
    (·.content)).head? = e.onlineUrl
  rw [contents_leaves Response.searchName_injective, hurl, Option.head?_toList]

/-! ### Reading a record -/

/-- A name in parts: what stands behind the first comma and space comes first. -/
inductive IsNameParts : String → List String → Prop where
  | whole {name : String} (h : ¬ ", ".toList <:+: name.toList) : IsNameParts name [name]
  | inverted {last first : String} (h : ¬ ", ".toList <:+: last.toList) :
      IsNameParts (last ++ ", " ++ first) [first, last]

theorem isNameParts_nameParts (name : String) : IsNameParts name (Doc.nameParts name) := by
  have hmark : [',', ' '] ≠ [] := List.cons_ne_nil _ _
  rw [Doc.nameParts]
  cases hcut : Text.cut? [',', ' '] name.toList with
  | none => exact .whole (Text.not_infix_of_cut? hmark hcut)
  | some halves =>
    obtain ⟨last, first⟩ := halves
    obtain ⟨hname, hfree⟩ := Text.eq_append_of_cut? hmark hcut
    have hsplit : name = .ofList last ++ ", " ++ .ofList first := by
      rw [← String.toList_inj, hname]
      simp
    have hlast : (String.ofList last).toList = last := String.toList_ofList
    rw [hsplit]
    refine .inverted ?_
    rw [hlast]
    exact hfree

/-- A name has no other parts. -/
theorem isNameParts_iff {name : String} {parts : List String} :
    IsNameParts name parts ↔ parts = Doc.nameParts name := by
  constructor
  · intro h
    cases h with
    | whole hfree =>
      rw [Doc.nameParts]
      cases hcut : Text.cut? [',', ' '] name.toList with
      | none => rfl
      | some halves =>
        obtain ⟨hname, -⟩ := Text.eq_append_of_cut? (List.cons_ne_nil _ _) hcut
        exact absurd ⟨halves.1, halves.2, hname.symm⟩ hfree
    | @inverted last first hinfix =>
      have hfree : ¬ [',', ' '] <:+: last.toList := hinfix
      have hname : (last ++ ", " ++ first).toList = last.toList ++ ',' :: ' ' :: first.toList := by
        simp
      rw [Doc.nameParts, hname, Text.cut?_pair (by decide) hfree]
      simp
  · rintro rfl
    exact isNameParts_nameParts name

theorem forall₂_isNameParts_iff {names : List String} {creators : List (List String)} :
    List.Forall₂ IsNameParts names creators ↔ creators = names.map Doc.nameParts := by
  have hparts : IsNameParts = fun name parts => Doc.nameParts name = parts := by
    funext name parts
    exact propext (isNameParts_iff.trans eq_comm)
  rw [hparts, ← List.forall₂_map_left_iff, List.forall₂_eq_eq_eq, eq_comm]

/-- **A record is read as it was laid out.** -/
theorem record_node :
    (Doc.mk e.recordId e.node).record = e.record (e.authors.map Doc.nameParts) := by
  have hcontrol := e.fields_node e.recordId .control
  have hdisplay := e.fields_node e.recordId .display
  have haddata := e.fields_node e.recordId .addata
  simp only [Part.name] at hcontrol hdisplay haddata
  have hfirst : ∀ part s, (Doc.mk e.recordId e.node).field? part s
      = ((Doc.mk e.recordId e.node).fields part s).head? := fun _ _ => rfl
  -- Every field is now a name in a list of fields, and these names differ.
  simp (disch := decide) only [Doc.record, record, hfirst, hcontrol, hdisplay, haddata, fields,
    thumbnails_node, onlineUrl_node, Fields.texts_append, Fields.texts_each,
    texts_localDisplay_of_not_prefix, String.reduceEq, if_true, if_false, List.nil_append,
    List.append_nil, Option.head?_toList]

theorem localDisplayField?_node (id : String) (k : UInt32) :
    (Doc.mk id e.node).localDisplayField? k
      = ((e.localDisplay.filter (·.1 = k)).map (·.2)).head? := by
  rw [Doc.localDisplayField?, lds_twoDigits]
  show ((Doc.mk id e.node).fields (Part.name .display) (localDisplayName k)).head? = _
  rw [fields_node, texts_localDisplayName]

theorem localSearchFields_node (id : String) (k : UInt32) :
    (Doc.mk id e.node).localSearchFields k = (e.localSearch.filter (·.1 = k)).map (·.2) := by
  show (Doc.mk id e.node).fields (Part.name .search) (localSearchName k) = _
  rw [fields_node, texts_localSearchName]

theorem recordId?_node (hid : Text.trim e.recordId = e.recordId) :
    Response.recordId? e.node = some e.recordId := by
  have hvalues : e.node.values [recordName "control", recordName "recordid"] = [e.recordId] := by
    refine (e.fields_node e.recordId .control "recordid").trans ?_
    simp only [fields, Fields.texts_append, Fields.texts_each, String.reduceEq, if_true, if_false,
      List.nil_append, List.append_nil]
  rw [Response.recordId?, Xml.Node.value?, hvalues, List.head?_cons, Option.map_some, hid]

end Entry

/-! ### Responses -/

namespace Response

variable (totalHits : UInt64) {entries : List Entry}

theorem totalHits_layout (entries : List Entry) :
    (layout totalHits entries).totalHits = totalHits := by
  have hdocset : (layout totalHits entries).root.element? [searchName "DOCSET"]
      = some (.element (searchName "DOCSET") [⟨⟨none, "TOTALHITS"⟩, toString totalHits.toNat⟩]
          (entries.map Entry.node)) := by
    rw [layout, Xml.Node.element?]
    simp only [Xml.Node.elements_element, searchName_injective.eq_iff, String.reduceEq, if_true,
      if_false, List.flatMap_cons, List.flatMap_nil, List.nil_append, List.append_nil,
      List.singleton_append, List.head?_cons]
  have hcount : ∀ children : List Xml.Node,
      (Xml.Node.element (searchName "DOCSET") [⟨⟨none, "TOTALHITS"⟩, toString totalHits.toNat⟩]
        children).attribute? "TOTALHITS" = some (toString totalHits.toNat) := by
    intro children
    simp [Xml.Node.attribute?]
  rw [Response.totalHits, hdocset]
  dsimp only
  rw [hcount, countIn, Option.bind_some, Text.count?_trim_toString, Option.getD_some]

/-- Every record of a response is found, with its id. -/
theorem docs_layout (hids : ∀ e ∈ entries, Text.trim e.recordId = e.recordId) :
    (layout totalHits entries).docs = entries.map fun e => ⟨e.recordId, e.node⟩ := by
  have hnodes : (layout totalHits entries).root.elements [searchName "DOC"]
      = entries.map Entry.node := by
    rw [layout]
    simp only [Xml.Node.elements_element, searchName_injective.eq_iff, String.reduceEq, if_false,
      List.flatMap_cons, List.flatMap_nil, List.nil_append, List.append_nil, List.flatMap_map,
      Entry.elements_doc]
    exact List.map_eq_flatMap.symm
  rw [docs, hnodes, List.filterMap_map, ← List.filterMap_eq_map]
  refine List.filterMap_congr fun e he => ?_
  show (recordId? e.node).map _ = _
  rw [e.recordId?_node (hids e he)]
  rfl

/-- **Records that are laid out are read back.**  The number of hits and the records by id, in
order, are those that the response was made of.  Every record has the fields that it was given, the
absent ones left out: each address of a picture once and each creator's name in its parts.  A local
field is found under its number and under no other. -/
theorem decode_layout (hdistinct : (entries.map (·.recordId)).Nodup)
    (hids : ∀ e ∈ entries, Text.trim e.recordId = e.recordId) :
    (layout totalHits entries).totalHits = totalHits ∧
    (layout totalHits entries).documents.keys = entries.map (·.recordId) ∧
    ∀ e ∈ entries, ∃ doc, (layout totalHits entries).documents.get? e.recordId = some doc ∧
      (∃ creators, List.Forall₂ Entry.IsNameParts e.authors creators ∧
        doc.record = e.record creators) ∧
      ∀ k, doc.localDisplayField? k = ((e.localDisplay.filter (·.1 = k)).map (·.2)).head? ∧
        doc.localSearchFields k = (e.localSearch.filter (·.1 = k)).map (·.2) := by
  have hpairs : (layout totalHits entries).docs.map (fun doc => (doc.id, doc))
      = entries.map fun e => (e.recordId, ⟨e.recordId, e.node⟩) := by
    rw [docs_layout totalHits hids, List.map_map]
    rfl
  have hkeys : (entries.map fun e => (e.recordId, Doc.mk e.recordId e.node)).map (·.1)
      = entries.map (·.recordId) := by
    rw [List.map_map]
    rfl
  refine ⟨totalHits_layout totalHits entries, ?_, ?_⟩
  · rw [documents, hpairs, OrderedMap.keys_ofList, hkeys, distinct_eq_self hdistinct]
  · intro e he
    refine ⟨⟨e.recordId, e.node⟩, ?_,
      ⟨_, Entry.forall₂_isNameParts_iff.2 rfl, e.record_node⟩, ?_⟩
    · rw [documents, hpairs, OrderedMap.get?_ofList, OrderedMap.last?_eq_some_iff]
      · exact List.mem_map.2 ⟨e, he, rfl⟩
      · rw [hkeys]
        exact hdistinct
    · exact fun k => ⟨e.localDisplayField?_node e.recordId k, e.localSearchFields_node e.recordId k⟩

/-- Two records: one with an empty title, a picture given twice and local fields of several
numbers, and one without any field. -/
theorem decode_layout_two : ∃ full bare : Entry,
    (layout 42 [full, bare]).totalHits = 42 ∧
    (layout 42 [full, bare]).documents.keys = ["a", "b"] ∧
    (∃ doc, (layout 42 [full, bare]).documents.get? "a" = some doc ∧
      doc.record.title = some "" ∧ doc.record.year = none ∧
      doc.record.thumbnailUrls = ["small", "large"] ∧
      doc.record.creators = [["J. R. R.", "Tolkien"], ["Anonymous"]] ∧
      doc.localDisplayField? 1 = some "one" ∧ doc.localDisplayField? 10 = some "ten" ∧
      doc.localDisplayField? 2 = none ∧ doc.localSearchFields 5 = ["A", "B"]) ∧
    ∃ doc, (layout 42 [full, bare]).documents.get? "b" = some doc ∧
      doc.record.title = none ∧ doc.record.thumbnailUrls = [] := by
  let full : Entry := {
    recordId := "a"
    title := some ""
    thumbnails := ["small", "small", "large"]
    authors := ["Tolkien, J. R. R.", "Anonymous"]
    localDisplay := [(10, "ten"), (1, "one"), (1, "more")]
    localSearch := [(5, "A"), (50, "C"), (5, "B")] }
  let bare : Entry := { recordId := "b" }
  have hdistinct : ([full, bare].map (·.recordId)).Nodup := by decide
  have hids : ∀ e ∈ [full, bare], Text.trim e.recordId = e.recordId := by
    simp only [List.forall_mem_cons, List.not_mem_nil, false_implies, implies_true, and_true]
    decide
  obtain ⟨hhits, hkeys, hrecords⟩ := decode_layout 42 hdistinct hids
  obtain ⟨doc, hdoc, ⟨creators, hcreators, hrecord⟩, hlocal⟩ := hrecords full List.mem_cons_self
  obtain ⟨doc', hdoc', ⟨_, _, hrecord'⟩, _⟩ :=
    hrecords bare (List.mem_cons_of_mem full List.mem_cons_self)
  refine ⟨full, bare, hhits, hkeys, ⟨doc, hdoc, ?_, ?_, ?_, ?_, ?_, ?_, ?_, ?_⟩,
    doc', hdoc', ?_, ?_⟩
  · rw [hrecord]
    rfl
  · rw [hrecord]
    rfl
  · rw [hrecord]
    show distinct full.thumbnails = ["small", "large"]
    decide
  · rw [hrecord]
    show creators = _
    rw [Entry.forall₂_isNameParts_iff.1 hcreators]
    decide
  · rw [(hlocal 1).1]
    decide
  · rw [(hlocal 10).1]
    decide
  · rw [(hlocal 2).1]
    decide
  · rw [(hlocal 5).2]
    decide
  · rw [hrecord']
    rfl
  · rw [hrecord']
    rfl

end Response

end BriefSearch
