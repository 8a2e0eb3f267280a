import BriefSearch.Proofs.Text.Count
import BriefSearch.Proofs.Xml.Elements
import BriefSearch.Response.Record

/-!
# The layout of a response

The service lays records out as a tree: a set of records with the number of hits, in it an element
for each record, and in that element sections with one child for each text.  No name of a field is
that of a section, and numbered fields are told apart by their numbers.

* **`Entry`** — what a record says, field by field;
* **`Entry.node`**, **`Response.layout`** — the tree of a record and of a whole response;
* **`Fields.texts`**, **`Entry.texts_partName`**, **`Entry.texts_localDisplayName`** — the texts of
  a name in a section;
* **`Entry.contents_leaves`** — the elements of a name hold these texts;
* **`Entry.elements_node_part`**, **`Entry.elements_node_searchName`** — the elements of a record.
-/

namespace BriefSearch

open Response (searchName recordName)

/-! ### Fields -/

/-- Names of fields with their texts, in the order of a section. -/
abbrev Fields := List (String × String)

namespace Fields

/-- A field with all its texts. -/
def each (name : String) (texts : List String) : Fields :=
  texts.map (name, ·)

/-- Fields with numbers in their names. -/
def numbered (name : UInt32 → String) (texts : List (UInt32 × String)) : Fields :=
  texts.map fun t => (name t.1, t.2)

/-- The texts of the fields of a name. -/
def texts (name : String) (fields : Fields) : List String :=
  (fields.filter (·.1 = name)).map (·.2)

theorem texts_append (name : String) (fields fields' : Fields) :
    texts name (fields ++ fields') = texts name fields ++ texts name fields' := by
  rw [texts, List.filter_append, List.map_append, texts, texts]

theorem texts_of_ne {name : String} {fields : Fields} (h : ∀ f ∈ fields, f.1 ≠ name) :
    texts name fields = [] := by
  rw [texts, List.map_eq_nil_iff, List.filter_eq_nil_iff]
  intro f hf
  rw [decide_eq_true_eq]
  exact h f hf

theorem texts_each (name name' : String) (ts : List String) :
    texts name (each name' ts) = if name' = name then ts else [] := by
  split
  · rename_i h
    subst h
    rw [texts, each, List.filter_map, List.map_map]
    simp [Function.comp_def]
  · rename_i h
    refine texts_of_ne fun f hf => ?_
    obtain ⟨t, -, rfl⟩ := List.mem_map.1 hf
    exact h

/-- Numbers are told apart by a name that tells them apart. -/
theorem texts_numbered {name : UInt32 → String} (hname : Function.Injective name) (k : UInt32)
    (ts : List (UInt32 × String)) :
    texts (name k) (numbered name ts) = (ts.filter (·.1 = k)).map (·.2) := by
  rw [texts, numbered, List.filter_map, List.map_map]
  simp only [Function.comp_def, hname.eq_iff]

theorem texts_numbered_of_ne {name : UInt32 → String} {s : String} (h : ∀ k, name k ≠ s)
    (ts : List (UInt32 × String)) : texts s (numbered name ts) = [] := by
  refine texts_of_ne fun f hf => ?_
  obtain ⟨t, -, rfl⟩ := List.mem_map.1 hf
  exact h t.1

end Fields

/-! ### Records -/

/-- What a record says, field by field; nothing but the id has to be there. -/
structure Entry where
  recordId : String
  sourceId : Option String := none
  sourceRecordId : Option String := none
  sourceSystem : Option String := none
  title : Option String := none
  description : Option String := none
  displayFormat : Option String := none
  isbns : List String := []
  thumbnails : List String := []
  publisher : Option String := none
  year : Option String := none
  language : Option String := none
  materialType : Option String := none
  /-- The names of the creators, the last name first. -/
  authors : List String := []
  contributors : List String := []
  subjects : Option String := none
  seriesData : Option String := none
  onlineUrl : Option String := none
  /-- The texts of the local display fields with their numbers. -/
  localDisplay : List (UInt32 × String) := []
  /-- The texts of the local search fields with their numbers. -/
  localSearch : List (UInt32 × String) := []

/-- The sections of a record. -/
inductive Part where
  | control
  | display
  | search
  | addata
  deriving DecidableEq

/-- The name of a section. -/
def Part.name : Part → String
  | control => "control"
  | display => "display"
  | search => "search"
  | addata => "addata"

namespace Entry

/-- The name of a local display field: at least two digits follow. -/
def localDisplayName (number : UInt32) : String :=
  "lds" ++ ((if number.toNat < 10 then "0" else "") ++ toString number.toNat)

/-- The name of a local search field. -/
def localSearchName (number : UInt32) : String :=
  "lsr" ++ toString number.toNat

/-- The fields of a section. -/
def fields (e : Entry) : Part → Fields
  | .control =>
    .each "sourcerecordid" e.sourceRecordId.toList ++ .each "sourceid" e.sourceId.toList ++
      .each "recordid" [e.recordId] ++ .each "sourcesystem" e.sourceSystem.toList
  | .display =>
    .each "type" e.materialType.toList ++ .each "format" e.displayFormat.toList ++
      .each "language" e.language.toList ++ .each "subject" e.subjects.toList ++
      .each "description" e.description.toList ++ .numbered localDisplayName e.localDisplay
  | .search => .numbered localSearchName e.localSearch
  | .addata =>
    .each "au" e.authors ++ .each "addau" e.contributors ++ .each "btitle" e.title.toList ++
      .each "date" e.year.toList ++ .each "isbn" e.isbns ++ .each "pub" e.publisher.toList ++
      .each "seriestitle" e.seriesData.toList

/-- The addresses that belong to a record. -/
def links (e : Entry) : Fields :=
  .each "thumbnail" e.thumbnails ++ .each "linktorsrc" e.onlineUrl.toList

/-- An element that holds a text, if there is any. -/
def leaf (name : Xml.Name) (text : String) : Xml.Node :=
  .element name [] (if text = "" then [] else [.text text])

/-- The elements of fields, each with its text. -/
def leaves (name : String → Xml.Name) (fields : Fields) : List Xml.Node :=
  fields.map fun f => leaf (name f.1) f.2

/-- The element of a section. -/
def part (e : Entry) (p : Part) : Xml.Node :=
  .element (recordName p.name) [] (leaves recordName (e.fields p))

/-- The element with the addresses. -/
def linksPart (e : Entry) : Xml.Node :=
  .element (searchName "LINKS") [] (leaves searchName e.links)

/-- The element of a record. -/
def node (e : Entry) : Xml.Node :=
  .element (searchName "DOC") []
    [.element (recordName "PrimoNMBib") []
      [.element (recordName "record") []
        [e.part .control, e.part .display, e.part .search, e.part .addata]],
     e.linksPart]

/-- The record as it is read, with the names of its creators in the given parts. -/
def record (e : Entry) (creators : List (List String)) : Record where
  recordId := e.recordId
  sourceId := e.sourceId
  sourceRecordId := e.sourceRecordId
  sourceSystem := e.sourceSystem
  title := e.title
  description := e.description
  displayFormat := e.displayFormat
  isbns := e.isbns
  thumbnailUrls := distinct e.thumbnails
  publisher := e.publisher
  year := e.year
  language := e.language
  materialType := e.materialType
  creators := creators
  contributors := e.contributors
  subjects := e.subjects
  seriesData := e.seriesData
  onlineUrl := e.onlineUrl

end Entry

/-- A response with a number of hits and the given records. -/
def Response.layout (totalHits : UInt64) (entries : List Entry) : Response where
  root :=
    .element (searchName "SEGMENTS") []
      [.element (searchName "JAGROOT") []
        [.element (searchName "RESULT") []
          [.element (searchName "DOCSET") [⟨⟨none, "TOTALHITS"⟩, toString totalHits.toNat⟩]
            (entries.map Entry.node)]]]

/-! ### Names -/

theorem Response.recordName_injective : Function.Injective recordName := fun a b h => by
  simpa [recordName] using h

theorem Response.searchName_injective : Function.Injective searchName := fun a b h => by
  simpa [searchName] using h

theorem Response.recordName_ne_searchName (a b : String) : recordName a ≠ searchName b := by
  simp [recordName, searchName]

theorem Part.name_inj {p q : Part} : p.name = q.name ↔ p = q := by
  cases p <;> cases q <;> decide

namespace Entry

/-- Digits that stand for a number tell the numbers apart. -/
theorem append_digits_injective (start : String) {digits : UInt32 → String}
    (hvalue : ∀ k, Nat.ofDigitChars 10 (digits k).toList 0 = k.toNat) :
    Function.Injective fun k => start ++ digits k := by
  intro k k' h
  have hdigits : digits k = digits k' := (String.append_right_inj start).1 h
  rw [← UInt32.toNat_inj, ← hvalue k, hdigits, hvalue]

theorem localDisplayName_injective : Function.Injective localDisplayName := by
  refine append_digits_injective "lds" fun k => ?_
  rw [String.toList_append]
  -- A zero in front changes no number.
  split
  · exact Text.ofDigitChars_toString k.toNat
  · exact Text.ofDigitChars_toString k.toNat

theorem localSearchName_injective : Function.Injective localSearchName :=
  append_digits_injective "lsr" fun k => Text.ofDigitChars_toString k.toNat

theorem ne_of_not_prefix {start more s : String} (h : ¬ start.toList <+: s.toList) :
    start ++ more ≠ s := by
  rintro rfl
  rw [String.toList_append] at h
  exact h (List.prefix_append _ _)

theorem localDisplayName_ne {s : String} (h : ¬ "lds".toList <+: s.toList) (k : UInt32) :
    localDisplayName k ≠ s :=
  ne_of_not_prefix h

theorem localSearchName_ne {s : String} (h : ¬ "lsr".toList <+: s.toList) (k : UInt32) :
    localSearchName k ≠ s :=
  ne_of_not_prefix h

/-- A local display field is asked for by its name. -/
theorem lds_twoDigits (k : UInt32) : "lds" ++ Doc.twoDigits k = localDisplayName k := by
  rw [Doc.twoDigits, localDisplayName]
  have hten : k < 10 ↔ k.toNat < 10 := UInt32.lt_iff_toNat_lt
  split
  · rename_i h
    rw [if_pos (hten.1 h)]
  · rename_i h
    rw [if_neg (fun hlt => h (hten.2 hlt)), String.empty_append]

/-! ### Fields of a section -/

/-- A name that does not begin like a local display field has its texts elsewhere. -/
theorem texts_localDisplay_of_not_prefix {s : String} (h : ¬ "lds".toList <+: s.toList)
    (ts : List (UInt32 × String)) : Fields.texts s (.numbered localDisplayName ts) = [] :=
  Fields.texts_numbered_of_ne (localDisplayName_ne h) ts

theorem texts_localSearch_of_not_prefix {s : String} (h : ¬ "lsr".toList <+: s.toList)
    (ts : List (UInt32 × String)) : Fields.texts s (.numbered localSearchName ts) = [] :=
  Fields.texts_numbered_of_ne (localSearchName_ne h) ts

theorem texts_each_localDisplayName {s : String} (h : ¬ "lds".toList <+: s.toList) (k : UInt32)
    (ts : List String) : Fields.texts (localDisplayName k) (.each s ts) = [] := by
  rw [Fields.texts_each, if_neg (localDisplayName_ne h k).symm]

variable (e : Entry)

/-- No field is called like a section. -/
theorem texts_partName (p q : Part) : Fields.texts q.name (e.fields p) = [] := by
  cases p <;> cases q <;>
    simp (disch := decide) only [fields, Part.name, Fields.texts_append, Fields.texts_each,
      texts_localDisplay_of_not_prefix, texts_localSearch_of_not_prefix, String.reduceEq, if_false,
      List.append_nil]

/-- A local display field is found under its number only. -/
theorem texts_localDisplayName (k : UInt32) :
    Fields.texts (localDisplayName k) (e.fields .display)
      = (e.localDisplay.filter (·.1 = k)).map (·.2) := by
  simp (disch := decide) only [fields, Fields.texts_append, texts_each_localDisplayName,
    Fields.texts_numbered localDisplayName_injective, List.nil_append]

theorem texts_localSearchName (k : UInt32) :
    Fields.texts (localSearchName k) (e.fields .search)
      = (e.localSearch.filter (·.1 = k)).map (·.2) :=
  Fields.texts_numbered localSearchName_injective k e.localSearch

/-! ### Elements of a record -/

section

variable (name : Xml.Name) (text : String)

theorem hasName_leaf (a : Xml.Name) : (leaf name text).hasName a = decide (name = a) := by
  simp only [leaf, Xml.Node.hasName, Xml.Node.name?, Option.some.injEq]

theorem content_leaf : (leaf name text).content = text := by
  rw [leaf]
  split
  · rename_i h
    rw [h]
    rfl
  · simp [Xml.Node.content, Xml.Node.texts, Xml.Node.textsOfAll]

theorem elements_leaf (a : Xml.Name) :
    (leaf name text).elements [a] = if name = a then [leaf name text] else [] := by
  rw [leaf, Xml.Node.elements_element]
  split <;> simp [Xml.Node.elements_text]

end

section

variable {name : String → Xml.Name} {fields : Fields}

/-- Below the elements of fields there are no further elements. -/
theorem elements_leaves (a : Xml.Name) :
    (leaves name fields).flatMap (·.elements [a]) = (leaves name fields).filter (·.hasName a) := by
  induction fields with
  | nil => rfl
  | cons f fields ih =>
    rw [leaves] at ih
    rw [leaves, List.map_cons, List.flatMap_cons, elements_leaf, ih, List.filter_cons, hasName_leaf]
    simp only [decide_eq_true_eq]
    split <;> rfl

theorem filter_leaves_of_ne {a : Xml.Name} (h : ∀ s, name s ≠ a) :
    (leaves name fields).filter (·.hasName a) = [] := by
  rw [leaves, List.filter_map, List.map_eq_nil_iff, List.filter_eq_nil_iff]
  intro f _
  rw [Function.comp_apply, hasName_leaf, decide_eq_true_eq]
  exact h f.1

/-- The elements of a name hold the texts of its field. -/
theorem contents_leaves (hname : Function.Injective name) (s : String) :
    ((leaves name fields).filter (·.hasName (name s))).map (·.content) = Fields.texts s fields := by
  rw [leaves, List.filter_map, List.map_map, Fields.texts]
  simp only [Function.comp_def, content_leaf, hasName_leaf, hname.eq_iff]

/-- There are no elements of a name that no field has. -/
theorem filter_leaves_eq_nil (hname : Function.Injective name) {s : String}
    (h : Fields.texts s fields = []) : (leaves name fields).filter (·.hasName (name s)) = [] := by
  rw [← contents_leaves hname] at h
  exact List.map_eq_nil_iff.1 h

end

theorem elements_part (p q : Part) :
    (e.part p).elements [recordName q.name] = if p = q then [e.part p] else [] := by
  rw [part, Xml.Node.elements_element, elements_leaves,
    filter_leaves_eq_nil Response.recordName_injective (e.texts_partName p q), List.append_nil]
  simp only [Response.recordName_injective.eq_iff, Part.name_inj]

theorem elements_part_searchName (p : Part) (s : String) :
    (e.part p).elements [searchName s] = [] := by
  rw [part, Xml.Node.elements_element, elements_leaves,
    filter_leaves_of_ne fun s => Response.recordName_ne_searchName s _,
    if_neg (Response.recordName_ne_searchName _ _), List.append_nil]

theorem elements_linksPart_recordName (s : String) : e.linksPart.elements [recordName s] = [] := by
  rw [linksPart, Xml.Node.elements_element, elements_leaves,
    filter_leaves_of_ne fun s => (Response.recordName_ne_searchName _ s).symm,
    if_neg (Response.recordName_ne_searchName _ _).symm, List.append_nil]

/-- **A section is found once.** -/
theorem elements_node_part (q : Part) : e.node.elements [recordName q.name] = [e.part q] := by
  -- Of the elements around the sections none is called like a section either.
  have houter : recordName "PrimoNMBib" ≠ recordName q.name ∧
      recordName "record" ≠ recordName q.name := by
    cases q <;> decide
  simp only [node, Xml.Node.elements_element, List.flatMap_cons, List.flatMap_nil, elements_part,
    elements_linksPart_recordName, if_neg (Response.recordName_ne_searchName _ _).symm,
    if_neg houter.1, if_neg houter.2, List.nil_append, List.append_nil]
  cases q <;> rfl

/-- In a record the names of the envelope are those of the record, of the addresses and of an
address. -/
theorem elements_node_searchName (s : String) :
    e.node.elements [searchName s]
      = (if "DOC" = s then [e.node] else []) ++ ((if "LINKS" = s then [e.linksPart] else []) ++
          (leaves searchName e.links).filter (·.hasName (searchName s))) := by
  have hlinks : e.linksPart.elements [searchName s]
      = (if "LINKS" = s then [e.linksPart] else []) ++
          (leaves searchName e.links).filter (·.hasName (searchName s)) := by
    rw [linksPart, Xml.Node.elements_element, elements_leaves]
    simp only [Response.searchName_injective.eq_iff]
  rw [node, Xml.Node.elements_element]
  simp only [Xml.Node.elements_element, List.flatMap_cons, List.flatMap_nil,
    elements_part_searchName, hlinks, if_neg (Response.recordName_ne_searchName _ _),
    Response.searchName_injective.eq_iff, List.nil_append, List.append_nil]

theorem elements_doc : e.node.elements [searchName "DOC"] = [e.node] := by
  have hlinks : Fields.texts "DOC" e.links = [] := by
    simp only [links, Fields.texts_append, Fields.texts_each, String.reduceEq, if_false,
      List.append_nil]
  rw [elements_node_searchName, if_pos rfl, if_neg (by decide),
    filter_leaves_eq_nil Response.searchName_injective hlinks, List.append_nil, List.append_nil]

end Entry

end BriefSearch
