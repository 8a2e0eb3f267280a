import BriefSearch.Proofs.Query.Queries
import BriefSearch.Proofs.Vocabulary
import BriefSearch.Response.Facet

/-!
# From facet terms back to codes

The terms of a facet are the service's codes as the mapper of the facet's field reads them, and a
query on that field writes them as codes again.  The two directions are inverse to each other where
the mapper is a table that tells all codes and values apart.

* **`Facet.codes`** — what an element says, code by code;
* **`Facet.terms_lead_back`** — every code has its own term, and asking for the term asks for the
  code.
-/

namespace BriefSearch

/-! ### Terms -/

namespace Facet

/-- The codes in an element with their frequencies, as they stand there. -/
def codes (node : Xml.Node) : List (String × UInt64) :=
  (node.children.filter (·.hasName (Response.searchName "FACET_VALUES"))).filterMap fun child =>
    (child.attribute? "KEY").map fun code => (code, Response.countIn (child.attribute? "VALUE"))

variable (mappers : ValueMappers) (id : String) (node : Xml.Node)

/-- The terms are the codes as the mapper reads them. -/
theorem ofNode_terms : (ofNode mappers id node).terms
    = .ofList ((codes node).map fun c => (mappers.decode (keyOf id) c.1, c.2)) := by
  rw [codes, List.map_filterMap]
  show OrderedMap.ofList (List.filterMap (term? mappers id) _) = _
  congr 2
  funext child
  rw [term?, Option.map_map]
  rfl

theorem keys_ofNode : (ofNode mappers id node).terms.keys
    = distinct (((codes node).map (·.1)).map (mappers.decode (keyOf id))) := by
  rw [ofNode_terms, OrderedMap.keys_ofList, List.map_map, List.map_map]
  rfl

theorem frequency?_ofNode (term : String) : (ofNode mappers id node).frequency? term
    = OrderedMap.last? term ((codes node).map fun c => (mappers.decode (keyOf id) c.1, c.2)) := by
  rw [frequency?, ofNode_terms, OrderedMap.get?_ofList]

theorem keyOf_ne_empty : keyOf id ≠ "" := by
  intro hempty
  have hlist := congrArg String.toList hempty
  rw [keyOf, String.toList_append] at hlist
  cases hlist

/-- **Every term leads back to its code.**  Where the mappers read the codes of an element without
loss, its facet has one term for each code, in the order in which the codes first occur and with the
frequency that stands last beside the code; and a filter on the term, where the service has no other
name for the facet's field, is a query for that code. -/
theorem terms_lead_back {mappers : ValueMappers} {id : String} {node : Xml.Node}
    (h : mappers.Invertible (keyOf id) ((codes node).map (·.1))) :
    (ofNode mappers id node).terms.keys
      = (distinct ((codes node).map (·.1))).map (mappers.decode (ofNode mappers id node).key) ∧
    (ofNode mappers id node).terms.keys.Nodup ∧
    ∀ code ∈ (codes node).map (·.1),
      (∃ frequency, OrderedMap.last? code (codes node) = some frequency ∧
        (ofNode mappers id node).frequency? (mappers.decode (ofNode mappers id node).key code)
          = some frequency) ∧
      ∀ fields : FieldNames, fields.entries.get? (ofNode mappers id node).key = none →
        (Vocabulary.compile ⟨fields, mappers⟩ [.filter ⟨(ofNode mappers id node).key,
            mappers.decode (ofNode mappers id node).key code⟩]).map Parameters.toPairs
          = .ok [(queryParameter,
              (ofNode mappers id node).key ++ ",exact," ++ escapeValue code)] := by
  have hkey : (ofNode mappers id node).key = keyOf id := rfl
  rw [hkey, keys_ofNode]
  -- What is written is what was read, so no two codes share a term.
  have hinj : ∀ code ∈ (codes node).map (·.1), ∀ code' ∈ (codes node).map (·.1),
      mappers.decode (keyOf id) code = mappers.decode (keyOf id) code' → code = code' := by
    intro code hcode code' hcode' hsame
    rw [← h.encode_decode hcode, hsame, h.encode_decode hcode']
  refine ⟨distinct_map hinj, nodup_distinct _, ?_⟩
  intro code hcode
  constructor
  · cases hlast : OrderedMap.last? code (codes node) with
    | none => exact absurd hcode (OrderedMap.last?_eq_none_iff.1 hlast)
    | some frequency =>
      refine ⟨frequency, rfl, ?_⟩
      rw [frequency?_ofNode, OrderedMap.last?_map, hlast]
      intro c hc hsame
      exact hinj c.1 (List.mem_map_of_mem hc) code hcode hsame
  · intro fields hfields
    have hname := FieldNames.serviceName_of_get?_eq_none hfields
    rw [Vocabulary.compile_filter _ (keyOf_ne_empty id)]
    dsimp only
    rw [hname, h.encode_decode hcode]
    rfl

/-- A code that occurs twice and one that the table does not have. -/
theorem terms_lead_back_table :
    ∃ (mappers : ValueMappers) (node : Xml.Node),
      mappers = .ofTables [("facet_lang", [("eng", "English"), ("ice", "Icelandic")])] ∧
      codes node = [("eng", 1), ("xyz", 2), ("eng", 3)] ∧
      (ofNode mappers "lang" node).terms.keys = ["English", "xyz"] ∧
      (ofNode mappers "lang" node).frequency? "English" = some 3 ∧
      (Vocabulary.compile ⟨.empty, mappers⟩ [.filter ⟨"facet_lang", "English"⟩]).map
          Parameters.toPairs = .ok [(queryParameter, "facet_lang,exact,eng")] := by
  let table := [("eng", "English"), ("ice", "Icelandic")]
  let value (code frequency : String) : Xml.Node :=
    .element (Response.searchName "FACET_VALUES")
      [⟨⟨none, "KEY"⟩, code⟩, ⟨⟨none, "VALUE"⟩, frequency⟩] []
  let node : Xml.Node := .element (Response.searchName "FACET") [⟨⟨none, "NAME"⟩, "lang"⟩]
    [value "eng" "1", value "xyz" "2", value "eng" "3"]
  have hcodes : codes node = [("eng", 1), ("xyz", 2), ("eng", 3)] := by decide +kernel
  have hinvertible : ValueMappers.Invertible (.ofTables [("facet_lang", table)]) (keyOf "lang")
      ((codes node).map (·.1)) := by
    right
    refine ⟨table, rfl, by decide, by decide, ?_⟩
    rw [hcodes]
    decide
  obtain ⟨hkeys, -, hterms⟩ := terms_lead_back hinvertible
  obtain ⟨⟨frequency, hlast, hfrequency⟩, hquery⟩ := hterms "eng" (by rw [hcodes]; decide)
  refine ⟨.ofTables [("facet_lang", table)], node, rfl, hcodes, ?_, ?_, ?_⟩
  · rw [hkeys, hcodes]
    decide +kernel
  · rw [hcodes] at hlast
    cases hlast
    exact hfrequency
  · have hescaped : escapeValue "eng" = "eng" := by decide +kernel
    have hcompiled := hquery .empty rfl
    rw [hescaped] at hcompiled
    exact hcompiled

end Facet

end BriefSearch
