import BriefSearch.Proofs.Response.Facets
import BriefSearch.Proofs.Text.Count
import BriefSearch.Proofs.Xml.Elements

/-!
# All facets of a response

The facets of a response are built by two folds, one over the elements that hold facets and one over
the values in each of them.  Either puts an entry in the place of its first item and fills it from
its last.

* **`Response.HasFacetAt`** — the elements with a facet of a name, and where they stand;
* **`Facet.termsIn`**, **`Facet.Counts`** — the terms that an element has, and the frequency that
  an attribute gives;
* **`Facet.IsTerm`**, **`Response.IsFacet`** — what an entry says of a term and of a name;
* **`Response.facets_entries`** — the facets of a response, entry by entry.
-/

namespace BriefSearch

/-! ### Frequencies -/

namespace Facet

/-- The frequency that an attribute gives: the 64 bit number that its value is a numeral of,
the white space around it apart, and 0 where it is not there or is no such numeral. -/
def Counts (value : Option String) (frequency : UInt64) : Prop :=
  (∃ s, value = some s ∧ Text.Denotes (Text.trim s).toList frequency.toNat) ∨
  (frequency = 0 ∧ ∀ s, value = some s → ∀ n, Text.Denotes (Text.trim s).toList n →
    UInt64.size ≤ n)

theorem counts_countIn (value : Option String) : Counts value (Response.countIn value) := by
  cases value with
  | none => exact .inr ⟨rfl, fun s hs => nomatch hs⟩
  | some s =>
    rw [Response.countIn, Option.bind_some]
    cases hcount : Text.count? (Text.trim s) with
    | some frequency => exact .inl ⟨s, rfl, Text.count?_eq_some_iff.1 hcount⟩
    | none =>
      refine .inr ⟨rfl, ?_⟩
      rintro _ ⟨⟩ n hn
      -- A numeral of a smaller number would have been read.
      by_contra hlt
      have hread : Text.count? (Text.trim s) = some (.ofNat n) := by
        rw [Text.count?_eq_some_iff, UInt64.toNat_ofNat_of_lt' (Nat.lt_of_not_le hlt)]
        exact hn
      rw [hread] at hcount
      cases hcount

/-! ### Terms -/

variable (mappers : ValueMappers) (name : String) (node : Xml.Node)

/-- The children of an element that hold values of its facet. -/
def valueNodes : List Xml.Node :=
  node.children.filter (·.hasName (Response.searchName "FACET_VALUES"))

/-- The term of a value: what its code stands for in the facet's field, if it has a code. -/
def termOf? (child : Xml.Node) : Option String :=
  (child.attribute? "KEY").map (mappers.decode ("facet_" ++ name))

/-- The terms of the values in an element, in order and as often as they stand there. -/
def termsIn : List String :=
  (valueNodes node).filterMap (termOf? mappers name)

/-- An entry for a term has the frequency of the last value with this term. -/
def IsTerm (term : String) (entry : String × UInt64) : Prop :=
  entry.1 = term ∧ ∃ child,
    ((valueNodes node).filter (termOf? mappers name · = some term)).getLast? = some child ∧
    Counts (child.attribute? "VALUE") entry.2

/-- The facet in an element has its terms by their values. -/
theorem terms_ofNode : (ofNode mappers name node).terms
    = .ofList ((valueNodes node).filterMap fun child => (termOf? mappers name child).map fun term =>
        (term, Response.countIn (child.attribute? "VALUE"))) := by
  have hterm : ∀ child, term? mappers name child = (termOf? mappers name child).map fun term =>
      (term, Response.countIn (child.attribute? "VALUE")) := by
    intro child
    rw [term?, termOf?, Option.map_map]
    rfl
  rw [ofNode, valueNodes]
  exact congrArg OrderedMap.ofList (List.filterMap_congr fun child _ => hterm child)

/-- **The terms of an element**: each once, in the order in which they first occur, with the
frequency that stands last. -/
theorem entries_ofNode : List.Forall₂ (IsTerm mappers name node)
    (distinct (termsIn mappers name node)) (ofNode mappers name node).terms.entries := by
  have hkeys : ((valueNodes node).filterMap fun child =>
        (termOf? mappers name child).map fun term =>
          (term, Response.countIn (child.attribute? "VALUE"))).map (·.1)
      = termsIn mappers name node := by
    rw [List.map_filterMap]
    simp only [Option.map_map, Function.comp_def, Option.map_id', termsIn]
  rw [terms_ofNode, ← hkeys]
  refine (OrderedMap.entries_ofList _).imp ?_
  rintro term entry ⟨hterm, hlast⟩
  rw [OrderedMap.last?_filterMap, Option.map_eq_some_iff] at hlast
  obtain ⟨child, hchild, hfrequency⟩ := hlast
  refine ⟨hterm, child, hchild, ?_⟩
  rw [← hfrequency]
  exact counts_countIn _

end Facet

/-! ### Facets -/

namespace Response

variable (response : Response) (mappers : ValueMappers) (name : String)

/-- At a place in the response there is an element with a facet of the name. -/
structure HasFacetAt (place : List Nat) (node : Xml.Node) : Prop where
  mem : ⟨place, node⟩ ∈ Xml.Located.below [] response.root
  isFacet : node.hasName (searchName "FACET") = true
  named : node.attribute? "NAME" = some name

/-- The names of facets in document order, as often as they stand there. -/
def facetNames : List String :=
  (response.root.nodes.filter (·.hasName (searchName "FACET"))).filterMap (·.attribute? "NAME")

/-- A facet that is built from the last element in document order with a facet of its name. -/
structure IsFacet (facet : Facet) : Prop where
  id_eq : facet.id = name
  key_eq : facet.key = "facet_" ++ name
  exists_last : ∃ place node, response.HasFacetAt name place node ∧
    (∀ place' node', response.HasFacetAt name place' node' → place' ≤ place) ∧
    List.Forall₂ (Facet.IsTerm mappers name node)
      (distinct (Facet.termsIn mappers name node)) facet.terms.entries

/-- The last element with a facet of the name is the last one in document order. -/
theorem exists_hasFacetAt_of_getLast? {node : Xml.Node}
    (hlast : (response.facetNodesNamed name).getLast? = some node) :
    ∃ place, response.HasFacetAt name place node ∧
      ∀ place' node', response.HasFacetAt name place' node' → place' ≤ place := by
  rw [facetNodesNamed, facetNodes, Xml.Node.elements_singleton, List.filter_filter] at hlast
  obtain ⟨place, hmem, hnode, hbehind⟩ := Xml.Node.exists_place_of_getLast? hlast
  rw [Bool.and_eq_true, decide_eq_true_eq] at hnode
  refine ⟨place, ⟨hmem, hnode.2, hnode.1⟩, ?_⟩
  intro place' node' hfacet
  exact hbehind _ hfacet.mem (by simp [hfacet.isFacet, hfacet.named])

theorem keys_namedFacets : (response.namedFacets mappers).map (·.1) = response.facetNames := by
  rw [namedFacets, List.map_filterMap, facetNames, facetNodes, Xml.Node.elements_singleton]
  simp only [Option.map_map, Function.comp_def, Option.map_id']

/-- What all facets together have for a name is built from the last element of the name. -/
theorem isFacet_of_last? {facet : Facet}
    (hlast : OrderedMap.last? name (response.namedFacets mappers) = some facet) :
    response.IsFacet mappers name facet := by
  rw [last?_namedFacets, Option.map_eq_some_iff] at hlast
  obtain ⟨node, hnode, rfl⟩ := hlast
  obtain ⟨place, hfacet, hbehind⟩ := response.exists_hasFacetAt_of_getLast? name hnode
  exact ⟨rfl, rfl, place, node, hfacet, hbehind, Facet.entries_ofNode mappers name node⟩

/-- **The facets of a response**, whatever the mappers make of its codes: one for each name, in the
order in which the names first occur, under its key and from the last element of the name; in it
each term once, in the order in which the terms first occur in that element, with the frequency of
the last value with this term. -/
theorem facets_entries :
    (response.facets mappers).keys.Nodup ∧
    List.Forall₂ (fun name entry =>
        entry.1 = "facet_" ++ name ∧ response.IsFacet mappers name entry.2)
      (distinct response.facetNames) (response.facets mappers).entries := by
  rw [facets_eq_ofList]
  refine ⟨?_, ?_⟩
  · rw [OrderedMap.keys_ofList]
    exact nodup_distinct _
  · have hentries := OrderedMap.entries_ofList
      ((response.namedFacets mappers).map fun f => (Facet.keyOf f.1, f.2))
    have hkeys : ((response.namedFacets mappers).map fun f => (Facet.keyOf f.1, f.2)).map (·.1)
        = response.facetNames.map Facet.keyOf := by
      rw [← keys_namedFacets response mappers, List.map_map, List.map_map]
      rfl
    rw [hkeys, distinct_map fun _ _ _ _ => Facet.keyOf_inj.1, List.forall₂_map_left_iff] at hentries
    refine hentries.imp ?_
    rintro name entry ⟨hkey, hlast⟩
    rw [OrderedMap.last?_map fun f _ => Facet.keyOf_inj.1] at hlast
    exact ⟨hkey, response.isFacet_of_last? mappers name hlast⟩

end Response

end BriefSearch
