import BriefSearch.Proofs.OrderedMap
import BriefSearch.Response.Facet

/-!
# Looking facets up

A response may hold several facets of one name.  A lookup by id scans for the first of them, while
all facets together keep the last.

* **`Response.facetNodesNamed`** — the elements with the facets of a name;
* **`Response.namedFacets`** — all facets in elements, from which the map of facets is built;
* **`facet?_eq_head?`**, **`get?_facets`** — what either way of looking up finds among the facets of
  a name;
* **`facet_lookups`** — when the two agree;
* **`facet_lookups_repeated_name`** — two facets of one name on which they do not.
-/

namespace BriefSearch

theorem Facet.keyOf_inj {id id' : String} : Facet.keyOf id = Facet.keyOf id' ↔ id = id' := by
  rw [Facet.keyOf, Facet.keyOf]
  constructor
  · intro h
    have hlist := congrArg String.toList h
    rw [String.toList_append, String.toList_append] at hlist
    exact String.toList_inj.1 (List.append_cancel_left hlist)
  · exact congrArg _

namespace Response

variable (response : Response) (mappers : ValueMappers) (id : String)

/-- The elements that hold facets of a name, in document order. -/
def facetNodesNamed : List Xml.Node :=
  response.facetNodes.filter fun node => node.attribute? "NAME" = some id

/-- A lookup by id finds the first facet of the name. -/
theorem facet?_eq_head? :
    response.facet? id mappers
      = (response.facetNodesNamed id).head?.map (Facet.ofNode mappers id) := by
  rw [facet?, facetNodesNamed, List.head?_filter]

/-- The facets in elements, with their names. -/
def namedFacets : List (String × Facet) :=
  response.facetNodes.filterMap fun node =>
    (node.attribute? "NAME").map fun name => (name, Facet.ofNode mappers name node)

theorem facets_eq_ofList : response.facets mappers
    = .ofList ((response.namedFacets mappers).map fun f => (Facet.keyOf f.1, f.2)) := by
  rw [facets, namedFacets, List.map_filterMap]
  simp only [Option.map_map, Function.comp_def]

theorem last?_namedFacets : OrderedMap.last? id (response.namedFacets mappers)
    = (response.facetNodesNamed id).getLast?.map (Facet.ofNode mappers id) :=
  OrderedMap.last?_filterMap _ _ id _

/-- A lookup by id finds the first of them with the name. -/
theorem facet?_eq_find? : response.facet? id mappers
    = ((response.namedFacets mappers).find? (·.1 = id)).map (·.2) := by
  rw [facet?_eq_head?, facetNodesNamed, namedFacets, ← List.head?_filter,
    OrderedMap.filter_filterMap_key (Xml.Node.attribute? "NAME") (fun _ _ => rfl) id,
    List.head?_map, Option.map_map]
  rfl

/-- All facets together keep the last facet of the name. -/
theorem get?_facets :
    (response.facets mappers).get? (Facet.keyOf id)
      = (response.facetNodesNamed id).getLast?.map (Facet.ofNode mappers id) := by
  rw [facets_eq_ofList, OrderedMap.get?_ofList,
    OrderedMap.last?_map fun f _ => Facet.keyOf_inj.1, last?_namedFacets]

/-- **The two ways of looking a facet up** find one or none together.  One takes the first facet of
the name and the other the last, so they agree exactly where these have the same terms with the same
frequencies: always where the name is not repeated. -/
theorem facet_lookups :
    (response.facet? id mappers = none ↔
      (response.facets mappers).get? (Facet.keyOf id) = none) ∧
    response.facet? id mappers
      = (response.facetNodesNamed id).head?.map (Facet.ofNode mappers id) ∧
    (response.facets mappers).get? (Facet.keyOf id)
      = (response.facetNodesNamed id).getLast?.map (Facet.ofNode mappers id) ∧
    (response.facet? id mappers = (response.facets mappers).get? (Facet.keyOf id) ↔
      ∀ first ∈ (response.facetNodesNamed id).head?,
        ∀ last ∈ (response.facetNodesNamed id).getLast?,
          Facet.ofNode mappers id first = Facet.ofNode mappers id last) ∧
    ((response.facetNodesNamed id).length ≤ 1 →
      response.facet? id mappers = (response.facets mappers).get? (Facet.keyOf id)) := by
  rw [facet?_eq_head?, get?_facets]
  rcases hnamed : response.facetNodesNamed id with _ | ⟨node, rest⟩
  · simp
  · rw [List.head?_cons, List.getLast?_cons]
    refine ⟨by simp, rfl, rfl, by simp, ?_⟩
    intro hlen
    have hrest : rest = [] := by
      rw [List.length_cons] at hlen
      exact List.eq_nil_of_length_eq_zero (by omega)
    rw [hrest]
    rfl

/-- Of two facets of one name, a lookup by id finds the first, and all facets together have the
second. -/
theorem facet_lookups_repeated_name :
    (parse ("<R xmlns=\"http://www.exlibrisgroup.com/xsd/jaguar/search\">" ++
        "<FACET NAME=\"a\"><FACET_VALUES KEY=\"x\" VALUE=\"1\"/></FACET>" ++
        "<FACET NAME=\"a\"><FACET_VALUES KEY=\"x\" VALUE=\"2\"/></FACET></R>")).map
      (fun response =>
        (response.facet? "a" .empty, (response.facets .empty).get? (Facet.keyOf "a")))
      = .ok (some ⟨"a", .ofList [("x", 1)]⟩, some ⟨"a", .ofList [("x", 2)]⟩) := by
  decide +kernel

end Response

end BriefSearch
