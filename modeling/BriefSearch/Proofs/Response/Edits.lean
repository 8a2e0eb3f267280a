import BriefSearch.Proofs.Response.Facets
import BriefSearch.Proofs.Response.Records
import BriefSearch.Proofs.Xml.Outline

/-!
# Edits that a response does not show

What a response says is read from the outline of its root: from elements by their names, from
attributes, and from all the text in an element.  Comments, processing instructions and the places
where a text is cut make no difference to it.

* **`Xml.rootOf?`** — the root of a document among the nodes at its top;
* **`Doc.contents`** — everything that is read from a record;
* **`Response.totalHits_eq_of_alike`**, **`Response.documents_eq_of_alike`**,
  **`Response.namedFacets_eq_of_alike`** — roots of one outline give the same;
* **`Response.unchanged_by_edits`** — edits anywhere in a document leave what it says unchanged.
-/

namespace BriefSearch

namespace Xml

/-- The root of a document, which is the element among the nodes at its top. -/
def rootOf? (top : List Node) : Option Node :=
  top.find? (·.name?.isSome)

theorem head?_outlines (top : List Node) :
    (Node.outlines top).head? = (rootOf? top).bind (·.outline?) := by
  rw [rootOf?]
  induction top with
  | nil => rfl
  | cons node top ih =>
    cases node with
    | element name attributes children => rfl
    | _ => exact ih

/-- A document keeps a root of the same outline. -/
theorem Edited.exists_root {top top' : List Node} (h : Edited top top') {root : Node}
    (hroot : rootOf? top = some root) :
    ∃ root', rootOf? top' = some root' ∧ Node.Alike root root' := by
  have hhead := congrArg List.head? h.outlines_eq
  rw [head?_outlines, head?_outlines, hroot, Option.bind_some] at hhead
  have helement : root.outline?.isSome := by
    have hname := List.find?_some hroot
    cases root with
    | element => rfl
    | _ => cases hname
  obtain ⟨outline, houtline⟩ := Option.isSome_iff_exists.1 helement
  rw [houtline] at hhead
  obtain ⟨root', hroot', houtline'⟩ := Option.bind_eq_some_iff.1 hhead.symm
  exact ⟨root', hroot', outline, houtline, houtline'⟩

end Xml

/-- Everything that is read from a record: its fields and the local fields of all numbers. -/
def Doc.contents (doc : Doc) : Record × (UInt32 → Option String) × (UInt32 → List String) :=
  (doc.record, doc.localDisplayField?, doc.localSearchFields)

theorem Doc.contents_eq_of_alike {a b : Xml.Node} (h : Xml.Node.Alike a b) (id : String) :
    contents ⟨id, a⟩ = contents ⟨id, b⟩ := by
  have hfield : ∀ part field, Doc.field? ⟨id, a⟩ part field = Doc.field? ⟨id, b⟩ part field :=
    fun _ _ => h.value?_eq _
  have hfields : ∀ part field, Doc.fields ⟨id, a⟩ part field = Doc.fields ⟨id, b⟩ part field :=
    fun _ _ => h.values_eq _
  have hrecord : Doc.record ⟨id, a⟩ = Doc.record ⟨id, b⟩ := by
    simp only [record, hfield, hfields, h.values_eq, h.value?_eq]
  have hdisplay : Doc.localDisplayField? ⟨id, a⟩ = Doc.localDisplayField? ⟨id, b⟩ :=
    funext fun _ => hfield _ _
  have hsearch : Doc.localSearchFields ⟨id, a⟩ = Doc.localSearchFields ⟨id, b⟩ :=
    funext fun _ => hfields _ _
  rw [contents, contents, hrecord, hdisplay, hsearch]

theorem Facet.ofNode_eq_of_alike {a b : Xml.Node} (h : Xml.Node.Alike a b)
    (mappers : ValueMappers) (id : String) : ofNode mappers id a = ofNode mappers id b := by
  rw [ofNode, ofNode]
  refine congrArg (fun terms => Facet.mk id (.ofList terms)) ?_
  refine Xml.Node.filterMap_of_alike (h.children _) fun a b hab => ?_
  rw [term?, term?, hab.attribute?_eq, hab.attribute?_eq]

namespace Response

variable {response response' : Response} (h : Xml.Node.Alike response.root response'.root)

include h

theorem totalHits_eq_of_alike : response.totalHits = response'.totalHits := by
  have helements := h.elements [searchName "DOCSET"]
  rw [totalHits, totalHits, Xml.Node.element?, Xml.Node.element?]
  generalize response.root.elements [searchName "DOCSET"] = as at helements ⊢
  generalize response'.root.elements [searchName "DOCSET"] = bs at helements ⊢
  cases helements with
  | nil => rfl
  | cons hab _ => exact congrArg countIn (hab.attribute?_eq "TOTALHITS")

theorem docs_eq_of_alike :
    response.docs.map (fun doc => (doc.id, doc.contents))
      = response'.docs.map fun doc => (doc.id, doc.contents) := by
  rw [docs, docs, List.map_filterMap, List.map_filterMap]
  refine Xml.Node.filterMap_of_alike (h.elements _) fun a b hab => ?_
  have hid : recordId? a = recordId? b := congrArg (Option.map Text.trim) (hab.value?_eq _)
  rw [hid, Option.map_map, Option.map_map]
  exact congrArg (Option.map · _)
    (funext fun id => congrArg (id, ·) (Doc.contents_eq_of_alike hab id))

theorem documents_eq_of_alike :
    response.documents.mapValues Doc.contents = response'.documents.mapValues Doc.contents := by
  have hdocs := congrArg OrderedMap.ofList (docs_eq_of_alike h)
  rw [documents, documents, OrderedMap.mapValues_ofList, OrderedMap.mapValues_ofList, List.map_map,
    List.map_map]
  exact hdocs

theorem namedFacets_eq_of_alike (mappers : ValueMappers) :
    response.namedFacets mappers = response'.namedFacets mappers := by
  refine Xml.Node.filterMap_of_alike (h.elements _) fun a b hab => ?_
  rw [hab.attribute?_eq]
  exact congrArg (Option.map · _)
    (funext fun name => congrArg (name, ·) (Facet.ofNode_eq_of_alike hab mappers name))

omit h

/-- **Edits that do not touch elements are not seen.**  When comments and instructions are put
anywhere into a document or taken out, and texts are cut or made one, the document keeps a root, and
the response has as many hits, the same ids in the same order with the same contents, and the same
facets whatever the mappers; looking up a single record or facet finds the same as well. -/
theorem unchanged_by_edits {top top' : List Xml.Node} (hedited : Xml.Edited top top')
    {root : Xml.Node} (hroot : Xml.rootOf? top = some root) :
    ∃ root', Xml.rootOf? top' = some root' ∧
      (Response.mk root').totalHits = (Response.mk root).totalHits ∧
      (Response.mk root').documents.mapValues Doc.contents
        = (Response.mk root).documents.mapValues Doc.contents ∧
      (∀ id, ((Response.mk root').document? id).map Doc.contents
        = ((Response.mk root).document? id).map Doc.contents) ∧
      (∀ mappers, (Response.mk root').facets mappers = (Response.mk root).facets mappers) ∧
      ∀ id mappers,
        (Response.mk root').facet? id mappers = (Response.mk root).facet? id mappers := by
  obtain ⟨root', hroot', halike⟩ := hedited.exists_root hroot
  have hsame : Xml.Node.Alike (Response.mk root).root (Response.mk root').root := halike
  have hdocuments := documents_eq_of_alike hsame
  refine ⟨root', hroot', (totalHits_eq_of_alike hsame).symm, hdocuments.symm, ?_, ?_, ?_⟩
  · intro id
    rw [← get?_documents, ← get?_documents, ← OrderedMap.get?_mapValues,
      ← OrderedMap.get?_mapValues, hdocuments]
  · intro mappers
    rw [facets_eq_ofList, facets_eq_ofList, namedFacets_eq_of_alike hsame]
  · intro id mappers
    rw [facet?_eq_find?, facet?_eq_find?, namedFacets_eq_of_alike hsame]

/-- An id between spaces with a comment in the middle, in a document with a comment before its
root. -/
theorem unchanged_by_edits_in_id :
    ∃ top top' root root', Xml.Edited top top' ∧ Xml.rootOf? top = some root ∧
      Xml.rootOf? top' = some root' ∧
      (Response.mk root).documents.keys = ["a1"] ∧ (Response.mk root').documents.keys = ["a1"] := by
  let doc (texts : List Xml.Node) : Xml.Node := .element (searchName "DOC") []
    [.element (recordName "control") [] [.element (recordName "recordid") [] texts]]
  let root : Xml.Node := doc [.text " a1 "]
  have hsplit : Xml.Edit [root] [doc [.text " a", .text "1 "]] :=
    .inside [] [] _ _ (.inside [] [] _ _ (.inside [] [] _ _ (.split [] [] " a" "1 ")))
  have hcomment : Xml.Edit [doc [.text " a", .text "1 "]]
      [doc [.text " a", .comment "x", .text "1 "]] :=
    .inside [] [] _ _ (.inside [] [] _ _ (.inside [] [] _ _ (.comment [.text " a"] _ "x")))
  have hbefore : Xml.Edit [doc [.text " a", .comment "x", .text "1 "]]
      [.comment "y", doc [.text " a", .comment "x", .text "1 "]] := .comment [] _ "y"
  have hedited : Xml.Edited [root]
      [.comment "y", doc [.text " a", .comment "x", .text "1 "]] :=
    .trans _ _ _ (.trans _ _ _ (.rel _ _ hsplit) (.rel _ _ hcomment)) (.rel _ _ hbefore)
  obtain ⟨root', hroot', -, hdocuments, -⟩ := unchanged_by_edits hedited
    (show Xml.rootOf? [root] = some root from rfl)
  have hkeys : (Response.mk root).documents.keys = ["a1"] := by decide +kernel
  refine ⟨_, _, root, root', hedited, rfl, hroot', hkeys, ?_⟩
  rw [← OrderedMap.keys_mapValues Doc.contents, hdocuments, OrderedMap.keys_mapValues, hkeys]

end Response

end BriefSearch
