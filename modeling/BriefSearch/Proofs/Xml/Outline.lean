import BriefSearch.Proofs.Xml.Elements
import Mathlib.Data.List.Forall2
import Mathlib.Logic.Relation

/-!
# Edits that do not touch elements

Comments and processing instructions can be put anywhere into a tree or taken out of it, and a text
can be cut into several ones.  None of this changes the outline of the tree: its elements with their
names, attributes and texts.

* **`Edit`**, **`Edited`** — one such change of siblings, and any number of them in both directions;
* **`Outline`**, **`Node.outline?`** — what is left of an element;
* **`Edited.outlines_eq`** — edits keep outlines;
* **`Node.filterMap_outline?_elements`** — a path leads to the same outlines in trees of the same
  outline;
* **`Node.Alike`** — elements of one outline, with **`Node.Alike.elements`**,
  **`Node.Alike.attribute?_eq`** and **`Node.Alike.content_eq`**: nothing that is read from them
  tells them apart.
-/

namespace BriefSearch.Xml

/-! ### Text put together -/

theorem intercalate_empty_cons (t : String) (ts : List String) :
    "".intercalate (t :: ts) = t ++ "".intercalate ts := by
  cases ts with
  | nil => rw [String.intercalate_singleton, String.intercalate_nil, String.append_empty]
  | cons t' ts => rw [String.intercalate_cons_cons, String.append_empty]

theorem intercalate_empty_append (ts ts' : List String) :
    "".intercalate (ts ++ ts') = "".intercalate ts ++ "".intercalate ts' := by
  induction ts with
  | nil => rw [List.nil_append, String.intercalate_nil, String.empty_append]
  | cons t ts ih =>
    rw [List.cons_append, intercalate_empty_cons, ih, intercalate_empty_cons, String.append_assoc]

namespace Node

theorem textsOfAll_append (ns ns' : List Node) :
    textsOfAll (ns ++ ns') = textsOfAll ns ++ textsOfAll ns' := by
  induction ns with
  | nil => rfl
  | cons node ns ih => rw [List.cons_append, textsOfAll, ih, textsOfAll, List.append_assoc]

/-- All text in nodes and below them, one piece behind the other. -/
def contentOfAll (ns : List Node) : String :=
  "".intercalate (textsOfAll ns)

theorem contentOfAll_append (ns ns' : List Node) :
    contentOfAll (ns ++ ns') = contentOfAll ns ++ contentOfAll ns' := by
  rw [contentOfAll, textsOfAll_append, intercalate_empty_append, contentOfAll, contentOfAll]

theorem contentOfAll_cons (node : Node) (ns : List Node) :
    contentOfAll (node :: ns) = node.content ++ contentOfAll ns := by
  rw [contentOfAll, textsOfAll, intercalate_empty_append, content, contentOfAll]

theorem content_element (name : Name) (attributes : List Attribute) (children : List Node) :
    (element name attributes children).content = contentOfAll children := by
  rw [content, texts, contentOfAll]

theorem content_text (s : String) : (text s).content = s := by
  rw [content, texts, String.intercalate_singleton]

theorem content_comment (s : String) : (comment s).content = "" := by
  rw [content, texts, String.intercalate_nil]

theorem content_instruction (target s : String) : (instruction target s).content = "" := by
  rw [content, texts, String.intercalate_nil]

end Node

/-! ### Edits -/

/-- One change of nodes that stand next to each other: a comment or an instruction is put between
them, a text is cut in two, or the children of an element are changed in such a way. -/
inductive Edit : List Node → List Node → Prop where
  | comment (before after : List Node) (content : String) :
    Edit (before ++ after) (before ++ .comment content :: after)
  | instruction (before after : List Node) (target content : String) :
    Edit (before ++ after) (before ++ .instruction target content :: after)
  | split (before after : List Node) (first second : String) :
    Edit (before ++ .text (first ++ second) :: after)
      (before ++ .text first :: .text second :: after)
  | inside (before after : List Node) (name : Name) (attributes : List Attribute)
    {children children' : List Node} (edit : Edit children children') :
    Edit (before ++ .element name attributes children :: after)
      (before ++ .element name attributes children' :: after)

/-- Any number of changes, made or taken back: besides what `Edit` says, comments and instructions
are taken out and neighbouring texts are made one. -/
def Edited : List Node → List Node → Prop :=
  Relation.EqvGen Edit

/-! ### Outlines -/

/-- What is left of an element: its name, its attributes, all text in it, and the outlines of the
elements among its children. -/
inductive Outline where
  | element (name : Name) (attributes : List Attribute) (content : String)
    (children : List Outline)

namespace Outline

/-- The name of the element. -/
def name : Outline → Name
  | element name _ _ _ => name

/-- The elements among the children. -/
def children : Outline → List Outline
  | element _ _ _ children => children

mutual

/-- An element and all elements below it, in document order. -/
def all : Outline → List Outline
  | element name attributes content children =>
    element name attributes content children :: allOf children

/-- Elements and all elements below them. -/
def allOf : List Outline → List Outline
  | [] => []
  | outline :: rest => outline.all ++ allOf rest

end

theorem allOf_append (os os' : List Outline) : allOf (os ++ os') = allOf os ++ allOf os' := by
  induction os with
  | nil => rfl
  | cons outline os ih => rw [List.cons_append, allOf, ih, allOf, List.append_assoc]

/-- Goes on to the children of a name. -/
def next (found : List Outline) (name : Name) : List Outline :=
  (found.flatMap children).filter (·.name = name)

end Outline

namespace Node

mutual

/-- The outline of an element; other nodes have none. -/
def outline? : Node → Option Outline
  | element name attributes children =>
    some (.element name attributes (contentOfAll children) (outlines children))
  | text _ => none
  | comment _ => none
  | instruction _ _ => none

/-- The outlines of the elements among nodes. -/
def outlines : List Node → List Outline
  | [] => []
  | node :: rest => node.outline?.toList ++ outlines rest

end

theorem outlines_append (ns ns' : List Node) :
    outlines (ns ++ ns') = outlines ns ++ outlines ns' := by
  induction ns with
  | nil => rfl
  | cons node ns ih => rw [List.cons_append, outlines, ih, outlines, List.append_assoc]

theorem outlines_eq_filterMap (ns : List Node) : outlines ns = ns.filterMap outline? := by
  induction ns with
  | nil => rfl
  | cons node ns ih =>
    rw [outlines, ih, List.filterMap_cons]
    cases node.outline? <;> rfl

end Node

/-- **An edit keeps the text and the outlines.** -/
theorem Edit.same {ns ns' : List Node} (h : Edit ns ns') :
    Node.contentOfAll ns = Node.contentOfAll ns' ∧ Node.outlines ns = Node.outlines ns' := by
  induction h with
  | comment before after content =>
    constructor
    · rw [Node.contentOfAll_append, Node.contentOfAll_append, Node.contentOfAll_cons,
        Node.content_comment, String.empty_append]
    · rw [Node.outlines_append, Node.outlines_append]
      rfl
  | instruction before after target content =>
    constructor
    · rw [Node.contentOfAll_append, Node.contentOfAll_append, Node.contentOfAll_cons,
        Node.content_instruction, String.empty_append]
    · rw [Node.outlines_append, Node.outlines_append]
      rfl
  | split before after first second =>
    constructor
    · simp only [Node.contentOfAll_append, Node.contentOfAll_cons, Node.content_text,
        String.append_assoc]
    · rw [Node.outlines_append, Node.outlines_append]
      rfl
  | inside before after name attributes edit ih =>
    obtain ⟨hcontent, houtlines⟩ := ih
    constructor
    · simp only [Node.contentOfAll_append, Node.contentOfAll_cons, Node.content_element, hcontent]
    · simp only [Node.outlines_append, Node.outlines, Node.outline?, hcontent, houtlines]

/-- **Edits keep the outlines**, however many and in whichever direction. -/
theorem Edited.outlines_eq {ns ns' : List Node} (h : Edited ns ns') :
    Node.outlines ns = Node.outlines ns' := by
  induction h with
  | rel ns ns' edit => exact edit.same.2
  | refl ns => rfl
  | symm ns ns' _ ih => exact ih.symm
  | trans ns ns' ns'' _ _ ih ih' => exact ih.trans ih'

namespace Node

/-! ### Paths in outlines -/

mutual

theorem filterMap_outline?_nodes :
    ∀ node : Node, node.nodes.filterMap outline? = Outline.allOf node.outline?.toList
  | element name attributes children => by
    rw [nodes, List.filterMap_cons, filterMap_outline?_nodesOfAll children]
    simp only [outline?, Option.toList_some, Outline.allOf, Outline.all, List.append_nil]
  | text content => rfl
  | comment content => rfl
  | instruction target content => rfl

theorem filterMap_outline?_nodesOfAll :
    ∀ ns : List Node, (nodesOfAll ns).filterMap outline? = Outline.allOf (outlines ns)
  | [] => rfl
  | node :: rest => by
    rw [nodesOfAll, List.filterMap_append, filterMap_outline?_nodes node,
      filterMap_outline?_nodesOfAll rest, outlines, Outline.allOf_append]

end

theorem filterMap_outline?_filter (name : Name) (ns : List Node) :
    (ns.filter (·.hasName name)).filterMap outline?
      = (ns.filterMap outline?).filter (·.name = name) := by
  have hname : ∀ node : Node, (if node.hasName name then node.outline? else none)
      = node.outline?.filter (·.name = name) := by
    intro node
    cases node with
    | element name' attributes children =>
      have hsame : (element name' attributes children).hasName name = decide (name' = name) := by
        simp only [hasName, name?, Option.some.injEq]
      rw [hsame, outline?, Option.filter_some]
      rfl
    | _ => simp [hasName, name?, outline?]
  rw [List.filterMap_filter, List.filter_filterMap]
  exact List.filterMap_congr fun node _ => hname node

theorem filterMap_outline?_children (ns : List Node) :
    (ns.flatMap children).filterMap outline?
      = (ns.filterMap outline?).flatMap Outline.children := by
  induction ns with
  | nil => rfl
  | cons node ns ih =>
    rw [List.flatMap_cons, List.filterMap_append, ih, List.filterMap_cons]
    cases node with
    | element name attributes children =>
      simp only [Node.children, outline?, List.flatMap_cons, Outline.children,
        outlines_eq_filterMap]
    | _ => rfl

theorem filterMap_outline?_foldl_next (path : List Name) (found : List Node) :
    (path.foldl next found).filterMap outline?
      = path.foldl Outline.next (found.filterMap outline?) := by
  induction path generalizing found with
  | nil => rfl
  | cons name path ih =>
    rw [List.foldl_cons, ih, next, filterMap_outline?_filter, filterMap_outline?_children,
      List.foldl_cons, Outline.next]

/-- **A path leads to the same outlines in nodes of the same outline.** -/
theorem filterMap_outline?_elements {a b : Node} (h : a.outline? = b.outline?)
    (path : List Name) :
    (a.elements path).filterMap outline? = (b.elements path).filterMap outline? := by
  cases path with
  | nil => rfl
  | cons name path =>
    rw [elements_cons, elements_cons, filterMap_outline?_foldl_next, filterMap_outline?_foldl_next,
      filterMap_outline?_filter, filterMap_outline?_filter, filterMap_outline?_nodes,
      filterMap_outline?_nodes, h]

/-! ### Elements of one outline -/

/-- Holds for two elements of one outline. -/
def Alike (a b : Node) : Prop :=
  ∃ outline, a.outline? = some outline ∧ b.outline? = some outline

/-- Elements of one outline differ in nothing but how the text stands between their children. -/
theorem Alike.exists_elements {a b : Node} (h : Alike a b) :
    ∃ name attributes as bs, a = element name attributes as ∧ b = element name attributes bs ∧
      contentOfAll as = contentOfAll bs ∧ outlines as = outlines bs := by
  obtain ⟨outline, ha, hb⟩ := h
  cases a with
  | element name attributes as =>
    cases b with
    | element name' attributes' bs =>
      rw [← ha, outline?, outline?, Option.some.injEq, Outline.element.injEq] at hb
      obtain ⟨rfl, rfl, hcontent, houtlines⟩ := hb
      exact ⟨name', attributes', as, bs, rfl, rfl, hcontent.symm, houtlines.symm⟩
    | _ => cases hb
  | _ => cases ha

theorem Alike.attribute?_eq {a b : Node} (h : Alike a b) (localName : String) :
    a.attribute? localName = b.attribute? localName := by
  obtain ⟨name, attributes, as, bs, rfl, rfl, -, -⟩ := h.exists_elements
  rfl

theorem Alike.content_eq {a b : Node} (h : Alike a b) : a.content = b.content := by
  obtain ⟨name, attributes, as, bs, rfl, rfl, hcontent, -⟩ := h.exists_elements
  rw [content_element, content_element, hcontent]

/-- Elements with the same outlines are alike one by one. -/
theorem forall₂_alike {as bs : List Node} (has : ∀ a ∈ as, a.outline?.isSome)
    (hbs : ∀ b ∈ bs, b.outline?.isSome) (h : as.filterMap outline? = bs.filterMap outline?) :
    List.Forall₂ Alike as bs := by
  induction as generalizing bs with
  | nil =>
    cases bs with
    | nil => exact .nil
    | cons b bs =>
      obtain ⟨outline, hb⟩ := Option.isSome_iff_exists.1 (hbs b List.mem_cons_self)
      rw [List.filterMap_cons_some hb] at h
      cases h
  | cons a as ih =>
    obtain ⟨ha, has⟩ := List.forall_mem_cons.1 has
    obtain ⟨outline, ha⟩ := Option.isSome_iff_exists.1 ha
    rw [List.filterMap_cons_some ha] at h
    cases bs with
    | nil => cases h
    | cons b bs =>
      obtain ⟨hb, hbs⟩ := List.forall_mem_cons.1 hbs
      obtain ⟨outline', hb⟩ := Option.isSome_iff_exists.1 hb
      rw [List.filterMap_cons_some hb] at h
      obtain ⟨hfirst, hrest⟩ := List.cons.inj h
      subst hfirst
      exact .cons ⟨outline, ha, hb⟩ (ih has hbs hrest)

theorem isSome_outline?_of_hasName {node : Node} {name : Name} (h : node.hasName name = true) :
    node.outline?.isSome := by
  cases node with
  | element => rfl
  | _ => cases h

/-- What a path leads to are elements. -/
theorem isSome_outline?_of_mem_elements {scope : Node} {path : List Name} :
    ∀ node ∈ scope.elements path, node.outline?.isSome := by
  cases path with
  | nil => exact fun node h => absurd h List.not_mem_nil
  | cons name path =>
    rw [elements_cons]
    -- Whatever has been found before the last name, it is filtered by this name.
    rcases List.eq_nil_or_concat' path with rfl | ⟨path, last, rfl⟩
    · exact fun node h => isSome_outline?_of_hasName (List.mem_filter.1 h).2
    · rw [List.foldl_append]
      exact fun node h => isSome_outline?_of_hasName (List.mem_filter.1 h).2

/-- **A path leads to the same elements, one by one, in elements of one outline.** -/
theorem Alike.elements {a b : Node} (h : Alike a b) (path : List Name) :
    List.Forall₂ Alike (a.elements path) (b.elements path) := by
  obtain ⟨outline, ha, hb⟩ := h
  exact forall₂_alike isSome_outline?_of_mem_elements isSome_outline?_of_mem_elements
    (filterMap_outline?_elements (ha.trans hb.symm) path)

/-- The children of a name are the same, one by one. -/
theorem Alike.children {a b : Node} (h : Alike a b) (name : Name) :
    List.Forall₂ Alike (a.children.filter (·.hasName name))
      (b.children.filter (·.hasName name)) := by
  obtain ⟨name', attributes, as, bs, rfl, rfl, -, houtlines⟩ := h.exists_elements
  rw [outlines_eq_filterMap, outlines_eq_filterMap] at houtlines
  refine forall₂_alike ?_ ?_ ?_
  · exact fun node h => isSome_outline?_of_hasName (List.mem_filter.1 h).2
  · exact fun node h => isSome_outline?_of_hasName (List.mem_filter.1 h).2
  · rw [filterMap_outline?_filter, filterMap_outline?_filter]
    exact congrArg (List.filter _) houtlines

/-- What is read from elements one by one is the same in elements that are alike. -/
theorem filterMap_of_alike {α : Type} {as bs : List Node} (h : List.Forall₂ Alike as bs)
    {read : Node → Option α} (hread : ∀ a b, Alike a b → read a = read b) :
    as.filterMap read = bs.filterMap read := by
  induction h with
  | nil => rfl
  | cons hab _ ih => rw [List.filterMap_cons, List.filterMap_cons, hread _ _ hab, ih]

theorem Alike.values_eq {a b : Node} (h : Alike a b) (path : List Name) :
    a.values path = b.values path := by
  have hcontents : (a.elements path).filterMap (fun n => some n.content)
      = (b.elements path).filterMap fun n => some n.content :=
    filterMap_of_alike (h.elements path) fun _ _ hab => congrArg some hab.content_eq
  rwa [List.filterMap_eq_map'] at hcontents

theorem Alike.value?_eq {a b : Node} (h : Alike a b) (path : List Name) :
    a.value? path = b.value? path := by
  rw [value?, value?, h.values_eq]

end Node

end BriefSearch.Xml
