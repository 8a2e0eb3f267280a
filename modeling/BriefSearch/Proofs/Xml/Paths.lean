import BriefSearch.Proofs.Xml.Elements
import Mathlib.Data.List.Forall2

/-!
# Elements at the ends of chains

A node of a tree is known by its place, the child positions that lead to it from the root.  A path
of names finds the elements that end a chain: each element of the chain is the parent of the next,
and they have the names of the path one by one.

* **`Located.InSubtree`** — the nodes of the subtree at a place;
* **`Located.IsTrail`** — the chains that a path of names describes;
* **`Located.Precedes`** — places in document order, neither of them inside the other: a relation
  that children have from their parents, so that **`pairwise_descend`** carries it down a path;
* **`select_ends_of_trails`** — a path finds the ends of its chains, each of them once, and in
  document order where the elements that the chains begin with are not nested.
-/

namespace BriefSearch.Xml

/-! ### Places in a tree -/

/-- A place is reached through the places before it. -/
theorem Node.at?_append (node : Node) (place more : List Nat) :
    node.at? (place ++ more) = (node.at? place).bind (·.at? more) := by
  induction place generalizing node with
  | nil => rfl
  | cons position place ih =>
    rw [List.cons_append, at?, at?]
    cases node.children[position]? with
    | none => rfl
    | some child => exact ih child

namespace Located

/-- A node of a tree that stands at a given place or below it. -/
def InSubtree (tree : Node) (origin : List Nat) (found : Located) : Prop :=
  origin <+: found.place ∧ tree.at? found.place = some found.node

/-- A node with its place in the tree in which the scope stands at a given place. -/
def under (origin : List Nat) (found : Located) : Located :=
  { found with place := origin ++ found.place }

/-- The nodes listed from a place of a tree on are those of its subtree. -/
theorem mem_below_iff_inSubtree {tree scope : Node} {origin : List Nat}
    (hscope : tree.at? origin = some scope) {found : Located} :
    found ∈ below origin scope ↔ InSubtree tree origin found := by
  rw [mem_below_iff]
  constructor
  · intro h
    obtain ⟨more, hplace, hat⟩ := h
    refine ⟨⟨more, hplace.symm⟩, ?_⟩
    rw [hplace, Node.at?_append, hscope]
    exact hat
  · intro h
    obtain ⟨⟨more, hplace⟩, hat⟩ := h
    rw [← hplace, Node.at?_append, hscope] at hat
    exact ⟨more, hplace.symm, hat⟩

/-! ### Parents -/

/-- The second node is a child of the first. -/
def IsParent (parent child : Located) : Prop :=
  ∃ position, child.place = parent.place ++ [position] ∧
    parent.node.children[position]? = some child.node

theorem mem_children_iff {parent child : Located} :
    child ∈ parent.children ↔ IsParent parent child := by
  rw [children, List.mem_map]
  constructor
  · intro h
    obtain ⟨⟨node, position⟩, hmem, rfl⟩ := h
    exact ⟨position, rfl, List.mem_zipIdx_iff_getElem?.1 hmem⟩
  · intro h
    obtain ⟨position, hplace, hchild⟩ := h
    refine ⟨(child.node, position), List.mem_zipIdx_iff_getElem?.2 hchild, ?_⟩
    show Located.mk (parent.place ++ [position]) child.node = child
    rw [← hplace]

/-! ### Chains -/

/-- A chain of elements of a tree that a path of names describes: the first is in the subtree at a
given place, each is the parent of the next, and they have the names one by one. -/
structure IsTrail (tree : Node) (origin : List Nat) (path : List Name) (trail : List Located) :
    Prop where
  first : ∀ found ∈ trail.head?, InSubtree tree origin found
  parents : trail.IsChain IsParent
  named : List.Forall₂ (fun found name => found.node.hasName name = true) trail path

/-- **Going down a path leads to the ends of chains** that begin with what was found before. -/
theorem mem_descend_iff {path : List Name} {found : List Located} {last : Located} :
    last ∈ descend found path ↔ ∃ first ∈ found, ∃ trail,
      (first :: trail).IsChain IsParent ∧
      List.Forall₂ (fun found name => found.node.hasName name = true) trail path ∧
      (first :: trail).getLast? = some last := by
  induction path generalizing found with
  | nil =>
    rw [descend]
    constructor
    · intro h
      exact ⟨last, h, [], .singleton last, .nil, rfl⟩
    · intro h
      obtain ⟨first, hfirst, trail, -, hnamed, hlast⟩ := h
      cases hnamed
      cases hlast
      exact hfirst
  | cons name path ih =>
    rw [descend, ih]
    constructor
    · intro h
      obtain ⟨next, hnext, trail, hchain, hnamed, hlast⟩ := h
      obtain ⟨hchild, hname⟩ := List.mem_filter.1 hnext
      obtain ⟨first, hfirst, hchild⟩ := List.mem_flatMap.1 hchild
      refine ⟨first, hfirst, next :: trail, ?_, .cons hname hnamed, ?_⟩
      · exact .cons_cons (mem_children_iff.1 hchild) hchain
      · rw [List.getLast?_cons_cons, hlast]
    · intro h
      obtain ⟨first, hfirst, trail, hchain, hnamed, hlast⟩ := h
      cases hnamed with
      | @cons next _ trail _ hname hnamed =>
        obtain ⟨hparent, hchain⟩ := List.isChain_cons_cons.1 hchain
        rw [List.getLast?_cons_cons] at hlast
        refine ⟨next, List.mem_filter.2 ⟨?_, hname⟩, trail, hchain, hnamed, hlast⟩
        exact List.mem_flatMap.2 ⟨first, hfirst, mem_children_iff.2 hparent⟩

/-! ### Each element once, and in document order -/

/-- The first of two places comes first in document order, and the second is not inside it: where
they part, it goes into an earlier child. -/
def Precedes (p q : List Nat) : Prop :=
  ∃ common i j, i < j ∧ common ++ [i] <+: p ∧ common ++ [j] <+: q

theorem Precedes.lt {p q : List Nat} (h : Precedes p q) : p < q := by
  obtain ⟨common, i, j, hij, ⟨s, hp⟩, ⟨t, hq⟩⟩ := h
  rw [← hp, ← hq, List.append_assoc, List.append_assoc]
  exact List.Lex.append_left _ (.rel hij) common

/-- Places inside two such places are two such places. -/
theorem Precedes.mono {p q p' q' : List Nat} (h : Precedes p q) (hp : p <+: p')
    (hq : q <+: q') : Precedes p' q' := by
  obtain ⟨common, i, j, hij, hi, hj⟩ := h
  exact ⟨common, i, j, hij, hi.trans hp, hj.trans hq⟩

/-- In document order, a place is followed by the places inside it and by those that it precedes. -/
theorem precedes_of_lt {p q : List Nat} (hlt : p < q) (hinside : ¬ p <+: q) : Precedes p q := by
  have hlex : List.Lex (· < ·) p q := hlt
  induction hlex with
  | nil => exact absurd List.nil_prefix hinside
  | @cons a p q hlex ih =>
    have htail : ¬ p <+: q := by
      intro h
      exact hinside (List.cons_prefix_cons.2 ⟨rfl, h⟩)
    obtain ⟨common, i, j, hij, hi, hj⟩ := ih hlex htail
    exact ⟨a :: common, i, j, hij, List.cons_prefix_cons.2 ⟨rfl, hi⟩,
      List.cons_prefix_cons.2 ⟨rfl, hj⟩⟩
  | @rel a p b q hab => exact ⟨[], a, b, hab, ⟨p, rfl⟩, ⟨q, rfl⟩⟩

section

variable {R : List Nat → List Nat → Prop}

/-- Children of one node stand in a relation that holds from each child to those behind it. -/
theorem pairwise_children (hsame : ∀ place i j, i < j → R (place ++ [i]) (place ++ [j]))
    (parent : Located) : parent.children.Pairwise (R ·.place ·.place) := by
  rw [children, List.pairwise_map, List.pairwise_iff_getElem]
  intro i j hi hj hij
  rw [List.getElem_zipIdx, List.getElem_zipIdx]
  apply hsame
  omega

/-- **A relation between places goes down a path** when the children of one node have it, in their
order, and children have it from their parents. -/
theorem pairwise_descend (hsame : ∀ place i j, i < j → R (place ++ [i]) (place ++ [j]))
    (hbelow : ∀ p q i j, R p q → R (p ++ [i]) (q ++ [j])) (path : List Name)
    {found : List Located} (h : found.Pairwise (R ·.place ·.place)) :
    (descend found path).Pairwise (R ·.place ·.place) := by
  induction path generalizing found with
  | nil => exact h
  | cons name path ih =>
    rw [descend]
    apply ih
    apply List.Pairwise.filter
    rw [List.pairwise_flatMap]
    refine ⟨fun parent _ => pairwise_children hsame parent, h.imp ?_⟩
    intro parent parent' hR child hchild child' hchild'
    obtain ⟨i, hplace, -⟩ := mem_children_iff.1 hchild
    obtain ⟨j, hplace', -⟩ := mem_children_iff.1 hchild'
    rw [hplace, hplace']
    exact hbelow _ _ i j hR

end

/-- Different elements have different children. -/
theorem pairwise_ne_descend (path : List Name) {found : List Located}
    (h : found.Pairwise (·.place ≠ ·.place)) :
    (descend found path).Pairwise (·.place ≠ ·.place) := by
  apply pairwise_descend _ _ path h
  · intro place i j hij he
    have hlast : [i] = [j] := List.append_cancel_left he
    simp at hlast
    omega
  · intro p q i j hne he
    exact hne (List.append_inj_left' he rfl)

/-- Children of elements that are not nested are not nested, and stand in the same order. -/
theorem pairwise_precedes_descend (path : List Name) {found : List Located}
    (h : found.Pairwise (fun a b => Precedes a.place b.place)) :
    (descend found path).Pairwise (fun a b => Precedes a.place b.place) := by
  apply pairwise_descend _ _ path h
  · intro place i j hij
    exact ⟨place, i, j, hij, List.prefix_refl _, List.prefix_refl _⟩
  · intro p q i j hpq
    exact hpq.mono (List.prefix_append p [i]) (List.prefix_append q [j])

/-! ### Places in the whole tree -/

mutual

theorem map_under_below (origin place : List Nat) :
    ∀ node : Node, (below place node).map (under origin) = below (origin ++ place) node
  | .element name attributes children => by
    rw [below, List.map_cons, map_under_belowAll origin place 0 children, below, under]
  | .text content => by rw [below, below, List.map_singleton, under]
  | .comment content => by rw [below, below, List.map_singleton, under]
  | .instruction target content => by rw [below, below, List.map_singleton, under]

theorem map_under_belowAll (origin place : List Nat) :
    ∀ (position : Nat) (nodes : List Node),
      (belowAll place position nodes).map (under origin)
        = belowAll (origin ++ place) position nodes
  | position, [] => by rw [belowAll, belowAll, List.map_nil]
  | position, node :: rest => by
    rw [belowAll, List.map_append, map_under_below origin _ node,
      map_under_belowAll origin place (position + 1) rest, belowAll, List.append_assoc]

end

theorem children_under (origin : List Nat) (parent : Located) :
    (parent.under origin).children = parent.children.map (under origin) := by
  rw [children, children, List.map_map]
  apply List.map_congr_left
  intro child _
  show Located.mk (origin ++ parent.place ++ [child.2]) child.1
    = ⟨origin ++ (parent.place ++ [child.2]), child.1⟩
  rw [List.append_assoc]

theorem map_under_descend (origin : List Nat) (path : List Name) (found : List Located) :
    (descend found path).map (under origin) = descend (found.map (under origin)) path := by
  induction path generalizing found with
  | nil => rfl
  | cons name path ih =>
    rw [descend, ih, descend, List.flatMap_map]
    simp only [children_under]
    rw [← List.map_flatMap, List.filter_map]
    rfl

/-- A path of names goes down from the elements of the first name in the subtree. -/
theorem map_under_select (origin : List Nat) (scope : Node) (name : Name) (path : List Name) :
    (select scope (name :: path)).map (under origin)
      = descend ((below origin scope).filter (·.node.hasName name)) path := by
  rw [select, map_under_descend]
  have hbelow := map_under_below origin [] scope
  rw [List.append_nil] at hbelow
  rw [← hbelow, List.filter_map]
  rfl

/-! ### What a path finds -/

/-- No element of the name in a subtree is inside another one. -/
def Unnested (tree : Node) (origin : List Nat) (name : Name) : Prop :=
  ∀ outer inner, InSubtree tree origin outer → InSubtree tree origin inner →
    outer.node.hasName name = true → inner.node.hasName name = true →
    outer.place <+: inner.place → outer.place = inner.place

/-- Elements of one name that are not nested precede one another. -/
theorem pairwise_precedes_filter {tree scope : Node} {origin : List Nat}
    (hscope : tree.at? origin = some scope) {name : Name} (h : Unnested tree origin name) :
    ((below origin scope).filter (·.node.hasName name)).Pairwise
      (fun a b => Precedes a.place b.place) := by
  have hsorted := (pairwise_below origin scope).filter (·.node.hasName name)
  apply hsorted.imp_of_mem
  intro a b ha hb hlt
  obtain ⟨ha, hname⟩ := List.mem_filter.1 ha
  obtain ⟨hb, hname'⟩ := List.mem_filter.1 hb
  apply precedes_of_lt hlt
  intro hinside
  have hplaces := h a b ((mem_below_iff_inSubtree hscope).1 ha)
    ((mem_below_iff_inSubtree hscope).1 hb) hname hname' hinside
  rw [hplaces] at hlt
  exact lt_irrefl _ hlt

end Located

open Located

/-- **A path finds the ends of its chains, each of them once.**  From a scope that stands anywhere
in a tree, the elements found are those at the end of a chain that begins in the subtree of the
scope, the scope itself included; no place is found twice; and they come in document order if no
element that a chain can begin with is inside another one. -/
theorem select_ends_of_trails {tree scope : Node} {origin : List Nat}
    (hscope : tree.at? origin = some scope) (name : Name) (path : List Name) :
    (∀ last, last ∈ (select scope (name :: path)).map (under origin) ↔
      ∃ trail, IsTrail tree origin (name :: path) trail ∧ trail.getLast? = some last) ∧
    (((select scope (name :: path)).map (under origin)).map (·.place)).Nodup ∧
    (Unnested tree origin name →
      ((select scope (name :: path)).map (under origin)).Pairwise (·.place < ·.place)) := by
  rw [map_under_select]
  refine ⟨?_, ?_, ?_⟩
  · intro last
    rw [mem_descend_iff]
    constructor
    · intro h
      obtain ⟨first, hfirst, trail, hchain, hnamed, hlast⟩ := h
      obtain ⟨hbelow, hname⟩ := List.mem_filter.1 hfirst
      refine ⟨first :: trail, ⟨?_, hchain, .cons hname hnamed⟩, hlast⟩
      intro found hfound
      cases hfound
      exact (mem_below_iff_inSubtree hscope).1 hbelow
    · intro h
      obtain ⟨trail, ⟨hfirst, hchain, hnamed⟩, hlast⟩ := h
      cases hnamed with
      | @cons first _ trail _ hname hnamed =>
        have hbelow := (mem_below_iff_inSubtree hscope).2 (hfirst first rfl)
        exact ⟨first, List.mem_filter.2 ⟨hbelow, hname⟩, trail, hchain, hnamed, hlast⟩
  · have hsorted := (pairwise_below origin scope).filter (·.node.hasName name)
    have hdistinct := pairwise_ne_descend path (hsorted.imp fun hlt => ne_of_lt hlt)
    exact List.pairwise_map.2 hdistinct
  · intro hunnested
    have hprecedes := pairwise_precedes_descend path (pairwise_precedes_filter hscope hunnested)
    exact hprecedes.imp fun h => h.lt

/-- The scope is the first child of the root, and has the first name itself.  Its second `b` is
found at its place in the tree, though not the `b` below the first one, nor that in the other `a` of
the root. -/
theorem select_ends_of_trails_in_child :
    ∃ tree scope : Node, tree.at? [0] = some scope ∧ Unnested tree [0] ⟨none, "a"⟩ ∧
      ((select scope [⟨none, "a"⟩, ⟨none, "b"⟩]).map (under [0])).Pairwise (·.place < ·.place) ∧
      (∃ last ∈ (select scope [⟨none, "a"⟩, ⟨none, "b"⟩]).map (under [0]), last.place = [0, 2]) ∧
      ((select scope [⟨none, "a"⟩, ⟨none, "b"⟩]).map (under [0])).map (·.place)
        = [[0, 0], [0, 2]] := by
  let b : Node := .element ⟨none, "b"⟩ [] []
  let scope : Node :=
    .element ⟨none, "a"⟩ [] [.element ⟨none, "b"⟩ [] [b], .text "b", b]
  let tree : Node := .element ⟨none, "r"⟩ [] [scope, .element ⟨none, "a"⟩ [] [b]]
  have hscope : tree.at? [0] = some scope := rfl
  obtain ⟨hends, -, hordered⟩ := select_ends_of_trails hscope ⟨none, "a"⟩ [⟨none, "b"⟩]
  have hunnested : Unnested tree [0] ⟨none, "a"⟩ := by
    have honly : ∀ found ∈ below [0] scope, found.node.hasName ⟨none, "a"⟩ = true →
        found.place = [0] := by
      decide
    intro outer inner houter hinner hname hname' _
    rw [honly outer ((mem_below_iff_inSubtree hscope).2 houter) hname,
      honly inner ((mem_below_iff_inSubtree hscope).2 hinner) hname']
  have htrail : IsTrail tree [0] [⟨none, "a"⟩, ⟨none, "b"⟩] [⟨[0], scope⟩, ⟨[0, 2], b⟩] := by
    refine ⟨?_, ?_, .cons rfl (.cons rfl .nil)⟩
    · intro found hfound
      cases hfound
      exact ⟨List.prefix_refl _, rfl⟩
    · exact .cons_cons ⟨2, rfl, rfl⟩ (.singleton _)
  exact ⟨tree, scope, hscope, hunnested, hordered hunnested,
    ⟨⟨[0, 2], b⟩, (hends _).2 ⟨_, htrail, rfl⟩, rfl⟩, rfl⟩

/-- Where elements of the first name are nested, the children of the outer one come before those of
the inner one, wherever they stand. -/
example :
    (select (.element ⟨none, "a"⟩ [] [
        .element ⟨none, "a"⟩ [] [.element ⟨none, "b"⟩ [] []], .element ⟨none, "b"⟩ [] []])
      [⟨none, "a"⟩, ⟨none, "b"⟩]).map (·.place) = [[1], [0, 0]] := by
  decide

end BriefSearch.Xml
