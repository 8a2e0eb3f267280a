import BriefSearch.Xml.Select
import Mathlib.Data.List.Lex

/-!
# Elements in document order

* **`Node.at?`**, **`Located.mem_below_iff`** — the node at a place, and that the nodes listed below
  a node are those that places lead to from it;
* **`Located.pairwise_below`** — a node and the nodes below it are listed in document order, which
  is the lexicographic order of their places;
* **`Node.exists_place_of_getLast?`** — of the nodes with a property, the one that is listed last
  comes last in document order;
* **`Node.elements_cons`** — the elements that a path leads to, name by name, with
  **`Node.elements_singleton`** and **`Node.elements_pair`** for one name and for two;
* **`Node.elements_element`** — the elements of a name in an element are the element itself, if it
  has the name, and those in its children.
-/

namespace BriefSearch.Xml

/-! ### Places -/

/-- The node that child positions lead to, if there is one. -/
def Node.at? : Node → List Nat → Option Node
  | node, [] => some node
  | node, position :: place => node.children[position]?.bind (at? · place)

namespace Located

theorem below_eq_cons (place : List Nat) (node : Node) :
    below place node = ⟨place, node⟩ :: belowAll place 0 node.children := by
  cases node <;> rw [below] <;> rfl

/-- A place leads to the node itself or through one of its children. -/
theorem mem_below_of_mem_belowAll {place : List Nat} {node : Node} {found : Located}
    (h : found ∈ belowAll place 0 node.children ↔ ∃ child more,
      found.place = place ++ (0 + child) :: more ∧
        node.children[child]?.bind (·.at? more) = some found.node) :
    found ∈ below place node ↔
      ∃ more, found.place = place ++ more ∧ node.at? more = some found.node := by
  rw [below_eq_cons, List.mem_cons, h]
  constructor
  · intro hfound
    rcases hfound with rfl | ⟨child, more, hplace, hat⟩
    · exact ⟨[], (List.append_nil place).symm, rfl⟩
    · rw [Nat.zero_add] at hplace
      exact ⟨child :: more, hplace, hat⟩
  · intro hfound
    obtain ⟨more, hplace, hat⟩ := hfound
    cases more with
    | nil =>
      left
      obtain ⟨place', node'⟩ := found
      have hsame : node = node' := Option.some.inj hat
      rw [List.append_nil] at hplace
      rw [hsame, ← hplace]
    | cons child more =>
      right
      exact ⟨child, more, by rwa [Nat.zero_add], hat⟩

theorem mem_belowAll_nil_iff (place : List Nat) (position : Nat) {found : Located} :
    found ∈ belowAll place position [] ↔ ∃ child more,
      found.place = place ++ (position + child) :: more ∧
        ([] : List Node)[child]?.bind (·.at? more) = some found.node := by
  simp [belowAll]

mutual

/-- **The nodes listed below a node are those that places lead to from it.** -/
theorem mem_below_iff (place : List Nat) :
    ∀ (node : Node) {found : Located}, found ∈ below place node ↔
      ∃ more, found.place = place ++ more ∧ node.at? more = some found.node
  | .element _ _ children, _ =>
    mem_below_of_mem_belowAll (mem_belowAll_iff place 0 children)
  | .text _, _ => mem_below_of_mem_belowAll (mem_belowAll_nil_iff place 0)
  | .comment _, _ => mem_below_of_mem_belowAll (mem_belowAll_nil_iff place 0)
  | .instruction _ _, _ => mem_below_of_mem_belowAll (mem_belowAll_nil_iff place 0)

theorem mem_belowAll_iff (place : List Nat) :
    ∀ (position : Nat) (nodes : List Node) {found : Located},
      found ∈ belowAll place position nodes ↔ ∃ child more,
        found.place = place ++ (position + child) :: more ∧
          nodes[child]?.bind (·.at? more) = some found.node
  | position, [], _ => mem_belowAll_nil_iff place position
  | position, node :: rest, found => by
    rw [belowAll, List.mem_append, mem_below_iff _ node, mem_belowAll_iff place (position + 1) rest]
    constructor
    · intro h
      rcases h with ⟨more, hplace, hat⟩ | ⟨child, more, hplace, hat⟩
      · exact ⟨0, more, by simpa using hplace, hat⟩
      · exact ⟨child + 1, more, by rw [hplace, Nat.add_assoc, Nat.add_comm 1], hat⟩
    · intro h
      obtain ⟨child, more, hplace, hat⟩ := h
      cases child with
      | zero => exact .inl ⟨more, by simpa using hplace, hat⟩
      | succ child =>
        exact .inr ⟨child, more, by rw [hplace, Nat.add_assoc, Nat.add_comm 1], hat⟩

end

mutual

/-- **Nodes are listed in document order**: a node before the nodes below it, and everything below a
child before the children behind it. -/
theorem pairwise_below (place : List Nat) :
    ∀ node : Node, (below place node).Pairwise (·.place < ·.place)
  | .element name attributes children => by
    rw [below, List.pairwise_cons]
    refine ⟨?_, pairwise_belowAll place 0 children⟩
    intro found hfound
    obtain ⟨child, more, hplace, -⟩ := (mem_belowAll_iff place 0 children).1 hfound
    have hbelow : place ++ [] < place ++ (0 + child) :: more := List.Lex.append_left _ .nil place
    rwa [List.append_nil, ← hplace] at hbelow
  | .text content => List.pairwise_singleton _ _
  | .comment content => List.pairwise_singleton _ _
  | .instruction target content => List.pairwise_singleton _ _

theorem pairwise_belowAll (place : List Nat) :
    ∀ (position : Nat) (nodes : List Node),
      (belowAll place position nodes).Pairwise (·.place < ·.place)
  | position, [] => List.Pairwise.nil
  | position, node :: rest => by
    rw [belowAll, List.pairwise_append]
    refine ⟨pairwise_below _ node, pairwise_belowAll place (position + 1) rest, ?_⟩
    intro found hfound found' hfound'
    obtain ⟨more, hplace, -⟩ := (mem_below_iff (place ++ [position]) node).1 hfound
    obtain ⟨child, more', hplace', -⟩ := (mem_belowAll_iff place (position + 1) rest).1 hfound'
    have hlt : position < position + 1 + child := by omega
    rw [hplace, hplace', List.append_assoc, List.singleton_append]
    exact List.Lex.append_left _ (.rel hlt) place

end

/-- Of nodes in document order, none comes later than the last. -/
theorem le_of_getLast? {found : List Located}
    (hsorted : found.Pairwise (·.place < ·.place)) {last other : Located}
    (hlast : found.getLast? = some last) (hother : other ∈ found) : other.place ≤ last.place := by
  obtain ⟨before, rfl⟩ := List.getLast?_eq_some_iff.1 hlast
  rw [List.pairwise_append] at hsorted
  rw [List.mem_append, List.mem_singleton] at hother
  rcases hother with hbefore | rfl
  · exact le_of_lt (hsorted.2.2 _ hbefore last List.mem_cons_self)
  · exact le_refl _

end Located

/-! ### Nodes -/

namespace Node

mutual

/-- A node and all nodes below it, in document order. -/
def nodes : Node → List Node
  | element name attributes children =>
    element name attributes children :: nodesOfAll children
  | text content => [text content]
  | comment content => [comment content]
  | instruction target content => [instruction target content]

/-- Nodes and all nodes below them. -/
def nodesOfAll : List Node → List Node
  | [] => []
  | node :: rest => node.nodes ++ nodesOfAll rest

end

theorem nodesOfAll_eq_flatMap (ns : List Node) : nodesOfAll ns = ns.flatMap nodes := by
  induction ns with
  | nil => rw [nodesOfAll, List.flatMap_nil]
  | cons node rest ih => rw [nodesOfAll, ih, List.flatMap_cons]

mutual

theorem map_node_below (place : List Nat) :
    ∀ n : Node, (Located.below place n).map (·.node) = n.nodes
  | element name attributes children => by
    rw [Located.below, List.map_cons, map_node_belowAll place 0 children, nodes]
  | text content => by rw [Located.below, List.map_singleton, nodes]
  | comment content => by rw [Located.below, List.map_singleton, nodes]
  | instruction target content => by rw [Located.below, List.map_singleton, nodes]

theorem map_node_belowAll (place : List Nat) :
    ∀ (position : Nat) (ns : List Node),
      (Located.belowAll place position ns).map (·.node) = nodesOfAll ns
  | position, [] => by rw [Located.belowAll, List.map_nil, nodesOfAll]
  | position, node :: rest => by
    rw [Located.belowAll, List.map_append, map_node_below _ node,
      map_node_belowAll place (position + 1) rest, nodesOfAll]

end

/-- A listed node is one of the nodes below. -/
theorem mem_nodes_of_mem_below {root : Node} {found : Located} (h : found ∈ Located.below [] root) :
    found.node ∈ root.nodes := by
  rw [← map_node_below [] root]
  exact List.mem_map_of_mem h

/-- Of the nodes with a property, the one that is listed last comes last in document order. -/
theorem exists_place_of_getLast? {root node : Node} {p : Node → Bool}
    (hlast : (root.nodes.filter p).getLast? = some node) :
    ∃ place, ⟨place, node⟩ ∈ Located.below [] root ∧ p node = true ∧
      ∀ found ∈ Located.below [] root, p found.node = true → found.place ≤ place := by
  have hsorted : ((Located.below [] root).filter (p ·.node)).Pairwise (·.place < ·.place) :=
    (Located.pairwise_below [] root).filter _
  rw [← map_node_below [] root, List.filter_map, List.getLast?_map, Option.map_eq_some_iff] at hlast
  obtain ⟨last, hlast, rfl⟩ := hlast
  obtain ⟨hmem, hp⟩ := List.mem_filter.1 (List.mem_of_getLast? hlast)
  refine ⟨last.place, hmem, hp, ?_⟩
  intro found hfound hpfound
  exact Located.le_of_getLast? hsorted hlast (List.mem_filter.2 ⟨hfound, hpfound⟩)

/-! ### Paths -/

theorem map_node_children (found : Located) :
    found.children.map (·.node) = found.node.children := by
  rw [Located.children, List.map_map]
  exact List.zipIdx_map_fst 0 _

/-- Goes on to the children of a name. -/
def next (found : List Node) (name : Name) : List Node :=
  (found.flatMap children).filter (·.hasName name)

theorem map_node_descend (path : List Name) (found : List Located) :
    (descend found path).map (·.node) = path.foldl next (found.map (·.node)) := by
  induction path generalizing found with
  | nil => rfl
  | cons name path ih =>
    have hnext : ((found.flatMap (·.children)).filter (·.node.hasName name)).map (·.node)
        = next (found.map (·.node)) name := by
      rw [next, List.flatMap_map]
      simp only [← map_node_children]
      rw [← List.map_flatMap, List.filter_map]
      rfl
    rw [descend, ih, hnext, List.foldl_cons]

/-- A path is gone down name by name. -/
theorem elements_cons (scope : Node) (name : Name) (path : List Name) :
    scope.elements (name :: path) = path.foldl next (scope.nodes.filter (·.hasName name)) := by
  rw [elements, select, map_node_descend, ← map_node_below [] scope, List.filter_map]
  rfl

variable (scope : Node) (a b : Name)

theorem elements_singleton : scope.elements [a] = scope.nodes.filter (·.hasName a) :=
  elements_cons scope a []

/-- A second name is looked for among the children of the elements with the first. -/
theorem elements_pair :
    scope.elements [a, b]
      = (scope.elements [a]).flatMap fun n => n.children.filter (·.hasName b) := by
  rw [elements_cons, List.foldl_cons, List.foldl_nil, next, List.filter_flatMap,
    elements_singleton]

/-- The elements of a name in an element are the element itself, if it has the name, and those in
its children. -/
theorem elements_element (name : Name) (attributes : List Attribute) (children : List Node) :
    (element name attributes children).elements [a]
      = (if name = a then [element name attributes children] else []) ++
        children.flatMap (·.elements [a]) := by
  simp only [elements_singleton, nodes, nodesOfAll_eq_flatMap, List.filter_cons,
    List.filter_flatMap, hasName, name?, Option.some.injEq, decide_eq_true_eq]
  split
  · rfl
  · rfl

theorem elements_text (content : String) : (text content).elements [a] = [] := by
  rw [elements_singleton, nodes]
  rfl

end Node

end BriefSearch.Xml
