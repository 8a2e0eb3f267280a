import BriefSearch.Client
import BriefSearch.Proofs.OrderedMap

/-!
# Values of search parameters

What adding and merging does to the values of one name:

* **`get?_extend`** — adding values to one name puts them behind its own and leaves those of the
  others;
* **`get?_merge_of_notMem`** — so does merging parameters without that name;
* **`toPairs_merge_of_disjoint`** — parameters without a common name stand behind one another;
* **`Client.entries_defaults`**, **`Client.queryParameter_notMem_defaults`** — what every search
  carries, which has no query among it.
-/

namespace BriefSearch

namespace Parameters

/-- The values of a name stay, and added ones follow them. -/
theorem get?_extend (p : Parameters) (name : String) (values : List String) (k : String) :
    (p.extend name values).get? k
      = if name = k then some ((p.get? k).getD [] ++ values) else p.get? k := by
  rw [get?, extend, OrderedMap.get?_alter, get?]
  by_cases hname : name = k
  · rw [if_pos hname, if_pos hname, hname]
  · rw [if_neg hname, if_neg hname]

theorem get?_extend_of_ne (p : Parameters) {name k : String} (values : List String)
    (h : name ≠ k) : (p.extend name values).get? k = p.get? k := by
  rw [get?_extend, if_neg h]

theorem get?_push_empty (name value : String) :
    (Parameters.empty.push name value).get? name = some [value] := by
  rw [push, get?_extend, if_pos rfl]
  rfl

/-- Merging leaves the values of a name that the other parameters do not have. -/
theorem get?_merge_of_notMem (p : Parameters) {q : Parameters} {k : String}
    (h : k ∉ q.entries.keys) : (p.merge q).get? k = p.get? k := by
  rw [OrderedMap.keys] at h
  rw [merge]
  generalize q.entries.entries = entries at h
  induction entries generalizing p with
  | nil => rfl
  | cons e rest ih =>
    rw [List.map_cons, List.mem_cons, not_or] at h
    rw [List.foldl_cons, ih _ h.2, get?_extend_of_ne p e.2 (Ne.symm h.1)]

/-- Merging parameters without a common name puts those of the second behind the first. -/
theorem entries_merge_of_disjoint (p : Parameters) {q : Parameters} (hq : q.entries.keys.Nodup)
    (hdisjoint : ∀ k ∈ q.entries.keys, k ∉ p.entries.keys) :
    (p.merge q).entries.entries = p.entries.entries ++ q.entries.entries := by
  simp only [OrderedMap.keys] at hq hdisjoint
  rw [merge]
  generalize q.entries.entries = entries at hq hdisjoint
  induction entries generalizing p with
  | nil => exact (List.append_nil _).symm
  | cons e rest ih =>
    obtain ⟨hfirst, hrest⟩ := List.nodup_cons.1 hq
    obtain ⟨hnew, hold⟩ := List.forall_mem_cons.1 hdisjoint
    have hextend : (p.extend e.1 e.2).entries.entries = p.entries.entries ++ [e] :=
      OrderedMap.altered_of_notMem _ hnew
    have hdisjoint' : ∀ k ∈ rest.map (·.1), k ∉ (p.extend e.1 e.2).entries.entries.map (·.1) := by
      intro k hk
      rw [hextend, List.map_append, List.mem_append, not_or]
      refine ⟨hold k hk, ?_⟩
      intro hlast
      rw [List.map_singleton, List.mem_singleton] at hlast
      rw [hlast] at hk
      exact hfirst hk
    rw [List.foldl_cons, ih _ hrest hdisjoint', hextend, List.append_assoc]
    rfl

theorem toPairs_merge_of_disjoint (p : Parameters) {q : Parameters} (hq : q.entries.keys.Nodup)
    (hdisjoint : ∀ k ∈ q.entries.keys, k ∉ p.entries.keys) :
    (p.merge q).toPairs = p.toPairs ++ q.toPairs := by
  rw [toPairs, entries_merge_of_disjoint p hq hdisjoint, List.flatMap_append, toPairs, toPairs]

end Parameters

/-- What every search carries: the institution, the address and, if they restrict anything, the
scopes. -/
theorem Client.entries_defaults (vocabulary : Vocabulary) (institution ipAddress : String)
    (scopes : Option String) :
    (Client.new vocabulary institution ipAddress scopes).defaults.entries.entries
      = ("institution", [institution]) :: ("ip", [ipAddress]) ::
        match scopes with
        | some scopes =>
          if Text.isBlankText scopes then [] else [("loc", ["local,scope:(" ++ scopes ++ ")"])]
        | none => [] := by
  cases scopes with
  | none => rfl
  | some scopes =>
    rw [Client.new]
    dsimp only
    by_cases hblank : Text.isBlankText scopes = true
    · rw [if_pos hblank, if_pos hblank]
      rfl
    · rw [if_neg hblank, if_neg hblank]
      rfl

/-- These are three names at most, each of them once. -/
theorem Client.keys_defaults (vocabulary : Vocabulary) (institution ipAddress : String)
    (scopes : Option String) :
    (Client.new vocabulary institution ipAddress scopes).defaults.entries.keys.Sublist
      ["institution", "ip", "loc"] := by
  have hnone : ["institution", "ip"].Sublist ["institution", "ip", "loc"] := by decide
  rw [OrderedMap.keys, entries_defaults]
  cases scopes with
  | none => exact hnone
  | some scopes =>
    dsimp only
    by_cases hblank : Text.isBlankText scopes = true
    · rw [if_pos hblank]
      exact hnone
    · rw [if_neg hblank]
      exact List.Sublist.refl _

/-- What every search carries has no query among it. -/
theorem Client.queryParameter_notMem_defaults (vocabulary : Vocabulary)
    (institution ipAddress : String) (scopes : Option String) :
    queryParameter ∉
      (Client.new vocabulary institution ipAddress scopes).defaults.entries.keys := by
  intro hmem
  have hname := (Client.keys_defaults vocabulary institution ipAddress scopes).subset hmem
  exact absurd hname (by decide)

end BriefSearch
