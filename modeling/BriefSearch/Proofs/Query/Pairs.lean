import BriefSearch.Proofs.Query.Parameters

/-!
# Parameters as pairs

Parameters in which no name stands twice and none is without values are the same thing as the list
of their pairs.

* **`WellFormed`** — such parameters, which every change keeps;
* **`paired`** — the values that a list of pairs has for a name;
* **`pushAll`** — pushing pairs one after the other, with **`keys_pushAll`** and
  **`get?_pushAll`** for the names and the values that come of it;
* **`merge_eq_pushAll`**, **`ofPairs_toPairs`** — merging is pushing all pairs, and parameters are
  what pushing their own pairs gives;
* **`WellFormed.get?_eq`**, **`WellFormed.exists_block`** — the values of a name, and where its
  pairs stand, read off the pairs;
* **`get?_merge`**, **`keys_merge`**, **`merge_assoc`** — merging joins the values of each name.
-/

namespace BriefSearch.Parameters

/-- No name stands twice, and none is without values. -/
structure WellFormed (p : Parameters) : Prop where
  nodup_keys : p.entries.keys.Nodup
  values_ne_nil : ∀ e ∈ p.entries.entries, e.2 ≠ []

/-- The values that pairs have for a name, in order. -/
def paired (k : String) (pairs : List (String × String)) : List String :=
  (pairs.filter (·.1 = k)).map (·.2)

/-- The parameters with the pairs pushed one after the other. -/
def pushAll (p : Parameters) (pairs : List (String × String)) : Parameters :=
  pairs.foldl (fun p pair => p.push pair.1 pair.2) p

/-- The pairs of entries. -/
def pairsOf (entries : List (String × List String)) : List (String × String) :=
  entries.flatMap fun e => e.2.map (e.1, ·)

/-! ### What every change keeps -/

theorem wellFormed_empty : WellFormed empty :=
  ⟨List.nodup_nil, fun _ he => absurd he List.not_mem_nil⟩

/-- Giving a name values, from what it had, keeps parameters well-formed. -/
theorem WellFormed.alter {p : Parameters} (hp : p.WellFormed) (name : String)
    {f : Option (List String) → List String} (hf : ∀ old, f old ≠ []) :
    WellFormed ⟨p.entries.alter name f⟩ := by
  by_cases hname : name ∈ p.entries.keys
  · obtain ⟨before, values, after, hentries, -, haltered⟩ :=
      OrderedMap.exists_altered_of_mem hname
    constructor
    · rw [OrderedMap.keys_alter, if_pos hname]
      exact hp.nodup_keys
    · intro e he
      have hold := hp.values_ne_nil
      rw [hentries] at hold
      rw [OrderedMap.alter, haltered, List.mem_append, List.mem_cons] at he
      rcases he with he | rfl | he
      · exact hold e (List.mem_append_left _ he)
      · exact hf _
      · exact hold e (List.mem_append_right _ (List.mem_cons_of_mem _ he))
  · constructor
    · rw [OrderedMap.keys_alter, if_neg hname]
      refine List.nodup_append.2 ⟨hp.nodup_keys, List.nodup_singleton name, ?_⟩
      rintro k hk k' hk' rfl
      rw [List.mem_singleton.1 hk'] at hk
      exact hname hk
    · intro e he
      rw [OrderedMap.alter, OrderedMap.altered_of_notMem f hname, List.mem_append,
        List.mem_singleton] at he
      rcases he with he | rfl
      · exact hp.values_ne_nil e he
      · exact hf none

theorem WellFormed.extend {p : Parameters} (hp : p.WellFormed) (name : String)
    {values : List String} (hvalues : values ≠ []) : (p.extend name values).WellFormed :=
  hp.alter name fun _ => List.append_ne_nil_of_right_ne_nil _ hvalues

theorem WellFormed.push {p : Parameters} (hp : p.WellFormed) (name value : String) :
    (p.push name value).WellFormed :=
  hp.extend name (List.cons_ne_nil value [])

theorem WellFormed.set {p : Parameters} (hp : p.WellFormed) (name value : String) :
    (p.set name value).WellFormed :=
  hp.alter name fun _ => List.cons_ne_nil value []

theorem WellFormed.merge {p q : Parameters} (hp : p.WellFormed) (hq : q.WellFormed) :
    (p.merge q).WellFormed := by
  have hvalues := hq.values_ne_nil
  rw [Parameters.merge]
  generalize q.entries.entries = entries at hvalues
  induction entries generalizing p with
  | nil => exact hp
  | cons e entries ih =>
    obtain ⟨hfirst, hrest⟩ := List.forall_mem_cons.1 hvalues
    exact ih (hp.extend e.1 hfirst) hrest

/-! ### Pairs pushed one after the other -/

theorem paired_cons (k : String) (x : String × String) (pairs : List (String × String)) :
    paired k (x :: pairs) = if x.1 = k then x.2 :: paired k pairs else paired k pairs := by
  rw [paired, List.filter_cons]
  by_cases hx : x.1 = k
  · rw [if_pos (decide_eq_true hx), if_pos hx]
    rfl
  · rw [if_neg (by simpa using hx), if_neg hx]
    rfl

theorem paired_of_notMem {k : String} {pairs : List (String × String)}
    (h : k ∉ pairs.map (·.1)) : paired k pairs = [] := by
  rw [paired, List.map_eq_nil_iff, List.filter_eq_nil_iff]
  intro x hx hk
  exact h (List.mem_map.2 ⟨x, hx, of_decide_eq_true hk⟩)

theorem paired_append (k : String) (pairs pairs' : List (String × String)) :
    paired k (pairs ++ pairs') = paired k pairs ++ paired k pairs' := by
  rw [paired, List.filter_append, List.map_append, paired, paired]

theorem paired_map (k : String) (values : List String) :
    paired k (values.map (k, ·)) = values := by
  simp [paired, List.filter_map, Function.comp_def]

theorem mem_of_mem_pairsOf {k : String} {entries : List (String × List String)}
    (h : k ∈ (pairsOf entries).map (·.1)) : k ∈ entries.map (·.1) := by
  obtain ⟨x, hx, rfl⟩ := List.mem_map.1 h
  obtain ⟨e, he, hx⟩ := List.mem_flatMap.1 hx
  obtain ⟨value, -, rfl⟩ := List.mem_map.1 hx
  exact List.mem_map_of_mem he

/-- **A name has the values it had, and behind them those that are pushed for it.** -/
theorem get?_pushAll (p : Parameters) (pairs : List (String × String)) (k : String) :
    (p.pushAll pairs).get? k
      = if k ∈ pairs.map (·.1) then some ((p.get? k).getD [] ++ paired k pairs)
        else p.get? k := by
  induction pairs generalizing p with
  | nil => rfl
  | cons x pairs ih =>
    show ((p.push x.1 x.2).pushAll pairs).get? k = _
    rw [ih, push, get?_extend, paired_cons]
    by_cases hx : x.1 = k
    · have hmem : k ∈ (x :: pairs).map (·.1) := List.mem_cons.2 (.inl hx.symm)
      rw [if_pos hx, if_pos hx, if_pos hmem, Option.getD_some, List.append_assoc,
        List.singleton_append]
      split
      · rfl
      · rename_i hk
        rw [paired_of_notMem hk]
    · have hmem : k ∈ (x :: pairs).map (·.1) ↔ k ∈ pairs.map (·.1) := by
        simp [Ne.symm hx]
      rw [if_neg hx, if_neg hx]
      simp only [hmem]

/-- **The names that are there come first, then the new ones in the order of their pairs.** -/
theorem keys_pushAll {p : Parameters} (hp : p.entries.keys.Nodup)
    (pairs : List (String × String)) :
    (p.pushAll pairs).entries.keys = distinct (p.entries.keys ++ pairs.map (·.1)) := by
  -- A pushed name goes to the end, so pairs are taken off the end.
  induction pairs using List.reverseRecOn with
  | nil =>
    rw [List.map_nil, List.append_nil, distinct_eq_self hp]
    rfl
  | append_singleton pairs x ih =>
    have hlast : p.pushAll (pairs ++ [x]) = (p.pushAll pairs).push x.1 x.2 :=
      List.foldl_append
    rw [hlast, push, extend, OrderedMap.keys_alter, ih, List.map_append, List.map_singleton,
      ← List.append_assoc, distinct_append_singleton]
    simp only [mem_distinct]

/-! ### Merging is pushing -/

theorem extend_extend (p : Parameters) (name : String) (values values' : List String) :
    (p.extend name values).extend name values' = p.extend name (values ++ values') := by
  have haltered : ∀ es : List (String × List String),
      OrderedMap.altered name (fun old => old.getD [] ++ values')
        (OrderedMap.altered name (fun old => old.getD [] ++ values) es)
      = OrderedMap.altered name (fun old => old.getD [] ++ (values ++ values')) es := by
    intro es
    induction es with
    | nil => simp [OrderedMap.altered]
    | cons e es ih =>
      obtain ⟨key, old⟩ := e
      by_cases hkey : key = name
      · simp [OrderedMap.altered, hkey]
      · simp [OrderedMap.altered, hkey, ih]
  exact congrArg (fun es => Parameters.mk ⟨es⟩) (haltered p.entries.entries)

/-- Adding values to a name is pushing them one after the other. -/
theorem extend_eq_pushAll (p : Parameters) (name : String) {values : List String}
    (hvalues : values ≠ []) : p.extend name values = p.pushAll (values.map (name, ·)) := by
  induction values generalizing p with
  | nil => exact absurd rfl hvalues
  | cons value values ih =>
    rcases values with _ | ⟨value', values⟩
    · rfl
    · show _ = (p.push name value).pushAll ((value' :: values).map (name, ·))
      rw [← ih (p.push name value) (List.cons_ne_nil value' values), push, extend_extend,
        List.singleton_append]

/-- **Merging is pushing all pairs.** -/
theorem merge_eq_pushAll (p : Parameters) {q : Parameters} (hq : q.WellFormed) :
    p.merge q = p.pushAll q.toPairs := by
  have hvalues := hq.values_ne_nil
  rw [merge, toPairs, pushAll, List.foldl_flatMap]
  generalize q.entries.entries = entries at hvalues
  induction entries generalizing p with
  | nil => rfl
  | cons e entries ih =>
    obtain ⟨hfirst, hrest⟩ := List.forall_mem_cons.1 hvalues
    rw [List.foldl_cons, List.foldl_cons, extend_eq_pushAll p e.1 hfirst, pushAll]
    exact ih _ hrest

/-- Merging into no parameters gives what is merged. -/
theorem empty_merge {q : Parameters} (hq : q.WellFormed) : empty.merge q = q := by
  have hentries := entries_merge_of_disjoint empty hq.nodup_keys fun _ _ => List.not_mem_nil
  exact congrArg (fun es => Parameters.mk ⟨es⟩) hentries

/-- **Parameters are what pushing their pairs gives.** -/
theorem ofPairs_toPairs {q : Parameters} (hq : q.WellFormed) : ofPairs q.toPairs = q :=
  (merge_eq_pushAll empty hq).symm.trans (empty_merge hq)

/-! ### What the pairs say -/

namespace WellFormed

variable {p : Parameters} (hp : p.WellFormed)

include hp

/-- **The values of a name are those paired with it**, and a name without pairs has none. -/
theorem get?_eq (k : String) :
    p.get? k = if k ∈ p.toPairs.map (·.1) then some (paired k p.toPairs) else none := by
  have hrebuilt : empty.pushAll p.toPairs = p := ofPairs_toPairs hp
  have hget := get?_pushAll empty p.toPairs k
  rwa [hrebuilt] at hget

/-- The names stand in the order of their first pairs. -/
theorem keys_eq : p.entries.keys = distinct (p.toPairs.map (·.1)) := by
  have hrebuilt : empty.pushAll p.toPairs = p := ofPairs_toPairs hp
  have hkeys := keys_pushAll wellFormed_empty.nodup_keys p.toPairs
  rwa [hrebuilt] at hkeys

theorem mem_keys_iff {k : String} : k ∈ p.entries.keys ↔ k ∈ p.toPairs.map (·.1) := by
  rw [hp.keys_eq, mem_distinct]

theorem isEmpty_iff : p.isEmpty = true ↔ p.toPairs = [] := by
  rw [isEmpty, OrderedMap.isEmpty, List.isEmpty_iff, toPairs, List.flatMap_eq_nil_iff]
  constructor
  · intro h e he
    rw [h] at he
    cases he
  · intro h
    refine List.eq_nil_iff_forall_not_mem.2 fun e he => ?_
    exact hp.values_ne_nil e he (List.map_eq_nil_iff.1 (h e he))

/-- **The pairs of a name stand next to each other**, and setting the name puts one pair in their
place, which is the end if there are none. -/
theorem exists_block (k : String) :
    ∃ before after, k ∉ before.map (·.1) ∧ k ∉ after.map (·.1) ∧
      p.toPairs = before ++ (paired k p.toPairs).map (k, ·) ++ after ∧
      (∀ v, (p.set k v).toPairs = before ++ [(k, v)] ++ after) ∧
      (k ∈ p.toPairs.map (·.1) ∨ after = []) := by
  by_cases hk : k ∈ p.entries.keys
  · obtain ⟨before, values, after, hentries, hbefore, haltered⟩ :=
      OrderedMap.exists_altered_of_mem hk
    have hafter : k ∉ after.map (·.1) := by
      have hnodup := hp.nodup_keys
      rw [OrderedMap.keys, hentries, List.map_append, List.map_cons] at hnodup
      exact (List.nodup_cons.1 (List.nodup_append.1 hnodup).2.1).1
    have hpairs : p.toPairs = pairsOf before ++ values.map (k, ·) ++ pairsOf after := by
      rw [toPairs, hentries]
      simp [pairsOf]
    have hvalues : paired k p.toPairs = values := by
      rw [hpairs, paired_append, paired_append, paired_map,
        paired_of_notMem fun h => hbefore (mem_of_mem_pairsOf h),
        paired_of_notMem fun h => hafter (mem_of_mem_pairsOf h), List.nil_append, List.append_nil]
    refine ⟨pairsOf before, pairsOf after, fun h => hbefore (mem_of_mem_pairsOf h),
      fun h => hafter (mem_of_mem_pairsOf h), ?_, ?_, .inl (hp.mem_keys_iff.1 hk)⟩
    · rw [hvalues, hpairs]
    · intro v
      rw [toPairs, Parameters.set, OrderedMap.insert, OrderedMap.alter, haltered]
      simp [pairsOf]
  · have hpairs : k ∉ p.toPairs.map (·.1) := fun h => hk (hp.mem_keys_iff.2 h)
    refine ⟨p.toPairs, [], hpairs, List.not_mem_nil, ?_, ?_, .inr rfl⟩
    · rw [paired_of_notMem hpairs]
      simp
    · intro v
      rw [toPairs, Parameters.set, OrderedMap.insert, OrderedMap.alter,
        OrderedMap.altered_of_notMem _ hk]
      simp [toPairs]

end WellFormed

/-! ### Laws of merging -/

/-- **The values of a name are those of the first followed by those of the second.** -/
theorem get?_merge (p : Parameters) {q : Parameters} (hq : q.WellFormed) (k : String) :
    (p.merge q).get? k = Option.merge (· ++ ·) (p.get? k) (q.get? k) := by
  rw [merge_eq_pushAll p hq, get?_pushAll, hq.get?_eq]
  split
  · cases p.get? k <;> rfl
  · cases p.get? k <;> rfl

theorem keys_merge {p q : Parameters} (hp : p.WellFormed) (hq : q.WellFormed) :
    (p.merge q).entries.keys = distinct (p.entries.keys ++ q.entries.keys) := by
  rw [merge_eq_pushAll p hq, keys_pushAll hp.nodup_keys, hq.keys_eq, distinct_append_distinct]

/-- **Merging is associative**, the order of names included. -/
theorem merge_assoc {p q r : Parameters} (hp : p.WellFormed) (hq : q.WellFormed)
    (hr : r.WellFormed) : (p.merge q).merge r = p.merge (q.merge r) := by
  -- The names fix the order on both sides, so values can be compared name by name.
  have hleft := (hp.merge hq).merge hr
  have hkeys : ((p.merge q).merge r).entries.keys = (p.merge (q.merge r)).entries.keys := by
    rw [keys_merge (hp.merge hq) hr, keys_merge hp hq, keys_merge hp (hq.merge hr),
      keys_merge hq hr, distinct_distinct_append, distinct_append_distinct, List.append_assoc]
  have hvalues : ∀ k, ((p.merge q).merge r).get? k = (p.merge (q.merge r)).get? k := by
    intro k
    rw [get?_merge _ hr, get?_merge p hq, get?_merge p (hq.merge hr), get?_merge q hr]
    cases p.get? k <;> cases q.get? k <;> cases r.get? k <;> simp [Option.merge]
  exact congrArg Parameters.mk (OrderedMap.ext_of_nodup hleft.nodup_keys hkeys hvalues)

end BriefSearch.Parameters
