import BriefSearch.Distinct
import BriefSearch.OrderedMap
import Mathlib.Data.List.Induction
import Mathlib.Data.List.Nodup

/-!
# Maps built from pairs

A map that takes in pairs one after the other has every key once, in the place of its first pair and
with the value of its last.

* **`distinct_append_singleton`**, **`distinct_eq_self`**, **`distinct_map`**,
  **`distinct_append`**, **`one_lt_length_distinct_iff`** — lists without repetitions, as the keys
  of such a map are;
* **`OrderedMap.exists_altered_of_mem`**, **`OrderedMap.altered_of_notMem`** — what altering a key
  does to the list of entries;
* **`OrderedMap.ext_of_nodup`** — a map is its keys in order and their values;
* **`OrderedMap.filter_filterMap_key`** — what is read under one key from items with keys;
* **`OrderedMap.last?`** — the value of the last pair with a key;
* **`OrderedMap.keys_ofList`**, **`OrderedMap.get?_ofList`** — the keys and the values of such a
  map;
* **`OrderedMap.last?_eq_some_iff`**, **`OrderedMap.last?_map`**, **`OrderedMap.last?_filterMap`** —
  the last pair where no two share a key, where keys are renamed, and where pairs are read from
  other items;
* **`OrderedMap.entries_ofList`** — the entries of such a map, one by one;
* **`OrderedMap.mapValues_ofList`** — a function applied to the values of such a map.
-/

namespace BriefSearch

/-! ### Lists without repetitions -/

section

variable {α β : Type} [DecidableEq α] [DecidableEq β]

/-- One more item is kept unless it is there already. -/
theorem distinct_append_singleton (as : List α) (a : α) :
    distinct (as ++ [a]) = if a ∈ as then distinct as else distinct as ++ [a] := by
  induction as with
  | nil => rfl
  | cons b as ih =>
    rw [List.cons_append, distinct, ih, distinct]
    by_cases hab : a = b
    · subst hab
      rw [if_pos List.mem_cons_self]
      split
      · rfl
      · rw [List.filter_append, List.filter_singleton]
        simp
    · have hmem : a ∈ b :: as ↔ a ∈ as := by simp [hab]
      simp only [hmem]
      split
      · rfl
      · rw [List.filter_append, List.filter_singleton]
        simp [hab]

/-- A list in which every item is there once is kept. -/
theorem distinct_eq_self {as : List α} (h : as.Nodup) : distinct as = as := by
  induction as with
  | nil => rfl
  | cons a as ih =>
    obtain ⟨hfirst, hrest⟩ := List.nodup_cons.1 h
    rw [distinct, ih hrest, List.filter_eq_self.2]
    intro b hb
    rw [decide_eq_true_eq]
    rintro rfl
    exact hfirst hb

/-- Items that a function tells apart stay distinct. -/
theorem distinct_map {f : α → β} {as : List α}
    (hf : ∀ a ∈ as, ∀ b ∈ as, f a = f b → a = b) :
    distinct (as.map f) = (distinct as).map f := by
  induction as with
  | nil => rfl
  | cons a as ih =>
    have hrest : ∀ b ∈ as, ∀ c ∈ as, f b = f c → b = c := fun b hb c hc =>
      hf b (List.mem_cons_of_mem a hb) c (List.mem_cons_of_mem a hc)
    have hkeep : ∀ b ∈ distinct as, decide (f b ≠ f a) = decide (b ≠ a) := by
      intro b hb
      refine decide_eq_decide.2 (not_congr ⟨?_, congrArg f⟩)
      exact hf b (List.mem_cons_of_mem a (mem_distinct.1 hb)) a List.mem_cons_self
    rw [List.map_cons, distinct, ih hrest, distinct, List.map_cons, List.filter_map]
    exact congrArg (f a :: List.map f ·) (List.filter_congr hkeep)

/-- Of two lists the second adds the items that the first does not have. -/
theorem distinct_append (as bs : List α) :
    distinct (as ++ bs) = distinct as ++ (distinct bs).filter (· ∉ as) := by
  induction as with
  | nil => simp [distinct]
  | cons a as ih =>
    have hkeep : ((distinct bs).filter (· ∉ as)).filter (· ≠ a)
        = (distinct bs).filter (· ∉ a :: as) := by
      rw [List.filter_filter]
      refine List.filter_congr fun b _ => ?_
      simp
    rw [List.cons_append, distinct, ih, List.filter_append, hkeep, distinct, List.cons_append]

theorem distinct_append_distinct (as bs : List α) :
    distinct (as ++ distinct bs) = distinct (as ++ bs) := by
  rw [distinct_append, distinct_eq_self (nodup_distinct bs), ← distinct_append]

theorem distinct_distinct_append (as bs : List α) :
    distinct (distinct as ++ bs) = distinct (as ++ bs) := by
  rw [distinct_append, distinct_eq_self (nodup_distinct as), distinct_append as bs]
  simp only [mem_distinct]

/-- A list keeps several of its items when it has different ones. -/
theorem one_lt_length_distinct_iff {as : List α} :
    1 < (distinct as).length ↔ ∃ a ∈ as, ∃ b ∈ as, a ≠ b := by
  cases as with
  | nil => simp [distinct]
  | cons a as =>
    have hother : 1 < (distinct (a :: as)).length ↔ ∃ b ∈ as, b ≠ a := by
      rw [distinct, List.length_cons, Nat.lt_add_left_iff_pos, List.length_pos_iff_exists_mem]
      simp only [List.mem_filter, mem_distinct, decide_eq_true_eq]
    rw [hother]
    constructor
    · rintro ⟨b, hb, hne⟩
      exact ⟨b, List.mem_cons_of_mem a hb, a, List.mem_cons_self, hne⟩
    · rintro ⟨b, hb, c, hc, hne⟩
      -- Of two different items one is not the first.
      by_cases hfirst : b = a
      · subst hfirst
        exact ⟨c, (List.mem_cons.1 hc).resolve_left (Ne.symm hne), Ne.symm hne⟩
      · exact ⟨b, (List.mem_cons.1 hb).resolve_left hfirst, hfirst⟩

end

namespace OrderedMap

variable {α β γ δ : Type} [DecidableEq α] [DecidableEq β]

/-! ### Entries -/

theorem lookup_of_notMem {k : α} {es : List (α × γ)} (h : k ∉ es.map (·.1)) :
    lookup k es = none := by
  induction es with
  | nil => rfl
  | cons e es ih =>
    rw [List.map_cons, List.mem_cons, not_or] at h
    rw [lookup, if_neg (Ne.symm h.1), ih h.2]

/-- A key that is not there gets an entry at the end. -/
theorem altered_of_notMem {k : α} {es : List (α × γ)} (f : Option γ → γ)
    (h : k ∉ es.map (·.1)) : altered k f es = es ++ [(k, f none)] := by
  induction es with
  | nil => rfl
  | cons e es ih =>
    rw [List.map_cons, List.mem_cons, not_or] at h
    rw [altered, if_neg (Ne.symm h.1), ih h.2]
    rfl

/-- A key that is there has one entry, and altering it changes this entry only. -/
theorem exists_altered_of_mem {k : α} {es : List (α × γ)} (h : k ∈ es.map (·.1)) :
    ∃ before v after, es = before ++ (k, v) :: after ∧ k ∉ before.map (·.1) ∧
      ∀ f, altered k f es = before ++ (k, f (some v)) :: after := by
  induction es with
  | nil => cases h
  | cons e es ih =>
    obtain ⟨key, v⟩ := e
    by_cases hkey : key = k
    · subst hkey
      exact ⟨[], v, es, rfl, List.not_mem_nil, fun f => if_pos rfl⟩
    · have hrest : k ∈ es.map (·.1) := (List.mem_cons.1 h).resolve_left (Ne.symm hkey)
      obtain ⟨before, w, after, rfl, hbefore, haltered⟩ := ih hrest
      refine ⟨(key, v) :: before, w, after, rfl, ?_, ?_⟩
      · rw [List.map_cons, List.mem_cons, not_or]
        exact ⟨Ne.symm hkey, hbefore⟩
      · intro f
        rw [altered, if_neg hkey, haltered]
        rfl

/-- **Maps with the same keys in the same order and the same values are equal**, if no key stands
twice. -/
theorem ext_of_nodup {m m' : OrderedMap α γ} (hnodup : m.keys.Nodup) (hkeys : m.keys = m'.keys)
    (hvalues : ∀ k, m.get? k = m'.get? k) : m = m' := by
  obtain ⟨es⟩ := m
  obtain ⟨es'⟩ := m'
  simp only [keys, get?] at hnodup hkeys hvalues
  congr 1
  induction es generalizing es' with
  | nil => exact (List.map_eq_nil_iff.1 hkeys.symm).symm
  | cons e es ih =>
    obtain ⟨k, v⟩ := e
    rcases es' with _ | ⟨⟨k', v'⟩, es'⟩
    · cases hkeys
    · obtain ⟨rfl, hrest⟩ := List.cons.inj hkeys
      obtain ⟨hk, hnodup⟩ := List.nodup_cons.1 hnodup
      have hfirst := hvalues k
      rw [lookup, lookup, if_pos rfl, if_pos rfl] at hfirst
      have htail : ∀ j, lookup j es = lookup j es' := by
        intro j
        by_cases hj : k = j
        · subst hj
          rw [lookup_of_notMem hk, lookup_of_notMem (hrest ▸ hk)]
        · have hother := hvalues j
          rwa [lookup, lookup, if_neg hj, if_neg hj] at hother
      rw [Option.some.inj hfirst, ih hnodup es' hrest htail]

/-- An entry of a map in which no key stands twice has the value of its key. -/
theorem get?_of_mem {m : OrderedMap α γ} (hnodup : m.keys.Nodup) {e : α × γ}
    (he : e ∈ m.entries) : m.get? e.1 = some e.2 := by
  obtain ⟨es⟩ := m
  simp only [keys, get?] at hnodup he ⊢
  induction es with
  | nil => cases he
  | cons e' es ih =>
    obtain ⟨hfirst, hrest⟩ := List.nodup_cons.1 hnodup
    rw [lookup]
    rcases List.mem_cons.1 he with rfl | he
    · exact if_pos rfl
    · have hne : e'.1 ≠ e.1 := by
        intro hsame
        have hmem : e.1 ∈ es.map (·.1) := List.mem_map_of_mem he
        rw [← hsame] at hmem
        exact hfirst hmem
      rw [if_neg hne, ih hrest he]

/-! ### Items read under keys -/

omit [DecidableEq β] in
/-- When something is read from each item that has a key, what is read under one key is read from
the items with this key. -/
theorem filter_filterMap_key (key? : δ → Option α) {read : α → δ → β} {key : β → α}
    (hkey : ∀ k item, key (read k item) = k) (k : α) (items : List δ) :
    (items.filterMap fun item => (key? item).map fun k => read k item).filter (key · = k)
      = (items.filter fun item => key? item = some k).map (read k) := by
  induction items with
  | nil => rfl
  | cons item items ih =>
    rw [List.filterMap_cons, List.filter_cons]
    cases hitem : key? item with
    | none => simpa using ih
    | some k' =>
      by_cases hsame : k' = k
      · subst hsame
        simp [hkey, ih]
      · simp [hkey, hsame, ih]

/-! ### The last value of a key -/

/-- The value of the last pair with the key. -/
def last? (k : α) (pairs : List (α × γ)) : Option γ :=
  ((pairs.filter (·.1 = k)).getLast?).map (·.2)

theorem last?_append_singleton (k : α) (pairs : List (α × γ)) (p : α × γ) :
    last? k (pairs ++ [p]) = if p.1 = k then some p.2 else last? k pairs := by
  rw [last?, List.filter_append, List.filter_singleton]
  by_cases hp : p.1 = k
  · rw [decide_eq_true hp, if_pos hp]
    simp
  · rw [decide_eq_false hp, if_neg hp]
    simp [last?]

theorem ofList_append_singleton (pairs : List (α × γ)) (p : α × γ) :
    ofList (pairs ++ [p]) = (ofList pairs).insert p.1 p.2 := by
  rw [ofList, List.foldl_append, ofList]
  rfl

/-- **Every key stands once, in the place of its first pair.** -/
theorem keys_ofList (pairs : List (α × γ)) :
    (ofList pairs).keys = distinct (pairs.map (·.1)) := by
  induction pairs using List.reverseRecOn with
  | nil => rfl
  | append_singleton pairs p ih =>
    rw [ofList_append_singleton, keys_insert, ih, List.map_append, List.map_singleton,
      distinct_append_singleton]
    simp only [mem_distinct]

/-- **Every key has the value of its last pair.** -/
theorem get?_ofList (pairs : List (α × γ)) (k : α) : (ofList pairs).get? k = last? k pairs := by
  induction pairs using List.reverseRecOn with
  | nil => rfl
  | append_singleton pairs p ih =>
    rw [ofList_append_singleton, get?_insert, ih, last?_append_singleton]

theorem mem_of_last? {k : α} {v : γ} {pairs : List (α × γ)} (h : last? k pairs = some v) :
    (k, v) ∈ pairs := by
  obtain ⟨p, hp, rfl⟩ := Option.map_eq_some_iff.1 h
  obtain ⟨hmem, hkey⟩ := List.mem_filter.1 (List.mem_of_getLast? hp)
  rwa [← of_decide_eq_true hkey]

theorem last?_eq_none_iff {k : α} {pairs : List (α × γ)} :
    last? k pairs = none ↔ k ∉ pairs.map (·.1) := by
  rw [last?, Option.map_eq_none_iff, List.getLast?_eq_none_iff, List.filter_eq_nil_iff,
    List.mem_map]
  constructor
  · rintro h ⟨p, hp, hkey⟩
    exact h p hp (decide_eq_true hkey)
  · intro h p hp hkey
    exact h ⟨p, hp, of_decide_eq_true hkey⟩

/-- Where no two pairs share a key, the last pair with a key is the only one. -/
theorem last?_eq_some_iff {k : α} {v : γ} {pairs : List (α × γ)}
    (hkeys : (pairs.map (·.1)).Nodup) : last? k pairs = some v ↔ (k, v) ∈ pairs := by
  constructor
  · exact mem_of_last?
  · intro hmem
    cases hlast : last? k pairs with
    | none => exact absurd (List.mem_map_of_mem hmem) (last?_eq_none_iff.1 hlast)
    | some v' =>
      have hsame := List.inj_on_of_nodup_map hkeys (mem_of_last? hlast) hmem rfl
      rw [(Prod.mk.inj hsame).2]

/-- Keys that a function tells apart from a key can be renamed by it. -/
theorem last?_map {f : α → β} {k : α} {pairs : List (α × γ)}
    (hf : ∀ p ∈ pairs, f p.1 = f k → p.1 = k) :
    last? (f k) (pairs.map fun p => (f p.1, p.2)) = last? k pairs := by
  have hsame : ∀ p ∈ pairs, decide (f p.1 = f k) = decide (p.1 = k) := by
    intro p hp
    exact decide_eq_decide.2 ⟨hf p hp, congrArg f⟩
  rw [last?, List.filter_map, List.getLast?_map, Option.map_map, last?]
  exact congrArg (Option.map _ ·.getLast?) (List.filter_congr hsame)

/-- **The entries of a map built from pairs**: for each key, in the order of first pairs, the value
of its last pair. -/
theorem entries_ofList (pairs : List (α × γ)) :
    List.Forall₂ (fun k e => e.1 = k ∧ last? k pairs = some e.2)
      (distinct (pairs.map (·.1))) (ofList pairs).entries := by
  have hnodup : (ofList pairs).keys.Nodup := by
    rw [keys_ofList]
    exact nodup_distinct _
  rw [← keys_ofList, keys, List.forall₂_map_left_iff, List.forall₂_same]
  intro e he
  rw [← get?_ofList]
  exact ⟨rfl, get?_of_mem hnodup he⟩

/-- The last pair with a key, where pairs are read from items some of which have a key. -/
theorem last?_filterMap (key? : δ → Option α) (value : α → δ → γ) (k : α) (items : List δ) :
    last? k (items.filterMap fun item => (key? item).map fun key => (key, value key item))
      = ((items.filter fun item => key? item = some k).getLast?).map (value k) := by
  rw [last?, filter_filterMap_key key? (fun _ _ => rfl) k items, List.getLast?_map, Option.map_map]
  rfl

/-! ### Values that a function is applied to -/

omit [DecidableEq α] in
theorem keys_mapValues (f : γ → δ) (m : OrderedMap α γ) : (m.mapValues f).keys = m.keys := by
  rw [keys, mapValues, List.map_map]
  rfl

theorem get?_mapValues (f : γ → δ) (m : OrderedMap α γ) (k : α) :
    (m.mapValues f).get? k = (m.get? k).map f := by
  rw [get?, mapValues, get?]
  induction m.entries with
  | nil => rfl
  | cons e rest ih =>
    rw [List.map_cons, lookup, lookup]
    split
    · rfl
    · exact ih

theorem mapValues_insert (f : γ → δ) (m : OrderedMap α γ) (k : α) (v : γ) :
    (m.insert k v).mapValues f = (m.mapValues f).insert k (f v) := by
  have haltered : ∀ es : List (α × γ), (altered k (fun _ => v) es).map (fun e => (e.1, f e.2))
      = altered k (fun _ => f v) (es.map fun e => (e.1, f e.2)) := by
    intro es
    induction es with
    | nil => rfl
    | cons e es ih =>
      rw [List.map_cons, altered, altered]
      split
      · rfl
      · rw [List.map_cons, ih]
  exact congrArg OrderedMap.mk (haltered m.entries)

theorem mapValues_ofList (f : γ → δ) (pairs : List (α × γ)) :
    (ofList pairs).mapValues f = ofList (pairs.map fun p => (p.1, f p.2)) := by
  induction pairs using List.reverseRecOn with
  | nil => rfl
  | append_singleton pairs p ih =>
    rw [ofList_append_singleton, mapValues_insert, ih, List.map_append, List.map_singleton,
      ofList_append_singleton]

end OrderedMap

end BriefSearch
