/-!
# Maps in order of first insertion

* **`OrderedMap`** — a list of keys with their values.
* **`OrderedMap.insert`** — gives a key its value; a key already there keeps its place.
* **`OrderedMap.alter`** — computes the new value of a key from the old one.
* **`OrderedMap.get?_insert`**, **`keys_insert`** — an insertion changes one value and adds at most
  one key, at the end.
-/

namespace BriefSearch

/-- Keys with values, in the order in which the keys were first inserted. -/
structure OrderedMap (α β : Type) where
  entries : List (α × β)
  deriving DecidableEq, Repr

namespace OrderedMap

variable {α β γ : Type}

/-- The map without entries. -/
def empty : OrderedMap α β :=
  ⟨[]⟩

/-- Holds when there is no entry. -/
def isEmpty (m : OrderedMap α β) : Bool :=
  m.entries.isEmpty

/-- The number of keys. -/
def size (m : OrderedMap α β) : Nat :=
  m.entries.length

/-- The keys in order. -/
def keys (m : OrderedMap α β) : List α :=
  m.entries.map (·.1)

/-- The values in order of their keys. -/
def values (m : OrderedMap α β) : List β :=
  m.entries.map (·.2)

/-- Applies a function to every value. -/
def mapValues (f : β → γ) (m : OrderedMap α β) : OrderedMap α γ :=
  ⟨m.entries.map fun e => (e.1, f e.2)⟩

variable [DecidableEq α]

/-- The value of the first entry with the key. -/
def lookup (k : α) : List (α × β) → Option β
  | [] => none
  | (k', v) :: rest => if k' = k then some v else lookup k rest

/-- Replaces the value of the key by what the function makes of it; a key that is not there is
added at the end. -/
def altered (k : α) (f : Option β → β) : List (α × β) → List (α × β)
  | [] => [(k, f none)]
  | (k', v) :: rest => if k' = k then (k', f (some v)) :: rest else (k', v) :: altered k f rest

/-- The value of a key. -/
def get? (m : OrderedMap α β) (k : α) : Option β :=
  lookup k m.entries

/-- Replaces the value of a key by what the function makes of it. -/
def alter (m : OrderedMap α β) (k : α) (f : Option β → β) : OrderedMap α β :=
  ⟨altered k f m.entries⟩

/-- Gives the key the value. -/
def insert (m : OrderedMap α β) (k : α) (v : β) : OrderedMap α β :=
  m.alter k fun _ => v

/-- Inserts the pairs one by one: the last value of a key wins, in the place of its first. -/
def ofList (pairs : List (α × β)) : OrderedMap α β :=
  pairs.foldl (fun m p => m.insert p.1 p.2) empty

/-! ### What a change does to values and keys -/

theorem lookup_altered (k k' : α) (f : Option β → β) (es : List (α × β)) :
    lookup k' (altered k f es) = if k = k' then some (f (lookup k es)) else lookup k' es := by
  induction es with
  | nil => simp [altered, lookup]
  | cons e rest ih =>
    obtain ⟨key, value⟩ := e
    simp only [altered, lookup]
    split
    · rename_i h
      subst h
      simp only [lookup]
      split <;> rfl
    · rename_i h
      simp only [lookup, ih]
      split
      · rename_i h'
        subst h'
        rw [if_neg (Ne.symm h)]
      · rfl

theorem map_fst_altered (k : α) (f : Option β → β) (es : List (α × β)) :
    (altered k f es).map (·.1) =
      if k ∈ es.map (·.1) then es.map (·.1) else es.map (·.1) ++ [k] := by
  induction es with
  | nil => simp [altered]
  | cons e rest ih =>
    obtain ⟨key, value⟩ := e
    simp only [altered]
    split
    · rename_i h
      simp [h]
    · rename_i h
      simp only [List.map_cons, ih, List.mem_cons, Ne.symm h, false_or]
      split <;> rfl

/-- Altering a key changes the value of that key only. -/
theorem get?_alter (m : OrderedMap α β) (k k' : α) (f : Option β → β) :
    (m.alter k f).get? k' = if k = k' then some (f (m.get? k)) else m.get? k' :=
  lookup_altered k k' f m.entries

/-- Altering a key adds it at the end if it is not there. -/
theorem keys_alter (m : OrderedMap α β) (k : α) (f : Option β → β) :
    (m.alter k f).keys = if k ∈ m.keys then m.keys else m.keys ++ [k] :=
  map_fst_altered k f m.entries

/-- Inserting gives one key its value. -/
theorem get?_insert (m : OrderedMap α β) (k k' : α) (v : β) :
    (m.insert k v).get? k' = if k = k' then some v else m.get? k' :=
  m.get?_alter k k' fun _ => v

/-- Inserting adds a key at the end if it is not there. -/
theorem keys_insert (m : OrderedMap α β) (k : α) (v : β) :
    (m.insert k v).keys = if k ∈ m.keys then m.keys else m.keys ++ [k] :=
  m.keys_alter k fun _ => v

end OrderedMap

end BriefSearch
