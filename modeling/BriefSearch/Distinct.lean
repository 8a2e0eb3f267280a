/-!
# Lists without repetitions

* **`distinct`** — keeps the first of equal items.
* **`isDistinct`** — holds when no two items are equal.
-/

namespace BriefSearch

variable {α : Type} [DecidableEq α]

/-- The items without repetitions, each in the place where it first occurs. -/
def distinct : List α → List α
  | [] => []
  | a :: rest => a :: (distinct rest).filter (· ≠ a)

/-- No item is lost and none comes in. -/
theorem mem_distinct {a : α} {as : List α} : a ∈ distinct as ↔ a ∈ as := by
  induction as with
  | nil => simp [distinct]
  | cons b rest ih =>
    simp only [distinct, List.mem_cons, List.mem_filter, ih, decide_eq_true_eq]
    by_cases h : a = b <;> simp [h]

/-- Every item is there once. -/
theorem nodup_distinct (as : List α) : (distinct as).Nodup := by
  induction as with
  | nil => exact .nil
  | cons a rest ih =>
    simp only [distinct, List.nodup_cons, List.mem_filter, decide_eq_true_eq]
    exact ⟨fun h => h.2 rfl, ih.filter _⟩

/-- Holds when no item occurs twice. -/
def isDistinct : List α → Bool
  | [] => true
  | a :: rest => !rest.contains a && isDistinct rest

end BriefSearch
