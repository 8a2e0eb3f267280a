/-!
# Values inside a query

A query separates its parts by commas and joins values by ` AND ` and ` OR `, so a value must hold
none of them. Main definitions:

* **`Escape.step`** — one pass: commas and keywords between spaces become a space, then one keyword
  at an end of the text does.
* **`Escape.escaped`** — passes until nothing changes.
* **`escapeValue`** — the same on texts.
-/

namespace BriefSearch.Escape

/-- Writes one space for every comma and every keyword between spaces, from left to right. -/
def replaced : List Char → List Char
  | [] => []
  | ' ' :: 'A' :: 'N' :: 'D' :: ' ' :: rest => ' ' :: replaced rest
  | ' ' :: 'O' :: 'R' :: ' ' :: rest => ' ' :: replaced rest
  | ',' :: rest => ' ' :: replaced rest
  | c :: rest => c :: replaced rest

/-- The text behind a keyword and a space. -/
def afterKeyword? (keyword cs : List Char) : Option (List Char) :=
  if (keyword ++ [' ']).isPrefixOf cs then some (cs.drop (keyword.length + 1)) else none

/-- The text before a space and a keyword. -/
def beforeKeyword? (keyword cs : List Char) : Option (List Char) :=
  if (' ' :: keyword).isSuffixOf cs then some (cs.take (cs.length - (keyword.length + 1)))
  else none

/-- The text with a space for the keyword, if the keyword is all of it or stands at an end. -/
def edgeStripped? (keyword cs : List Char) : Option (List Char) :=
  if cs = keyword then some [' ']
  else
    match afterKeyword? keyword cs with
    | some rest => some (' ' :: rest)
    | none => (beforeKeyword? keyword cs).map (· ++ [' '])

/-- The text with a space for the first keyword found at an end. -/
def stripped (cs : List Char) : List Char :=
  match edgeStripped? ['A', 'N', 'D'] cs with
  | some result => result
  | none => (edgeStripped? ['O', 'R'] cs).getD cs

/-- One pass over a text. -/
def step (cs : List Char) : List Char :=
  stripped (replaced cs)

/-! ### Every pass that changes a text makes it lighter -/

/-- The number of characters, a comma counting twice. -/
def weight (cs : List Char) : Nat :=
  cs.length + cs.count ','

theorem weight_cons (c : Char) (cs : List Char) :
    weight (c :: cs) = weight cs + if c = ',' then 2 else 1 := by
  simp only [weight, List.length_cons, List.count_cons, beq_iff_eq]
  split <;> omega

theorem weight_append (as bs : List Char) : weight (as ++ bs) = weight as + weight bs := by
  simp only [weight, List.length_append, List.count_append]
  omega

theorem replaced_eq_or_lighter (cs : List Char) :
    replaced cs = cs ∨ weight (replaced cs) < weight cs := by
  fun_induction replaced cs with
  | case1 => exact .inl rfl
  | case2 rest ih =>
    right
    rcases ih with h | h
    · simp [weight_cons, h]
    · simp [weight_cons]
      omega
  | case3 rest ih =>
    right
    rcases ih with h | h
    · simp [weight_cons, h]
    · simp [weight_cons]
      omega
  | case4 rest ih =>
    right
    rcases ih with h | h
    · simp [weight_cons, h]
    · simp [weight_cons]
      omega
  | case5 c rest _ _ _ ih =>
    rcases ih with h | h
    · exact .inl (by rw [h])
    · right
      simp only [weight_cons]
      omega

theorem edgeStripped?_lighter {keyword cs result : List Char} (hk : 1 < weight keyword)
    (h : edgeStripped? keyword cs = some result) : weight result < weight cs := by
  unfold edgeStripped? at h
  split at h
  · rename_i hc
    cases h
    rw [hc]
    simpa [weight] using hk
  · split at h
    · rename_i rest hr
      cases h
      unfold afterKeyword? at hr
      split at hr
      · rename_i hp
        obtain ⟨tail, rfl⟩ := List.isPrefixOf_iff_prefix.1 hp
        simp only [Option.some.injEq] at hr
        have : rest = tail := by
          rw [← hr, List.drop_left' (by simp)]
        subst this
        simp only [weight_cons, weight_append]
        simp only [weight, List.length_nil, List.count_nil] at *
        split <;> omega
      · cases hr
    · obtain ⟨rest, hr, rfl⟩ := Option.map_eq_some_iff.1 h
      unfold beforeKeyword? at hr
      split at hr
      · rename_i hp
        obtain ⟨start, rfl⟩ := List.isSuffixOf_iff_suffix.1 hp
        simp only [Option.some.injEq] at hr
        have : rest = start := by
          rw [← hr, List.take_left' (by simp)]
        subst this
        simp only [weight_cons, weight_append]
        simp only [weight, List.length_nil, List.count_nil] at *
        split <;> omega
      · cases hr

theorem stripped_eq_or_lighter (cs : List Char) :
    stripped cs = cs ∨ weight (stripped cs) < weight cs := by
  unfold stripped
  split
  · rename_i h
    exact .inr (edgeStripped?_lighter (by decide) h)
  · cases h : edgeStripped? ['O', 'R'] cs with
    | none => exact .inl rfl
    | some result => exact .inr (edgeStripped?_lighter (by decide) h)

theorem weight_step_lt {cs : List Char} (h : step cs ≠ cs) : weight (step cs) < weight cs := by
  unfold step at *
  rcases replaced_eq_or_lighter cs with hr | hr
  · rw [hr] at h ⊢
    exact (stripped_eq_or_lighter cs).resolve_left h
  · rcases stripped_eq_or_lighter (replaced cs) with hs | hs
    · rwa [hs]
    · omega

/-- Passes over the text until nothing changes. -/
def escaped (cs : List Char) : List Char :=
  if step cs = cs then cs else escaped (step cs)
termination_by weight cs
decreasing_by exact weight_step_lt ‹_›

end BriefSearch.Escape

namespace BriefSearch

/-- The value as it may stand in a query: without commas and without the keywords AND and OR as
words of their own. -/
def escapeValue (value : String) : String :=
  .ofList (Escape.escaped value.toList)

end BriefSearch
