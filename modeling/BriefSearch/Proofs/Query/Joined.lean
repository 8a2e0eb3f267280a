import BriefSearch.Proofs.Query.Escape
import BriefSearch.Proofs.Query.Parameters
import BriefSearch.Proofs.Query.Queries

/-!
# Joined values

A query joins its values by the word of an operator between spaces.  The values can be told apart
again, since an escaped value has no keyword among its words: no keyword comes into being inside a
value, at its ends or across a joint.

* **`Operator.split`** — the texts that an operator's word separates, found from left to right;
* **`Separable`** — a text that joins values and gives them back;
* **`separable_joined`** — joined escaped values are separable;
* **`separable_render_and_documents`** — hence what groups and record ids are asked for by.
-/

namespace BriefSearch

open Text

/-! ### Taking a text apart -/

namespace Operator

/-- The other of the two operators. -/
def other : Operator → Operator
  | and => or
  | or => and

/-- What stands between two joined values. -/
def joint (op : Operator) : List Char :=
  spaced op.word.toList

theorem joint_ne_nil (op : Operator) : op.joint ≠ [] :=
  List.cons_ne_nil _ _

/-- What lies behind a mark is shorter than the text. -/
theorem length_lt_of_cut? {mark cs before behind : List Char} (hm : mark ≠ [])
    (h : cut? mark cs = some (before, behind)) : behind.length < cs.length := by
  have hlen := List.length_pos_of_ne_nil hm
  obtain ⟨rfl, -⟩ := eq_append_of_cut? hm h
  rw [List.length_append, List.length_append]
  omega

/-- The texts that the joints of an operator separate. -/
def parts (op : Operator) (cs : List Char) : List (List Char) :=
  match _h : cut? op.joint cs with
  | none => [cs]
  | some (before, behind) => before :: op.parts behind
termination_by cs.length
decreasing_by exact length_lt_of_cut? op.joint_ne_nil _h

/-- The texts that the joints of an operator separate, as strings. -/
def split (op : Operator) (text : String) : List String :=
  (op.parts text.toList).map .ofList

theorem parts_of_cut?_eq_none {op : Operator} {cs : List Char} (h : cut? op.joint cs = none) :
    op.parts cs = [cs] := by
  rw [parts]
  split
  · rfl
  · rename_i hsome
    rw [h] at hsome
    exact absurd hsome (by simp)

theorem parts_of_cut?_eq_some {op : Operator} {cs before behind : List Char}
    (h : cut? op.joint cs = some (before, behind)) :
    op.parts cs = before :: op.parts behind := by
  rw [parts]
  split
  · rename_i hnone
    rw [h] at hnone
    exact absurd hnone (by simp)
  · rename_i hsome
    rw [h] at hsome
    cases hsome
    rfl

end Operator

/-! ### Values without keywords -/

/-- No word of the text is a keyword. -/
def Plain (cs : List Char) : Prop :=
  ∀ op : Operator, op.word.toList ∉ words cs

theorem plain_escapeValue (value : String) : Plain (escapeValue value).toList := by
  intro op
  rw [escapeValue, String.toList_ofList]
  exact Escape.keyword_notMem_words_escaped op value.toList

theorem comma_notMem_escapeValue (value : String) : ',' ∉ (escapeValue value).toList := by
  rw [escapeValue, String.toList_ofList]
  exact Escape.comma_notMem_escaped value.toList

/-! ### The words of joined values -/

section

variable (op : Operator)

theorem intercalate_joint_cons (v v' : List Char) (vs : List (List Char)) :
    op.joint.intercalate (v :: v' :: vs)
      = v ++ spaced op.word.toList ++ op.joint.intercalate (v' :: vs) :=
  List.intercalate_cons_cons

/-- Joining adds the operator's word once between two values. -/
theorem words_intercalate_joint (v v' : List Char) (vs : List (List Char)) :
    words (op.joint.intercalate (v :: v' :: vs))
      = words v ++ op.word.toList :: words (op.joint.intercalate (v' :: vs)) := by
  rw [intercalate_joint_cons, words_append_spaced op.space_notMem_word]

theorem count_dropLast_words_intercalate (vs : List (List Char)) (v : List Char)
    (h : ∀ v' ∈ v :: vs, Plain v') :
    (words (op.joint.intercalate (v :: vs))).dropLast.count op.word.toList = vs.length := by
  induction vs generalizing v with
  | nil =>
    rw [List.intercalate_singleton, List.length_nil, List.count_eq_zero]
    exact fun hmem => h v List.mem_cons_self op (List.mem_of_mem_dropLast hmem)
  | cons v' vs ih =>
    have hv : (words v).count op.word.toList = 0 :=
      List.count_eq_zero.2 (h v List.mem_cons_self op)
    have hrest := ih v' fun w hw => h w (List.mem_cons_of_mem v hw)
    rw [words_intercalate_joint, List.dropLast_append_cons,
      List.dropLast_cons_of_ne_nil (words_ne_nil _), List.count_append, List.count_cons_self, hv,
      hrest, List.length_cons, Nat.zero_add]

/-- The operator's word stands between spaces only where two values are joined. -/
theorem occurrences_joint_intercalate (vs : List (List Char)) (v : List Char)
    (h : ∀ v' ∈ v :: vs, Plain v') :
    occurrences op.joint (op.joint.intercalate (v :: vs)) = vs.length := by
  have hv : op.word.toList ∉ words v := h v List.mem_cons_self op
  -- The first and the last word have no joint around them, but neither is a keyword.
  rw [Operator.joint, occurrences_spaced op.space_notMem_word, ← Operator.joint]
  cases vs with
  | nil =>
    rw [List.intercalate_singleton, List.length_nil, List.count_eq_zero]
    exact fun hmem => hv (List.mem_of_mem_tail (List.mem_of_mem_dropLast hmem))
  | cons v' vs =>
    have hrest := count_dropLast_words_intercalate op vs v'
      fun w hw => h w (List.mem_cons_of_mem v hw)
    rw [words_intercalate_joint, List.tail_append_of_ne_nil (words_ne_nil v),
      List.dropLast_append_cons, List.dropLast_cons_of_ne_nil (words_ne_nil _), List.count_append,
      List.count_cons_self, hrest, List.length_cons,
      List.count_eq_zero.2 fun hmem => hv (List.mem_of_mem_tail hmem), Nat.zero_add]

/-- The other operator's word is no word of joined values. -/
theorem other_notMem_words_intercalate (vs : List (List Char)) (v : List Char)
    (h : ∀ v' ∈ v :: vs, Plain v') :
    op.other.word.toList ∉ words (op.joint.intercalate (v :: vs)) := by
  induction vs generalizing v with
  | nil =>
    rw [List.intercalate_singleton]
    exact h v List.mem_cons_self op.other
  | cons v' vs ih =>
    rw [words_intercalate_joint, List.mem_append, List.mem_cons, not_or, not_or]
    refine ⟨h v List.mem_cons_self op.other, ?_, ?_⟩
    · cases op <;> decide
    · exact ih v' fun w hw => h w (List.mem_cons_of_mem v hw)

/-- **Joined values come apart again.** -/
theorem parts_intercalate_joint (vs : List (List Char)) (v : List Char)
    (h : ∀ v' ∈ v :: vs, Plain v') : op.parts (op.joint.intercalate (v :: vs)) = v :: vs := by
  induction vs generalizing v with
  | nil =>
    have hocc := occurrences_joint_intercalate op [] v h
    rw [List.intercalate_singleton] at hocc ⊢
    refine Operator.parts_of_cut?_eq_none ?_
    have hno : ¬ occurs op.joint v = true := by
      rw [occurs_iff op.joint_ne_nil, hocc]
      exact Nat.lt_irrefl 0
    rwa [occurs, Option.not_isSome_iff_eq_none] at hno
  | cons v' vs ih =>
    have hfree : op.word.toList ∉ (words v).tail :=
      fun hmem => h v List.mem_cons_self op (List.mem_of_mem_tail hmem)
    have hcut := cut?_spaced op.space_notMem_word hfree (op.joint.intercalate (v' :: vs))
    rw [← intercalate_joint_cons] at hcut
    rw [Operator.parts_of_cut?_eq_some hcut, ih v' fun w hw => h w (List.mem_cons_of_mem v hw)]

end

/-! ### Separable texts -/

/-- A text that joins values by an operator and gives them back. -/
structure Separable (op : Operator) (values : List String) (text : String) : Prop where
  /-- No comma could end the values early. -/
  comma : ',' ∉ text.toList
  /-- There is one joint less than there are values. -/
  joints : occurrences op.joint text.toList + 1 = values.length
  /-- Nothing is joined by the other operator. -/
  otherJoints : occurrences op.other.joint text.toList = 0
  /-- The other operator's word is not even at an end. -/
  otherWord : op.other.word.toList ∉ words text.toList
  /-- The joints separate the values, which are in order. -/
  split : op.split text = values

theorem toList_joined (op : Operator) (values : List String) :
    (Vocabulary.joined op values).toList = op.joint.intercalate (values.map String.toList) := by
  have h : (" " ++ op.word ++ " ").toList = op.joint := by cases op <;> rfl
  rw [Vocabulary.joined, String.toList_intercalate, h]

theorem comma_notMem_joined {op : Operator} {values : List String}
    (h : ∀ v ∈ values, ',' ∉ v.toList) : ',' ∉ (Vocabulary.joined op values).toList := by
  rw [toList_joined]
  induction values with
  | nil => exact List.not_mem_nil
  | cons v values ih =>
    cases values with
    | nil => simpa using h v List.mem_cons_self
    | cons v' values =>
      rw [List.map_cons, List.map_cons, List.intercalate_cons_cons, List.mem_append,
        List.mem_append, not_or, not_or]
      refine ⟨⟨h v List.mem_cons_self, ?_⟩, ih fun w hw => h w (List.mem_cons_of_mem v hw)⟩
      cases op <;> decide

/-- **Joined values are separable** when none has a comma or a keyword among its words. -/
theorem separable_of_plain (op : Operator) {values : List String} (hne : values ≠ [])
    (hcomma : ∀ v ∈ values, ',' ∉ v.toList) (hplain : ∀ v ∈ values, Plain v.toList) :
    Separable op values (Vocabulary.joined op values) := by
  obtain ⟨v, vs, rfl⟩ := List.exists_cons_of_ne_nil hne
  have hall : ∀ w ∈ v.toList :: vs.map String.toList, Plain w := by
    intro w hw
    rw [← List.map_cons (f := String.toList)] at hw
    obtain ⟨u, hu, rfl⟩ := List.mem_map.1 hw
    exact hplain u hu
  have hother := other_notMem_words_intercalate op (vs.map String.toList) v.toList hall
  refine ⟨comma_notMem_joined hcomma, ?_, ?_, ?_, ?_⟩
  · rw [toList_joined, List.map_cons, occurrences_joint_intercalate op _ _ hall, List.length_map,
      List.length_cons]
  · rw [toList_joined, List.map_cons, Operator.joint,
      occurrences_spaced op.other.space_notMem_word, List.count_eq_zero]
    exact fun hmem => hother (List.mem_of_mem_tail (List.mem_of_mem_dropLast hmem))
  · rw [toList_joined, List.map_cons]
    exact hother
  · rw [Operator.split, toList_joined, List.map_cons, parts_intercalate_joint op _ _ hall,
      ← List.map_cons (f := String.toList), List.map_map]
    simp

/-- **Joined escaped values are separable.** -/
theorem separable_joined (op : Operator) {values : List String} (hne : values ≠ [])
    (h : ∀ v ∈ values, ∃ u, escapeValue u = v) :
    Separable op values (Vocabulary.joined op values) := by
  refine separable_of_plain op hne ?_ ?_
  · intro v hv
    obtain ⟨u, rfl⟩ := h v hv
    exact comma_notMem_escapeValue u
  · intro v hv
    obtain ⟨u, rfl⟩ := h v hv
    exact plain_escapeValue u

theorem separable_queryValues (vocabulary : Vocabulary) (field : String) {g : Group}
    (hg : g.filters ≠ []) :
    Separable g.operator (vocabulary.queryValues field g)
      (Vocabulary.joined g.operator (vocabulary.queryValues field g)) := by
  refine separable_joined g.operator ?_ ?_
  · rw [Vocabulary.queryValues, ne_eq, List.map_eq_nil_iff]
    exact hg
  · intro v hv
    obtain ⟨f, -, rfl⟩ := List.mem_map.1 hv
    exact ⟨_, rfl⟩

/-- **What a query joins can be taken apart.**  A group that has a query is asked for by its field,
`exact` and the separable text of its escaped values; the records of some ids are asked for by the
separable text of the escaped ids. -/
theorem separable_render_and_documents :
    (∀ (vocabulary : Vocabulary) (g : Group) (p : Parameters), vocabulary.render g = .ok p →
      ∃ name text, g.field? = some name ∧
        p.toPairs = [(queryParameter, vocabulary.fields.serviceName name ++ ",exact," ++ text)] ∧
        Separable g.operator
          (g.filters.map fun f =>
            escapeValue (vocabulary.values.encode (vocabulary.fields.serviceName name) f.value))
          text) ∧
    (∀ (vocabulary : Vocabulary) (institution ipAddress : String) (scopes : Option String)
      (ids : List String), ids ≠ [] →
      ∃ call text,
        ((Client.new vocabulary institution ipAddress scopes).documents ids).calls = [call] ∧
        call.parameters.get? queryParameter = some ["rid,contains," ++ text] ∧
        Separable .or (ids.map escapeValue) text) := by
  constructor
  · intro vocabulary g p hp
    obtain ⟨q, hq, rfl⟩ := vocabulary.render_eq_ok_iff.1 hp
    obtain ⟨name, hname, rfl⟩ := vocabulary.query_eq_ok_iff.1 hq
    have hne := (Group.commonField_eq_ok_iff.1 hname).1
    exact ⟨name, _, Group.field?_of_commonField hname, rfl,
      separable_queryValues vocabulary _ hne⟩
  · intro vocabulary institution ipAddress scopes ids hids
    have hempty : ids.isEmpty = false := by simpa using hids
    let defaults := (Client.new vocabulary institution ipAddress scopes).defaults
    let query := Parameters.empty.push queryParameter (Client.recordQuery ids)
    refine ⟨⟨query.merge defaults, 1, .ofNat ids.length⟩,
      Vocabulary.joined .or (ids.map escapeValue), ?_, ?_, ?_⟩
    · rw [Client.documents, hempty]
      rfl
    · rw [Parameters.get?_merge_of_notMem _
        (Client.queryParameter_notMem_defaults vocabulary institution ipAddress scopes),
        Parameters.get?_push_empty]
      rfl
    · refine separable_joined .or ?_ ?_
      · rw [ne_eq, List.map_eq_nil_iff]
        exact hids
      · intro v hv
        obtain ⟨id, -, rfl⟩ := List.mem_map.1 hv
        exact ⟨id, rfl⟩

/-- Values that end in a keyword, begin with one or are empty stay apart from the joints. -/
theorem separable_or_keyword_edges :
    (∃ name text, (⟨.or, [⟨"type", "x OR"⟩, ⟨"type", ",OR y"⟩, ⟨"type", ""⟩]⟩ : Group).field?
        = some name ∧
      (Parameters.ofQueries ["rtype,exact,x  OR  y OR "]).toPairs
        = [(queryParameter, "rtype" ++ ",exact," ++ text)] ∧
      Separable .or ["x ", " y", ""] text) ∧
    (∃ call text,
      ((Client.new ⟨.empty, .empty⟩ "inst" "" none).documents ["a,1", "OR"]).calls = [call] ∧
      call.parameters.get? queryParameter = some ["rid,contains," ++ text] ∧
      Separable .or ["a 1", " "] text) := by
  have hrender : Vocabulary.render ⟨.ofList [("type", "rtype")], .empty⟩
      ⟨.or, [⟨"type", "x OR"⟩, ⟨"type", ",OR y"⟩, ⟨"type", ""⟩]⟩
      = .ok (Parameters.ofQueries ["rtype,exact,x  OR  y OR "]) := by decide +kernel
  have hgroup := separable_render_and_documents.1 _ _ _ hrender
  have hids := separable_render_and_documents.2 ⟨.empty, .empty⟩ "inst" "" none ["a,1", "OR"]
    (List.cons_ne_nil _ _)
  refine ⟨?_, ?_⟩
  · obtain ⟨name, text, hname, hpairs, hsep⟩ := hgroup
    cases hname
    have hvalues : ["x ", " y", ""] = ["x OR", ",OR y", ""].map escapeValue := by decide +kernel
    rw [hvalues]
    exact ⟨"type", text, rfl, hpairs, hsep⟩
  · have hvalues : ["a 1", " "] = ["a,1", "OR"].map escapeValue := by decide +kernel
    rw [hvalues]
    exact hids

end BriefSearch
