import BriefSearch.Proofs.OrderedMap
import BriefSearch.Vocabulary

/-!
# Names and codes, there and back

A field that no table mentions keeps its name.  A table of codes and values reads a code as its
value and writes the value as the code again, as long as it tells all of them apart.

* **`FieldNames.serviceName_of_get?_eq_none`** — fields without another name;
* **`ValueTable.encode_decode`** — the codes that a table gives back;
* **`ValueMappers.Invertible`** — the mappers that give back codes of a field.
-/

namespace BriefSearch

/-! ### Names of fields -/

theorem FieldNames.serviceName_of_get?_eq_none {names : FieldNames} {field : String}
    (h : names.entries.get? field = none) : names.serviceName field = field := by
  rw [serviceName, h, Option.getD_none]

theorem FieldNames.serviceName_of_isEmpty {names : FieldNames} (h : names.isEmpty = true)
    (field : String) : names.serviceName field = field := by
  have hnone : names.entries.entries = [] := List.isEmpty_iff.1 h
  refine serviceName_of_get?_eq_none ?_
  rw [OrderedMap.get?, hnone]
  rfl

/-! ### Codes and values -/

theorem ValueTable.decode_of_mem {pairs : List (String × String)}
    (hcodes : (pairs.map (·.1)).Nodup) {code value : String} (h : (code, value) ∈ pairs) :
    (ofList pairs).mapper.decode code = value := by
  show ((OrderedMap.ofList pairs).get? code).getD code = value
  rw [OrderedMap.get?_ofList, (OrderedMap.last?_eq_some_iff hcodes).2 h, Option.getD_some]

theorem ValueTable.decode_of_notMem {pairs : List (String × String)} {code : String}
    (h : code ∉ pairs.map (·.1)) : (ofList pairs).mapper.decode code = code := by
  show ((OrderedMap.ofList pairs).get? code).getD code = code
  rw [OrderedMap.get?_ofList, OrderedMap.last?_eq_none_iff.2 h, Option.getD_none]

/-- A table writes values as the table with its columns swapped reads them. -/
theorem ValueTable.encode_eq_decode_swap (pairs : List (String × String)) :
    (ofList pairs).mapper.encode = (ofList (pairs.map Prod.swap)).mapper.decode :=
  rfl

/-- **A table gives back the codes that it reads**, if no two codes and no two values are the same
and a text that is not one of its codes is not one of its values. -/
theorem ValueTable.encode_decode {pairs : List (String × String)}
    (hcodes : (pairs.map (·.1)).Nodup) (hvalues : (pairs.map (·.2)).Nodup) {code : String}
    (hcode : code ∉ pairs.map (·.1) → code ∉ pairs.map (·.2)) :
    (ofList pairs).mapper.encode ((ofList pairs).mapper.decode code) = code := by
  have hswap : (pairs.map Prod.swap).map (·.1) = pairs.map (·.2) := by
    rw [List.map_map]
    rfl
  rw [encode_eq_decode_swap]
  by_cases hmem : code ∈ pairs.map (·.1)
  · obtain ⟨⟨code, value⟩, hpair, rfl⟩ := List.mem_map.1 hmem
    rw [decode_of_mem hcodes hpair]
    exact decode_of_mem (by rwa [hswap]) (List.mem_map_of_mem (f := Prod.swap) hpair)
  · rw [decode_of_notMem hmem]
    exact decode_of_notMem (by rw [hswap]; exact hcode hmem)

/-- The mappers read codes of a field without loss: the field has no mapper or that of a table in
which no two codes and no two values are the same, and no other code is one of the values. -/
def ValueMappers.Invertible (mappers : ValueMappers) (field : String) (codes : List String) :
    Prop :=
  mappers.get? field = none ∨
    ∃ pairs : List (String × String),
      mappers.get? field = some (ValueTable.ofList pairs).mapper ∧
      (pairs.map (·.1)).Nodup ∧ (pairs.map (·.2)).Nodup ∧
      ∀ code ∈ codes, code ∉ pairs.map (·.1) → code ∉ pairs.map (·.2)

theorem ValueMappers.Invertible.encode_decode {mappers : ValueMappers} {field : String}
    {codes : List String} (h : mappers.Invertible field codes) {code : String}
    (hcode : code ∈ codes) : mappers.encode field (mappers.decode field code) = code := by
  rcases h with hnone | ⟨pairs, hsome, hcodes, hvalues, hother⟩
  · simp only [encode, decode, hnone]
  · simp only [encode, decode, hsome]
    exact ValueTable.encode_decode hcodes hvalues (hother code hcode)

end BriefSearch
