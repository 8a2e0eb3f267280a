import BriefSearch.OrderedMap
import BriefSearch.Text.Basic

/-!
# The names and values of the search service

* **`FieldNames`** — the service's name for a field.
* **`ValueMapper`** — a field's values in the service's codes and back.
* **`ValueTable`** — a mapper given by a table of codes and values.
* **`ValueMappers`** — the mappers of the service's fields.

What no table mentions stays as it is.
-/

namespace BriefSearch

/-- The service's names for the fields that have one of their own. -/
structure FieldNames where
  entries : OrderedMap String String
  deriving DecidableEq, Repr

namespace FieldNames

/-- No field has a name of its own. -/
def empty : FieldNames :=
  ⟨.empty⟩

/-- Gives a field its name. -/
def insert (names : FieldNames) (field name : String) : FieldNames :=
  ⟨names.entries.insert field name⟩

/-- The names that a list of pairs gives; a later pair replaces an earlier one of its field. -/
def ofList (pairs : List (String × String)) : FieldNames :=
  ⟨.ofList pairs⟩

/-- The number of fields with a name. -/
def size (names : FieldNames) : Nat :=
  names.entries.size

/-- Holds when no field has a name. -/
def isEmpty (names : FieldNames) : Bool :=
  names.entries.isEmpty

/-- The service's name for a field, which is the field's own name if it has no other. -/
def serviceName (names : FieldNames) (field : String) : String :=
  (names.entries.get? field).getD field

end FieldNames

/-- Writes a value as the service's code and reads it back. -/
structure ValueMapper where
  /-- The service's code for a value. -/
  encode : String → String
  /-- The value that a code of the service stands for. -/
  decode : String → String

/-- A table of codes and the values they stand for, in both directions. -/
structure ValueTable where
  codes : OrderedMap String String
  values : OrderedMap String String
  deriving DecidableEq, Repr

namespace ValueTable

/-- The table of a list of codes with values. A later pair replaces an earlier one, for the code and
for the value apart. -/
def ofList (pairs : List (String × String)) : ValueTable :=
  ⟨.ofList (pairs.map fun p => (p.2, p.1)), .ofList pairs⟩

/-- The mapper that looks texts up in the table. -/
def mapper (table : ValueTable) : ValueMapper where
  encode value := (table.codes.get? value).getD value
  decode code := (table.values.get? code).getD code

end ValueTable

/-- The mappers of the service's fields, in the order of their registration. -/
structure ValueMappers where
  /-- Field names of the service with their mappers. -/
  entries : OrderedMap String ValueMapper

namespace ValueMappers

/-- No field has a mapper. -/
def empty : ValueMappers :=
  ⟨.empty⟩

/-- Gives a field its mapper. -/
def register (mappers : ValueMappers) (field : String) (mapper : ValueMapper) : ValueMappers :=
  ⟨mappers.entries.insert field mapper⟩

/-- Tables registered one by one under their fields. -/
def ofTables (tables : List (String × List (String × String))) : ValueMappers :=
  tables.foldl (fun mappers t => mappers.register t.1 (ValueTable.ofList t.2).mapper) empty

/-- The mapper of a field. -/
def get? (mappers : ValueMappers) (field : String) : Option ValueMapper :=
  mappers.entries.get? field

/-- The service's code for a value of a field. -/
def encode (mappers : ValueMappers) (field value : String) : String :=
  match mappers.get? field with
  | some mapper => mapper.encode value
  | none => value

/-- The value that a code of a field stands for. -/
def decode (mappers : ValueMappers) (field code : String) : String :=
  match mappers.get? field with
  | some mapper => mapper.decode code
  | none => code

/-- The fields with mappers, for showing. -/
def summary (mappers : ValueMappers) : String :=
  "ValueMappers \x7b fields: [" ++ ", ".intercalate (mappers.entries.keys.map Text.quote)
    ++ "] \x7d"

end ValueMappers

/-- How fields and values are called at the service. -/
structure Vocabulary where
  fields : FieldNames
  values : ValueMappers

end BriefSearch
