import BriefSearch.Text.Basic
import BriefSearch.Vocabulary

/-!
# Settings

* **`Settings`** — where the search service is, on whose behalf it is asked, and how fields and
  values are called there.
* **`Settings.overridden`** — settings in which variables of the environment have replaced entries.
* **`Settings.validate`** — what a search needs at least.
* **`SettingsFault`** — what can be wrong with settings.
-/

namespace BriefSearch

/-- What can be wrong with settings: a file that cannot be read, a text that does not describe
settings, or an entry without which no search is possible. -/
inductive SettingsFault where
  | unreadable (path : String)
  | malformed
  | missingBaseUrl
  | missingInstitution
  deriving DecidableEq, Repr

/-- The variable that replaces the address of the service. -/
def baseUrlVariable : String :=
  "PRIMO_BASE_URL"

/-- The variable that replaces the institution. -/
def institutionVariable : String :=
  "PRIMO_INSTITUTION"

/-- The variable that replaces the network address. -/
def ipAddressVariable : String :=
  "PRIMO_IP_ADDRESS"

/-- The variable that replaces the scopes. -/
def scopesVariable : String :=
  "PRIMO_SCOPES"

/-- The text of a fault. -/
def SettingsFault.message : SettingsFault → String
  | .unreadable path => "cannot read " ++ path
  | .malformed => "not a description of settings"
  | .missingBaseUrl => "base_url is required (or set " ++ baseUrlVariable ++ ")"
  | .missingInstitution => "institution is required (or set " ++ institutionVariable ++ ")"

/-- Where the service is, on whose behalf it is asked, and how things are called there. -/
structure Settings where
  /-- Protocol, host and port of the service. -/
  baseUrl : String
  institution : String
  /-- The network address by which the service knows the institution. -/
  ipAddress : String
  /-- The locations a search is restricted to, between commas. -/
  scopes : Option String
  /-- Field names with the names of the service. -/
  fieldMapping : OrderedMap String String
  /-- For fields of the service, their codes with the values these stand for. -/
  valueMaps : OrderedMap String (OrderedMap String String)
  deriving DecidableEq, Repr

namespace Settings

/-- Settings in which nothing is said. -/
def empty : Settings :=
  ⟨"", "", "", none, .empty, .empty⟩

/-- Settings in which variables of the environment have replaced entries. Blank scopes restrict
nothing. -/
def overridden (settings : Settings) (valueOf : String → Option String) : Settings :=
  { settings with
    baseUrl := (valueOf baseUrlVariable).getD settings.baseUrl
    institution := (valueOf institutionVariable).getD settings.institution
    ipAddress := (valueOf ipAddressVariable).getD settings.ipAddress
    scopes :=
      match valueOf scopesVariable with
      | some value => if Text.isBlankText value then none else some value
      | none => settings.scopes }

/-- Checks that the address of the service and the institution are there. -/
def validate (settings : Settings) : Except SettingsFault Unit :=
  if Text.isBlankText settings.baseUrl then .error .missingBaseUrl
  else if Text.isBlankText settings.institution then .error .missingInstitution
  else .ok ()

/-- The names of the service for fields. -/
def fieldNames (settings : Settings) : FieldNames :=
  .ofList settings.fieldMapping.entries

/-- The mappers of the service's fields. -/
def valueMappers (settings : Settings) : ValueMappers :=
  .ofTables (settings.valueMaps.entries.map fun e => (e.1, e.2.entries))

/-- How fields and values are called at the service. -/
def vocabulary (settings : Settings) : Vocabulary :=
  ⟨settings.fieldNames, settings.valueMappers⟩

end Settings

end BriefSearch
