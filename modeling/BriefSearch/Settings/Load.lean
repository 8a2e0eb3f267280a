import BriefSearch.Settings.EnvironmentFile
import BriefSearch.Settings.Text

/-!
# Settings from the surroundings

* **`Surroundings`** — the variables and the files that a command finds.
* **`Settings.ofFile`** — the settings in a file.
* **`Settings.load`** — the settings that a search uses: those of a file, in which variables have
  replaced entries, checked for what a search needs.
-/

namespace BriefSearch

/-- The variables and the files that a command finds. -/
structure Surroundings where
  /-- The variables of the environment. -/
  environment : Variables
  /-- The text of a file by its path. -/
  file? : String → Option String

/-- The name of the file that adds variables. -/
def environmentFile : String :=
  ".env"

/-- The variables, with those of the file for variables if there is one. -/
def Surroundings.allVariables (surroundings : Surroundings) : Variables :=
  match surroundings.file? environmentFile with
  | some text => EnvironmentFile.added surroundings.environment text
  | none => surroundings.environment

namespace Settings

/-- The settings in a file. -/
def ofFile (surroundings : Surroundings) (path : String) : Except SettingsFault Settings :=
  match surroundings.file? path with
  | some text => parse text
  | none => .error (.unreadable path)

/-- The settings in a file, or empty ones without a file. -/
def ofFile? (surroundings : Surroundings) : Option String → Except SettingsFault Settings
  | some path => ofFile surroundings path
  | none => .ok empty

/-- The settings that a search uses. -/
def load (surroundings : Surroundings) (path : Option String) : Except SettingsFault Settings :=
  match ofFile? surroundings path with
  | .error fault => .error fault
  | .ok settings =>
    let settings := settings.overridden surroundings.allVariables.get?
    settings.validate.map fun _ => settings

end Settings

end BriefSearch
