import BriefSearch.Command.Run

/-!
# The program

* **`main`** — reads arguments, variables and files, carries the command out and prints its output.

The program has no way to a server: a command that has to ask one reports that it cannot be reached.
-/

namespace BriefSearch.Program

/-- The text of a file, if it can be read. -/
def readFile? (path : String) : IO (Option String) := do
  try return some (← IO.FS.readFile path) catch _ => return none

/-- The variables that settings can come from. -/
def readVariables : IO Variables := do
  let names := [baseUrlVariable, institutionVariable, ipAddressVariable, scopesVariable]
  let found ← names.mapM fun name => do return (← IO.getEnv name).map (name, ·)
  return found.filterMap id

/-- The files at some paths. -/
def readFiles (paths : List String) : IO (List (String × String)) := do
  let found ← paths.mapM fun path => do return (← readFile? path).map (path, ·)
  return found.filterMap id

/-- Variables and files as an invocation needs them. -/
def surroundings (invocation : Invocation) : IO Surroundings := do
  let files ← readFiles (environmentFile :: invocation.config.toList)
  return ⟨← readVariables, fun path => (files.find? (·.1 = path)).map (·.2)⟩

/-- A fault as it is shown: what the command was about, and the cause. -/
def faultLines (fault : CommandFault) : String :=
  "\n\nCaused by:\n    ".intercalate (fault.context ++ [fault.cause.message])

/-- How the program is called. -/
def usage : String :=
  "Usage: primo [--config <PATH>] [--verbose] <compile|search|document> ..."

/-- Carries out an invocation. -/
def run (invocation : Invocation) : IO UInt32 := do
  let task := Task.of (← surroundings invocation) invocation
  match task.run fun service => service.transport fun _ => none with
  | .ok output =>
    IO.print output
    return 0
  | .error fault =>
    IO.eprintln ("Error: " ++ faultLines fault)
    return 1

end BriefSearch.Program

open BriefSearch in
/-- Carries out the command line. -/
def main (arguments : List String) : IO UInt32 := do
  match Invocation.parse arguments with
  | .ok invocation => Program.run invocation
  | .error .displayHelp =>
    IO.println Program.usage
    return 0
  | .error _ =>
    IO.eprintln Program.usage
    return 2
