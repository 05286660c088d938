import FileDepot.Server

/-!
# The command

The command reads the settings from the environment, makes a server ready that has neither a disk nor a
network, and tells what it serves or why it cannot be made ready.
-/

namespace FileDepot.Command

/-- The variables that are set. -/
def readVariables : IO (List (String × String)) :=
  Settings.variableNames.filterMapM fun name => do
    pure ((← IO.getEnv name).map fun value => (name, value))

/-- The notes that a server makes while it is made ready, and why it cannot be, if so. -/
def report (env : Settings.Environment) (here : Location) : List String × Bool :=
  let sources : Sources := ⟨.empty, here, fun _ => ⟨0⟩, ""⟩
  match Settings.read env sources.disk here with
  | .error f => ([f.message], false)
  | .ok settings =>
    match (Server.start settings sources none).exec (.fresh (.empty sources.clock)) with
    | (.ok _, w) => (w.notes.reverse.map Note.text, true)
    | (.error f, w) => (w.notes.reverse.map Note.text ++ [f.message], false)

end FileDepot.Command

open FileDepot FileDepot.Command in
/-- Report on the server that the environment sets up. -/
def main : IO UInt32 := do
  let values ← readVariables
  let here := Location.names ((← IO.getEnv "PWD").getD "/")
  let (lines, ready) := report (values.lookup ·) here
  for line in lines do
    IO.eprintln line
  pure (if ready then 0 else 1)
