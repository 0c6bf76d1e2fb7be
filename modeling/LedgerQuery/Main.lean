import LedgerQuery.Command.Run

/-!
# The command line

Reads the files and variables that a run asks for and prints its outcome. No live node is reached
from here: a lookup in one fails as if the node did not answer.
-/

namespace LedgerQuery

/-- The variables that settings are read from. -/
def variableNames : List String := [
  "CHAINQL_CONFIG_PATH", "CHAINQL__RPC_URL", "CHAINQL__REQUEST_TIMEOUT_SECS",
  "CHAINQL__LOG_FILTER"]

def readVariables : IO (List (String × String)) := do
  variableNames.filterMapM fun name => do return (← IO.getEnv name).map fun value => (name, value)

/-- The files that can be read. -/
def readFiles (paths : List String) : IO (List (String × String)) := do
  paths.filterMapM fun (path : String) => do
    try
      let text ← IO.FS.readFile path
      return some (path, text)
    catch _ => return none

end LedgerQuery

open LedgerQuery in
def main (arguments : List String) : IO UInt32 := do
  let environment ← readVariables
  let files ← readFiles (Command.paths environment arguments)
  match Command.run ⟨files, environment, []⟩ arguments with
  | .printed lines =>
    for line in lines do IO.println line
    return 0
  | .failed message =>
    IO.eprintln ("Error: " ++ message)
    return 1
  | .misused =>
    for line in Command.helpText do IO.eprintln line
    return 2
