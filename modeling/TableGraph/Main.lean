import TableGraph.CommandLine.Program
import TableGraph.Database.Script

/-!
# The executable

Gives a run its environment and its files, and writes what it ends with.  A
database file holds the statements that make up the database.
-/

open TableGraph
open TableGraph.CommandLine

/-- Why a file could not be read, in the words of the operating system. -/
def reasonOf : IO.Error → String
  | .noFileOrDirectory .. => "No such file or directory (os error 2)"
  | .permissionDenied .. => "Permission denied (os error 13)"
  | error => toString error

/-- The text of a file. -/
def readTextFile (path : String) : IO (Except String String) := do
  try return .ok (← IO.FS.readFile path)
  catch error => return .error (reasonOf error)

/-- The database that statements make up. -/
def databaseOf (script : String) : DatabaseFile :=
  match Database.empty.execute script with
  | (.ok _, database) => .opened database
  | (.error failure, _) => .unreadable failure

/-- The database of a file, which is made when it is missing. -/
def readDatabaseFile (path : String) : IO DatabaseFile := do
  try return databaseOf (← IO.FS.readFile path)
  catch
    | .noFileOrDirectory .. =>
      try
        IO.FS.writeFile path ""
        return .opened Database.empty
      catch error => return .closed (.engine (reasonOf error))
    | error => return .closed (.engine (reasonOf error))

/-- The environment variables that parameters are read from. -/
def readEnvironment : IO (List (String × String)) :=
  (Command.all.flatMap Command.parameters).filterMapM fun parameter => do
    return (← IO.getEnv parameter.source).map fun value => (parameter.source, value)

/-- The surroundings of the process. -/
def processSurroundings : IO (Surroundings IO) := do
  let environment ← readEnvironment
  return ⟨fun name => environment.lookup name, readTextFile, readDatabaseFile⟩

def main (arguments : List String) : IO UInt32 := do
  let outcome ← run (← processSurroundings) arguments
  IO.print outcome.output
  IO.eprint outcome.report
  match outcome with
  | .serving address _ _ =>
    IO.eprintln ("Failed to listen on " ++ address ++ ": sockets are not supported")
    return 1
  | outcome => return UInt32.ofNat outcome.exitCode
