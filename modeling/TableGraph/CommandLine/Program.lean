import TableGraph.CommandLine.Help
import TableGraph.CommandLine.LogFilter
import TableGraph.Database.Basic
import TableGraph.Http.Service
import TableGraph.Schema.Sdl
import TableGraph.Toml.Document

/-!
# The program

A run reads its arguments, then the configuration, then opens the database and
generates the schema.  Each step is reached only when those before it succeeded,
so the first failure is the one that is reported.
-/

namespace TableGraph.CommandLine

/-- What is found at the path of a database. -/
inductive DatabaseFile where
  /-- No file that can be opened. -/
  | closed (failure : StoreFailure)
  /-- A file that holds no database. -/
  | unreadable (failure : StoreFailure)
  | opened (database : Database)

/-- What a run sees of the outside: environment variables and files. -/
structure Surroundings (Effect : Type → Type) where
  environment : String → Option String
  /-- The text of a file, or why it cannot be read. -/
  readText : String → Effect (Except String String)
  /-- The database at a path; a missing file becomes an empty one. -/
  openDatabase : String → Effect DatabaseFile

/-! ## Failures -/

/-- Why a run fails. -/
inductive RunFailure where
  | logFilter (filter : String) (fault : LogFilterFault)
  | unreadableConfiguration (path reason : String)
  | invalidConfiguration (path : String)
  | configuration (error : RequestError)
  | closedDatabase (path : String) (failure : StoreFailure)
  | schema (error : RequestError)
  /-- The schema of a server could not be generated. -/
  | startup (error : RequestError)
  deriving DecidableEq, Repr

/-- The report of a failure: what was being done, and the cause behind it. -/
def RunFailure.message : RunFailure → String
  | .logFilter filter fault => s!"Invalid log filter directives '{filter}': " ++ fault.message
  | .unreadableConfiguration path reason =>
    s!"Failed to read the configuration file {path}: {reason}"
  | .invalidConfiguration path => s!"Invalid configuration file {path}: TOML parse error"
  | .configuration error => error.message
  | .closedDatabase path failure => s!"Failed to open the database {path}: " ++ failure.message
  | .schema error => error.message
  | .startup error => "Failed to generate the GraphQL schema: " ++ error.message

/-! ## Outcomes -/

/-- How a run ends. -/
inductive Outcome where
  | printed (text : String)
  | failed (failure : RunFailure)
  | misused (fault : UsageFault)
  /-- A server is ready to listen. -/
  | serving (address : String) (service : Service Database TableSelection)
      (state : CacheState Database)

namespace Outcome

/-- The status that the program exits with. -/
def exitCode : Outcome → Nat
  | .failed _ => 1
  | .misused _ => 2
  | _ => 0

/-- What is written to the standard output. -/
def output : Outcome → String
  | .printed text => text
  | _ => ""

/-- What is written to the standard error stream. -/
def report : Outcome → String
  | .failed failure => failure.message ++ "\n"
  | .misused fault => "error: " ++ fault.message ++ "\n"
  | _ => ""

end Outcome

/-! ## Commands -/

/-- A computation of a run that may fail. -/
abbrev Running (Effect : Type → Type) := ExceptT RunFailure Effect

/-- A given value of a parameter. -/
def valueOf (values : Values) (parameter : Parameter) : String :=
  (values.lookup parameter.name).getD ""

/-- Whether a flag is set. -/
def isSet (values : Values) (flag : Parameter) : Bool :=
  valueOf values flag == Parameter.flagSet

/-- The configuration of a text; its strip pattern must be well-formed. -/
def configurationOf (path text : String) : Except RunFailure Configuration :=
  match (Toml.parse? text).bind Configuration.ofDocument? with
  | none => .error (.invalidConfiguration path)
  | some configuration =>
    match configuration.readStripPattern with
    | .ok _ => .ok configuration
    | .error error => .error (.configuration error)

variable {Effect : Type → Type} [Monad Effect]

/-- The configuration of a run, standard when no file is given. -/
def loadConfiguration (surroundings : Surroundings Effect) (values : Values) :
    Running Effect Configuration := do
  match values.lookup Parameter.configuration.name with
  | none => return .standard
  | some path =>
    match ← surroundings.readText path with
    | .ok text => configurationOf path text
    | .error reason => throw (.unreadableConfiguration path reason)

/-- The database of a run, or why it cannot be read although it was opened. -/
def openDatabase (surroundings : Surroundings Effect) (values : Values) :
    Running Effect (Except RequestError Database) := do
  let path := valueOf values (Parameter.path "")
  match ← surroundings.openDatabase path with
  | .closed failure => throw (.closedDatabase path failure)
  | .unreadable failure => return .error (.database failure)
  | .opened database => return .ok database

/-- Print the schema of a database. -/
def runSchema (surroundings : Surroundings Effect) (values : Values) : Running Effect Outcome := do
  let configuration ← loadConfiguration surroundings values
  let generator := Generator.standard configuration false
  let opened ← openDatabase surroundings values
  match opened.bind fun database => (generator.generate Database.datastore database).1 with
  | .ok schema => return .printed (schema.render ++ "\n")
  | .error error => throw (.schema error)

/-- Prepare a server, whose schema is generated before it listens. -/
def runStart (surroundings : Surroundings Effect) (values : Values) : Running Effect Outcome := do
  let filter := valueOf values .log
  let _ ← ((readLogFilter filter).mapError fun fault => RunFailure.logFilter filter fault)
  let configuration ← loadConfiguration surroundings values
  let generator := Generator.standard configuration (isSet values .firstParty)
  let cache : SchemaCache Database TableSelection := ⟨.fingerprint, generator, Database.datastore⟩
  let opened ← openDatabase surroundings values
  let outcome := opened.bind fun database =>
    let (schema, state) := cache.getSchema.run ⟨database, none⟩
    schema.map fun _ => state
  match outcome with
  | .ok state => return .serving (valueOf values .address) ⟨cache, isSet values .debug⟩ state
  | .error error => throw (.startup error)

/-- Run a command. -/
def Command.run (surroundings : Surroundings Effect) (values : Values) :
    Command → Running Effect Outcome
  | .start => runStart surroundings values
  | .schema => runSchema surroundings values

/-- Run the program with its arguments. -/
def run (surroundings : Surroundings Effect) (arguments : List String) : Effect Outcome := do
  match readInvocation surroundings.environment arguments with
  | .error .version => return .printed versionText
  | .error (.help topic) => return .printed (topic.text surroundings.environment)
  | .error (.fault fault) => return .misused fault
  | .ok (command, values) =>
    match ← (command.run surroundings values).run with
    | .ok outcome => return outcome
    | .error failure => return .failed failure

end TableGraph.CommandLine
