import TableGraph.CommandLine.Address

/-!
# Commands and their parameters

A parameter is set by an argument, else by an environment variable, else by its
standard value.
-/

namespace TableGraph.CommandLine

/-- How a parameter is given. -/
inductive ParameterKind where
  /-- By its place. -/
  | positional
  /-- By a name with a value behind it. -/
  | option
  /-- By a name alone. -/
  | flag
  deriving DecidableEq, Repr

/-- A parameter of a command. -/
structure Parameter where
  kind : ParameterKind
  name : String
  short : Option Char
  /-- The environment variable that may hold its value. -/
  source : String
  standard : Option String
  description : String
  /-- Whether it may have a value. -/
  accepts : String → Bool

namespace Parameter

/-- The name of the value of a parameter. -/
def valueName (parameter : Parameter) : String := parameter.name.toUpper

/-- A path is any text but the empty one. -/
def isPath (text : String) : Bool := !text.isEmpty

/-- The value of a flag that is set. -/
def flagSet : String := "true"

/-- Whether a text says if a flag is set. -/
def isTruthValue (text : String) : Bool := text == flagSet || text == "false"

/-- The path of the database. -/
def path (description : String) : Parameter :=
  ⟨.positional, "path", none, "SQLGRAPH_PATH", none, description, isPath⟩

def configuration : Parameter :=
  ⟨.option, "config", some 'c', "SQLGRAPH_CONFIG", none,
    "Path of the TOML file configuring the generated schema", isPath⟩

def address : Parameter :=
  ⟨.option, "bind", some 'b', "SQLGRAPH_BIND", some "127.0.0.1:8000",
    "The hostname or IP address to listen for connections on", isSocketAddress⟩

def firstParty : Parameter :=
  ⟨.flag, "first-party", none, "SQLGRAPH_FIRST_PARTY", none,
    "Trust clients with raw column expressions and literal values", isTruthValue⟩

def debug : Parameter :=
  ⟨.flag, "debug", none, "SQLGRAPH_DEBUG", none,
    "Include the executed SQL statements in every response", isTruthValue⟩

def log : Parameter :=
  ⟨.option, "log", some 'l', "SQLGRAPH_LOG", some "info",
    "The logging level and filter directives", fun _ => true⟩

end Parameter

/-! ## Commands -/

/-- What the program can be told to do. -/
inductive Command where
  | start
  | schema
  deriving DecidableEq, Repr

namespace Command

def all : List Command := [.start, .schema]

def name : Command → String
  | .start => "start"
  | .schema => "schema"

def description : Command → String
  | .start => "Start the GraphQL server"
  | .schema => "Print the GraphQL schema generated from a database"

def ofName? (name : String) : Option Command := all.find? fun command => command.name == name

/-- The parameter given by its place. -/
def path : Command → Parameter
  | .start => .path "Path of the SQLite database file to serve"
  | .schema => .path "Path of the SQLite database file to introspect"

/-- The parameters given by name. -/
def options : Command → List Parameter
  | .start => [.address, .configuration, .firstParty, .debug, .log]
  | .schema => [.configuration]

/-- All parameters. -/
def parameters (command : Command) : List Parameter := command.path :: command.options

end Command

end TableGraph.CommandLine
