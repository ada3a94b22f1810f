import TableGraph.CommandLine.Parameter

/-!
# Reading arguments

Arguments are read from left to right.  The first one that asks for help or for
the version, or that is at fault, decides; everything behind it is ignored.
-/

namespace TableGraph.CommandLine

/-- The values of parameters by name. -/
abbrev Values := List (String × String)

/-- What help is asked about. -/
inductive HelpTopic where
  | program
  | command (command : Command)
  | help
  deriving DecidableEq, Repr

/-- Why arguments are refused. -/
inductive UsageFault where
  | missingCommand
  | unknownCommand (name : String)
  | unexpectedArgument (argument : String)
  | missingValue (name : String)
  | unexpectedValue (name : String)
  | invalidValue (name value : String)
  | repeated (name : String)
  | missingParameter (name : String)
  deriving DecidableEq, Repr

def UsageFault.message : UsageFault → String
  | .missingCommand => "a command is required"
  | .unknownCommand name => s!"unrecognized subcommand '{name}'"
  | .unexpectedArgument argument => s!"unexpected argument '{argument}' found"
  | .missingValue name => s!"a value is required for '{name}' but none was supplied"
  | .unexpectedValue name => s!"unexpected value for '{name}' found"
  | .invalidValue name value => s!"invalid value '{value}' for '{name}'"
  | .repeated name => s!"the argument '{name}' cannot be used multiple times"
  | .missingParameter name => s!"the argument '{name}' is required"

/-- Why the reading of arguments ends early. -/
inductive Stop where
  | help (topic : HelpTopic)
  | version
  | fault (fault : UsageFault)
  deriving DecidableEq, Repr

/-! ## Values -/

/-- Set a parameter that is not set yet. -/
def setValue (values : Values) (parameter : Parameter) (value : String) :
    Except UsageFault Values :=
  if (values.lookup parameter.name).isSome then .error (.repeated parameter.name)
  else if parameter.accepts value then .ok (values ++ [(parameter.name, value)])
  else .error (.invalidValue parameter.name value)

/-- Whether an argument is read as the name of an option. -/
def isNamed (argument : String) : Bool :=
  match argument.toList with
  | '-' :: _ :: _ => true
  | _ => false

/-! ## Arguments of a command -/

/-- What an argument says. -/
inductive ArgumentMeaning where
  | positional
  | help
  /-- Everything behind is positional. -/
  | separator
  | flag (parameter : Parameter)
  /-- An option with the value attached to it. -/
  | option (parameter : Parameter) (attached : Option String)

/-- The meaning of a named option with the value attached to it. -/
def meaningOf (parameter : Option Parameter) (argument : String) (attached : Option String) :
    Except UsageFault ArgumentMeaning :=
  match parameter with
  | none => .error (.unexpectedArgument argument)
  | some parameter =>
    match parameter.kind, attached with
    | .flag, some _ => .error (.unexpectedValue parameter.name)
    | .flag, none => .ok (.flag parameter)
    | _, attached => .ok (.option parameter attached)

/-- The value behind a short option, with or without an equals sign. -/
def attachedToShort : List Char → Option String
  | [] => none
  | '=' :: value => some (String.ofList value)
  | value => some (String.ofList value)

/-- The value behind the equals sign of a long option. -/
def attachedToLong (text : List Char) : Option String :=
  match text.dropWhile (· != '=') with
  | _ :: value => some (String.ofList value)
  | [] => none

/-- The meaning of an argument of a command. -/
def Command.meaning (command : Command) (argument : String) :
    Except UsageFault ArgumentMeaning :=
  match argument.toList with
  | ['-', '-'] => .ok .separator
  | '-' :: '-' :: long =>
    let name := String.ofList (long.takeWhile (· != '='))
    let attached := attachedToLong long
    if name == "help" then
      if attached.isSome then .error (.unexpectedValue name) else .ok .help
    else
      meaningOf (command.options.find? fun parameter => parameter.name == name) argument attached
  | '-' :: short :: rest =>
    if short = 'h' then .ok .help
    else
      let parameter := command.options.find? fun parameter => parameter.short == some short
      meaningOf parameter argument (attachedToShort rest)
  | _ => .ok .positional

/-- Read arguments that are all positional. -/
def Command.readPositional (command : Command) :
    Values → List String → Except UsageFault Values
  | values, [] => .ok values
  | values, argument :: rest =>
    if (values.lookup command.path.name).isSome then .error (.unexpectedArgument argument)
    else (setValue values command.path argument).bind fun values =>
      command.readPositional values rest

/-- Read the arguments of a command. -/
def Command.readArguments (command : Command) : Values → List String → Except Stop Values
  | values, [] => .ok values
  | values, argument :: rest => do
    match ← (command.meaning argument).mapError Stop.fault with
    | .help => .error (.help (.command command))
    | .separator => (command.readPositional values rest).mapError Stop.fault
    | .positional =>
      command.readArguments (← (command.readPositional values [argument]).mapError Stop.fault) rest
    | .flag parameter =>
      command.readArguments
        (← (setValue values parameter Parameter.flagSet).mapError Stop.fault) rest
    | .option parameter (some value) =>
      command.readArguments (← (setValue values parameter value).mapError Stop.fault) rest
    | .option parameter none =>
      match rest with
      | [] => .error (.fault (.missingValue parameter.name))
      | value :: later =>
        if isNamed value then .error (.fault (.missingValue parameter.name))
        else
          command.readArguments (← (setValue values parameter value).mapError Stop.fault) later
  termination_by _ arguments => arguments.length

/-- Set a parameter that no argument has set from the environment, else to its
standard value. -/
def completeValue (environment : String → Option String) (values : Values) (parameter : Parameter) :
    Except UsageFault Values :=
  if (values.lookup parameter.name).isSome then .ok values
  else
    match (environment parameter.source).or parameter.standard with
    | some value => setValue values parameter value
    | none => .ok values

/-- The values of all parameters of a command, whose path must be given. -/
def Command.complete (command : Command) (environment : String → Option String) (values : Values) :
    Except UsageFault Values := do
  let values ← command.parameters.foldlM (completeValue environment) values
  if (values.lookup command.path.name).isSome then return values
  else .error (.missingParameter command.path.name)

/-! ## Arguments of the program -/

/-- The topic of the arguments behind the help command. -/
def readTopic : List String → Except UsageFault HelpTopic
  | [] => .ok .program
  | name :: rest =>
    match Command.ofName? name, rest with
    | some command, [] => .ok (.command command)
    | some _, next :: _ => .error (.unknownCommand next)
    | none, [] => if name == "help" then .ok .help else .error (.unknownCommand name)
    | none, next :: _ => .error (.unknownCommand (if name == "help" then next else name))

/-- A command with the values of its parameters. -/
def readInvocation (environment : String → Option String) :
    List String → Except Stop (Command × Values)
  | [] => .error (.fault .missingCommand)
  | argument :: rest =>
    match argument.toList, Command.ofName? argument with
    | _, some command => do
      let values ← command.readArguments [] rest
      let values ← (command.complete environment values).mapError Stop.fault
      return (command, values)
    | '-' :: 'h' :: _, none => .error (.help .program)
    | '-' :: 'V' :: _, none => .error .version
    | _, none =>
      if argument == "--help" then .error (.help .program)
      else if argument == "--version" then .error .version
      else if argument == "help" then
        match readTopic rest with
        | .ok topic => .error (.help topic)
        | .error fault => .error (.fault fault)
      else if isNamed argument then .error (.fault (.unexpectedArgument argument))
      else .error (.fault (.unknownCommand argument))

end TableGraph.CommandLine
