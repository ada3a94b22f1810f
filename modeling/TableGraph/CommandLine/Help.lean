import TableGraph.CommandLine.Arguments

/-!
# Help

The help on a command lists its parameters in two columns.  A description says
which environment variable is read, with its current value, and what the standard
value is.
-/

namespace TableGraph.CommandLine

/-- The name of the program. -/
def programName : String := "sqlgraph"

/-- The version of the program. -/
def programVersion : String := "0.3.0"

/-- What the version option prints. -/
def versionText : String := programName ++ " " ++ programVersion ++ "\n"

def programDescription : String :=
  "Serves a GraphQL API generated from the structure of a SQLite database"

/-- Lines of two columns, the second one aligned. -/
def columnLines (rows : List (String × String)) : String :=
  let width := rows.foldl (fun width row => max width row.1.length) 0
  String.join (rows.map fun (first, second) =>
    "  " ++ first.pushn ' ' (width - first.length) ++ "  " ++ second ++ "\n")

/-- A section with a heading. -/
def helpSection (heading : String) (rows : List (String × String)) : String :=
  heading ++ ":\n" ++ columnLines rows

namespace Parameter

/-- How a parameter is written. -/
def label (parameter : Parameter) : String :=
  let short := (parameter.short.map fun letter => String.ofList ['-', letter, ',', ' ']).getD "    "
  let value := "<" ++ parameter.valueName ++ ">"
  match parameter.kind with
  | .positional => value
  | .option => short ++ "--" ++ parameter.name ++ " " ++ value
  | .flag => short ++ "--" ++ parameter.name

/-- A parameter in the help on its command. -/
def helpRow (environment : String → Option String) (parameter : Parameter) : String × String :=
  let current := (environment parameter.source).getD ""
  let standard := (parameter.standard.map fun value => " [default: " ++ value ++ "]").getD ""
  (parameter.label,
    parameter.description ++ " [env: " ++ parameter.source ++ "=" ++ current ++ "]" ++ standard)

end Parameter

/-- The option that asks for help. -/
def helpOption : String × String := ("-h, --help", "Print help")

/-- The option that asks for the version. -/
def versionOption : String × String := ("-V, --version", "Print version")

/-- The command that prints help. -/
def helpCommand : String × String :=
  ("help", "Print this message or the help of the given subcommand(s)")

/-- The parts of a help text with empty lines between them. -/
def helpParts (description usage : String) (sections : List String) : String :=
  "\n".intercalate ((description ++ "\n") :: ("Usage: " ++ programName ++ usage ++ "\n") :: sections)

/-- The help on a topic. -/
def HelpTopic.text (environment : String → Option String) : HelpTopic → String
  | .program =>
    let commands := Command.all.map fun subject => (subject.name, subject.description)
    helpParts programDescription " <COMMAND>"
      [helpSection "Commands" (commands ++ [helpCommand]),
        helpSection "Options" [helpOption, versionOption]]
  | .command subject =>
    let options := subject.options.map fun option => option.helpRow environment
    helpParts subject.description (" " ++ subject.name ++ " [OPTIONS] " ++ subject.path.label)
      [helpSection "Arguments" [subject.path.helpRow environment],
        helpSection "Options" (options ++ [helpOption])]
  | .help =>
    helpParts helpCommand.2 " help [COMMAND]..."
      [helpSection "Arguments" [("[COMMAND]...", "Print help for the subcommand(s)")]]

end TableGraph.CommandLine
