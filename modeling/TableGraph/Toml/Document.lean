import TableGraph.Toml.Text

/-!
# TOML documents

A document is a sequence of lines that build up one table.  A header opens a
table, which may be opened once; a double header opens the next element of an
array of tables; keys with dots open tables that no header may open again.
-/

namespace TableGraph.Toml

/-- How a table came about. -/
inductive Origin where
  /-- As a parent in the header of another table. -/
  | parent
  /-- By a header of its own. -/
  | header
  /-- By a key with dots. -/
  | dotted
  deriving DecidableEq

/-- A table under construction, its entries in order. -/
inductive Node where
  | value (document : Json)
  | table (origin : Origin) (entries : List (String × Node))
  /-- An array of tables, the latest first. -/
  | tables (elements : List (List (String × Node)))

/-- The entries of a table. -/
abbrev Entries := List (String × Node)

mutual

/-- The document of a node. -/
def Node.toJson : Node → Json
  | .value document => document
  | .table _ entries => .object (entriesToJson entries)
  | .tables elements => .array (elementsToJson elements).reverse

def entriesToJson : List (String × Node) → List (String × Json)
  | [] => []
  | (key, node) :: rest => (key, node.toJson) :: entriesToJson rest

def elementsToJson : List (List (String × Node)) → List Json
  | [] => []
  | entries :: rest => .object (entriesToJson entries) :: elementsToJson rest

end

/-- Change the entries of the table at a path of parents.  The latest element
stands for an array of tables, and missing tables are made. -/
def within (origin : Origin) (change : Entries → Option Entries) :
    List String → Entries → Option Entries
  | [], entries => change entries
  | part :: rest, entries =>
    match entries.lookup part with
    | none =>
      (within origin change rest []).map fun inner => entries ++ [(part, .table origin inner)]
    | some (.table kept inner) =>
      if origin = .dotted && kept != .dotted then none
      else (within origin change rest inner).map fun inner =>
        insertPair part (.table kept inner) entries
    | some (.tables (latest :: earlier)) =>
      if origin = .dotted then none
      else (within origin change rest latest).map fun inner =>
        insertPair part (.tables (inner :: earlier)) entries
    | some _ => none

/-- Open a table by its header. -/
def openTable (name : String) (entries : Entries) : Option Entries :=
  match entries.lookup name with
  | none => some (entries ++ [(name, .table .header [])])
  | some (.table .parent inner) => some (insertPair name (.table .header inner) entries)
  | some _ => none

/-- Open the next element of an array of tables. -/
def openElement (name : String) (entries : Entries) : Option Entries :=
  match entries.lookup name with
  | none => some (entries ++ [(name, .tables [[]])])
  | some (.tables elements) => some (insertPair name (.tables ([] :: elements)) entries)
  | some _ => none

/-- Put a value under a key that is not taken. -/
def assign (name : String) (value : Json) (entries : Entries) : Option Entries :=
  match entries.lookup name with
  | none => some (entries ++ [(name, .value value)])
  | some _ => none

/-- The document so far and the path of the open table. -/
structure Reader where
  entries : Entries
  path : List String

/-- Apply a header. -/
def Reader.header (reader : Reader) (parts : List String)
    (opening : String → Entries → Option Entries) : Option Reader :=
  match parts.getLast? with
  | none => none
  | some name =>
    (within .parent (opening name) parts.dropLast reader.entries).map fun entries =>
      ⟨entries, parts⟩

/-- Apply a line that gives a key its value. -/
def Reader.assignment (reader : Reader) (parts : List String) (value : Json) : Option Reader :=
  match parts.getLast? with
  | none => none
  | some name =>
    (within .parent (within .dotted (assign name value) parts.dropLast) reader.path
      reader.entries).map fun entries => { reader with entries := entries }

/-- Read one line that is not blank. -/
def Reader.line (reader : Reader) (text : List Char) : Option (Reader × List Char) :=
  match text with
  | '[' :: '[' :: rest =>
    (key? rest.length rest).bind fun (parts, rest) =>
      match rest with
      | ']' :: ']' :: rest => (reader.header parts openElement).map fun next => (next, rest)
      | _ => none
  | '[' :: rest =>
    (key? rest.length rest).bind fun (parts, rest) =>
      match rest with
      | ']' :: rest => (reader.header parts openTable).map fun next => (next, rest)
      | _ => none
  | _ =>
    (key? text.length text).bind fun (parts, rest) =>
      match rest with
      | '=' :: rest =>
        (value? (rest.length + 1) (skipBlanks rest)).bind fun (value, rest) =>
          (reader.assignment parts value).map fun next => (next, rest)
      | _ => none

/-- Read the lines of a text; every line takes at least one character. -/
def Reader.lines : Nat → Reader → List Char → Option Reader
  | 0, _, _ => none
  | fuel + 1, reader, text =>
    match skipLines text.length text with
    | [] => some reader
    | rest =>
      (reader.line rest).bind fun (next, rest) =>
        (finishLine? rest).bind fun rest => Reader.lines fuel next rest

/-- The text behind a byte order mark. -/
def skipByteOrderMark : List Char → List Char
  | '\uFEFF' :: rest => rest
  | text => text

/-- The document a text stands for, absent when the text is malformed. -/
def parse? (text : String) : Option Json :=
  let characters := skipByteOrderMark text.toList
  (Reader.lines (characters.length + 1) ⟨[], []⟩ characters).map fun reader =>
    .object (entriesToJson reader.entries)

end TableGraph.Toml
