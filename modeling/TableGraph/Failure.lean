import TableGraph.Number.Layout

/-!
# Failures

A `StoreFailure` is what a datastore reports, a `RequestError` what a client of
the generated schema is told.  The wording of both is here.
-/

namespace TableGraph

/-- What a datastore reports instead of an answer. -/
inductive StoreFailure where
  /-- A failure of the datastore itself. -/
  | store (message : String)
  /-- A statement the database engine refused. -/
  | engine (message : String)
  | tableNotFound (name : String)
  | noPrimaryKey (name : String)
  /-- A placeholder for an identifier bound to something else. -/
  | invalidPlaceholder (position : Nat)
  | parameterCount (expected found : Nat)
  deriving DecidableEq, Repr

namespace StoreFailure

def message : StoreFailure → String
  | .store message => s!"There was a problem with the underlying datastore: {message}"
  | .engine message => s!"There was a problem with the SQLite datastore: {message}"
  | .tableNotFound name => s!"The table '{name}' does not exist"
  | .noPrimaryKey name => s!"The table '{name}' does not have a single column primary key"
  | .invalidPlaceholder position =>
    "The placeholder at position " ++ decimalText position ++ " expects an identifier"
  | .parameterCount expected found =>
    "Expected " ++ decimalText expected ++ " bound parameters, but found " ++ decimalText found

end StoreFailure

/-- What a client is told when a request fails. -/
inductive RequestError where
  /-- The datastore failed outside of a field. -/
  | database (failure : StoreFailure)
  | schema (reason : String)
  | compile (reason : String)
  | resolver (reason : String) (source : Option StoreFailure)
  | internal (reason : String)
  deriving DecidableEq, Repr

namespace RequestError

def message : RequestError → String
  | .database failure => "Database error: " ++ failure.message
  | .schema reason => s!"Error generating schema: {reason}"
  | .compile reason => reason
  | .resolver reason _ => reason
  | .internal reason => s!"Internal Error: {reason}"

/-- The stable name of the kind of error. -/
def code : RequestError → String
  | .database _ => "DATABASE"
  | .schema _ => "SCHEMA"
  | .compile _ => "COMPILE"
  | .resolver .. => "RESOLVER"
  | .internal _ => "INTERNAL"

/-! ## Causes -/

/-- A statement of a field failed. -/
def execution (failure : StoreFailure) : RequestError :=
  .resolver "There was an error while executing the query" (some failure)

def invalidArguments : RequestError := .compile "invalid arguments"

def unknownComparator (name : String) : RequestError :=
  .compile s!"'{name}' is not a valid comparator."

def literalRefused : RequestError :=
  .compile "Literal values are not allowed when not in first party mode."

def nestedTooDeep (limit : Nat) : RequestError :=
  .compile ("Conditions may not be nested deeper than " ++ decimalText limit ++ " levels.")

def nonFinite (text : String) : RequestError :=
  .resolver s!"non-finite float (not supported in json): {text}" none

/-- A stored type that names no table of the schema. -/
def unknownMorphType (stored table typeColumn : String) : RequestError :=
  .resolver s!"'{stored}' referenced by {table}.{typeColumn} is not a table of the schema" none

def missingSetting (name : String) : RequestError :=
  .internal s!"missing field setting: {name}"

/-- A resolver of a kind that starts from a row was given none. -/
def missingParent (kind : String) : RequestError :=
  .internal s!"{kind} field resolved without a parent row"

/-- A field that is neither a column nor bound to a resolver. -/
def unboundField (name type : String) : RequestError :=
  .internal s!"field {name} of type {type} has no resolver"

/-- A field of a row was asked of something that is no row. -/
def notARow : RequestError := .internal "failed to downcast"

def noTables : RequestError := .schema "no tables found in database"

def invalidTypes : RequestError := .schema "there was an error generating schema"

/-- A strip pattern that is malformed, with the report of its fault. -/
def invalidPattern (pattern report : String) : RequestError :=
  .schema s!"invalid belongs-to strip pattern '{pattern}': {report}"

end RequestError

end TableGraph
