import TableGraph.Request.Execution

/-!
# Responses

A response holds the data of a request, or null with the error that ended it.
The executed statements are part of it where they are exposed.
-/

namespace TableGraph.Request

/-- An error of a response. -/
structure ResponseError where
  message : String
  /-- Where the field that failed stands in the request. -/
  position : Option Position
  /-- The stable name of the kind of error; a fault of the request has none. -/
  code : Option String
  deriving DecidableEq, Repr

namespace ResponseError

/-- An error that arose before any field was resolved. -/
def ofError (error : RequestError) : ResponseError := ⟨error.message, none, some error.code⟩

/-- The error of a request that ended without data. -/
def ofFailure : RequestFailure → ResponseError
  | .engine => ⟨"The request is malformed or invalid", none, none⟩
  | .field error position => ⟨error.message, some position, some error.code⟩

/-- A place in a request as an object. -/
def positionDocument (position : Position) : Json :=
  .object [("line", .integer position.line), ("column", .integer position.column)]

/-- An error as an object: its message, its place and its code. -/
def toDocument (error : ResponseError) : Json :=
  let locations := error.position.map fun position => Json.array [positionDocument position]
  let extensions := error.code.map fun code => Json.object [("code", .text code)]
  .object ([("message", .text error.message)] ++
    locations.toList.map (fun shown => ("locations", shown)) ++
    extensions.toList.map fun shown => ("extensions", shown))

end ResponseError

/-- The answer to a request. -/
structure Response where
  data : Json
  /-- The log entries of the executed statements, where they are exposed. -/
  statements : Option (List String)
  errors : List ResponseError

namespace Response

/-- The response to a request that failed before it was executed. -/
def ofError (error : RequestError) : Response := ⟨.null, none, [.ofError error]⟩

/-- The response to an executed request. -/
def ofOutcome (outcome : Outcome) (statements : Option (List String)) : Response :=
  match outcome with
  | .ok data => ⟨data, statements, []⟩
  | .error failure => ⟨.null, statements, [.ofFailure failure]⟩

/-- The exposed statements as an object. -/
def statementsDocument (statements : List String) : Json :=
  .object [("debug", .object [("sql", .array (statements.map Json.text))])]

/-- A response as an object; empty parts other than the data are left out. -/
def toDocument (response : Response) : Json :=
  let extensions := response.statements.map statementsDocument
  let errors :=
    if response.errors.isEmpty then none
    else some (Json.array (response.errors.map ResponseError.toDocument))
  .object ([("data", response.data)] ++
    extensions.toList.map (fun shown => ("extensions", shown)) ++
    errors.toList.map fun shown => ("errors", shown))

/-- Whether every error says of what kind it is. -/
def isCoded (response : Response) : Bool := response.errors.all fun error => error.code.isSome

@[simp]
theorem isCoded_ofError (error : RequestError) : (ofError error).isCoded = true := rfl

/-- Only an error of the request itself does not say of what kind it is. -/
theorem isCoded_ofOutcome_iff {outcome : Outcome} {statements : Option (List String)} :
    (ofOutcome outcome statements).isCoded = true ↔ outcome ≠ .error .engine := by
  cases outcome with
  | ok data => exact iff_of_true rfl fun same => by cases same
  | error failure =>
      cases failure with
      | engine => exact iff_of_false Bool.false_ne_true fun different => different rfl
      | field error position => exact iff_of_true rfl fun same => by cases same

end Response

end TableGraph.Request
