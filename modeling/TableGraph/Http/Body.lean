import TableGraph.Json.Parser
import TableGraph.Request.Execution
import TableGraph.Structure.Document

/-!
# Bodies of requests

A body is a JSON record of the query, the name of the operation, the variables
and the extensions, which mean nothing here.  A body that is no JSON is told
apart from JSON that is no such record.
-/

namespace TableGraph

open Document

/-- Why a body is refused. -/
inductive BodyFault where
  /-- The body is no JSON document. -/
  | malformed
  /-- The document is no request. -/
  | unexpected
  deriving DecidableEq, Repr

namespace Request.Message

/-- The names of the fields of a request in order. -/
def fieldNames : List String := ["query", "operationName", "variables", "extensions"]

/-- The request of a record. -/
def ofFields? (fields : List (String × Json)) : Option Message := do
  let query ← defaulted? fields "query" Json.text? ""
  let operation ← defaulted? fields "operationName" textOrNull? none
  let given ← defaulted? fields "variables"
    (fun value => if value.isNull then some [] else map? some value) []
  let _ ← defaulted? fields "extensions" (map? some) []
  return ⟨query, operation, InputValue.ofFields given⟩

/-- The request of a document; an array of too many elements is seen as malformed
where its end should be. -/
def ofDocument (document : Json) : Except BodyFault Message :=
  let (record, overlong) : Json × Bool :=
    match document with
    | .array elements =>
      (.array (elements.take fieldNames.length), decide (fieldNames.length < elements.length))
    | document => (document, false)
  match (strictRecord? fieldNames record).bind ofFields? with
  | some message => if overlong then .error .malformed else .ok message
  | none => .error .unexpected

/-- The request of a body. -/
def ofBody (body : String) : Except BodyFault Message :=
  match Json.parse? body with
  | some document => ofDocument document
  | none => .error .malformed

end Request.Message

end TableGraph
