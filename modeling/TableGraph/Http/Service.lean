import TableGraph.Http.Body
import TableGraph.Http.MediaType
import TableGraph.Request.Response
import TableGraph.Schema.Cache

/-!
# The web service

Requests are posted to one path, and another one tells whether the database can
be read.  Every request is executed against the current schema with a log of its
own.
-/

namespace TableGraph

/-- A request for a path of the service. -/
structure HttpRequest where
  method : String
  /-- The path with the query behind it. -/
  target : String
  contentType : Option String
  body : String
  deriving DecidableEq, Repr

/-- How the service answers. -/
inductive HttpStatus where
  | ok
  | badRequest
  | notFound
  | methodNotAllowed
  | unsupportedMediaType
  | unprocessableContent
  | serviceUnavailable
  deriving DecidableEq, Repr

/-- The number of a status. -/
def HttpStatus.number : HttpStatus → Nat
  | .ok => 200
  | .badRequest => 400
  | .notFound => 404
  | .methodNotAllowed => 405
  | .unsupportedMediaType => 415
  | .unprocessableContent => 422
  | .serviceUnavailable => 503

/-- An answer of the service. -/
structure HttpResponse where
  status : HttpStatus
  body : Option Request.Response

namespace HttpResponse

/-- An answer that is a status alone. -/
def bare (status : HttpStatus) : HttpResponse := ⟨status, none⟩

end HttpResponse

/-- What the paths of the service lead to. -/
inductive Endpoint where
  | graphql
  | health
  deriving DecidableEq, Repr

namespace Endpoint

def all : List Endpoint := [.graphql, .health]

def path : Endpoint → String
  | .graphql => "/graphql"
  | .health => "/health"

/-- The methods an endpoint answers. -/
def methods : Endpoint → List String
  | .graphql => ["POST"]
  | .health => ["GET", "HEAD"]

/-- The endpoint of a target, whose query is not looked at. -/
def ofTarget? (target : String) : Option Endpoint :=
  let path := String.ofList (target.toList.takeWhile (· != '?'))
  all.find? fun endpoint => endpoint.path == path

end Endpoint

/-- A service over a datastore. -/
structure Service (State Selection : Type) where
  cache : SchemaCache State Selection
  /-- Whether the executed statements are exposed. -/
  debug : Bool

namespace Service

variable {State Selection : Type}

/-- Execute a request against a schema with a log of its own. -/
def executeWith (service : Service State Selection) (schema : Schema) (message : Request.Message) :
    StateM (CacheState State) Request.Response :=
  fun state =>
    let start : Session State := ⟨state.store, ⟨some QueryLog.empty, none⟩⟩
    let (outcome, session) := (Request.execute schema service.cache.datastore message).run start
    let statements := if service.debug then session.logs.request.map QueryLog.entries else none
    (.ofOutcome outcome statements, { state with store := session.store })

/-- Execute a request against the current schema. -/
def execute (service : Service State Selection) (message : Request.Message) :
    StateM (CacheState State) Request.Response := do
  match ← service.cache.getSchema with
  | .ok schema => service.executeWith schema message
  | .error error => return .ofError error

/-- Answer a posted request. -/
def answerRequest (service : Service State Selection) (request : HttpRequest) :
    StateM (CacheState State) HttpResponse := do
  if !((request.contentType.bind MediaType.parse?).any MediaType.isJson) then
    return .bare .unsupportedMediaType
  match Request.Message.ofBody request.body with
  | .ok message => return ⟨.ok, some (← service.execute message)⟩
  | .error .malformed => return .bare .badRequest
  | .error .unexpected => return .bare .unprocessableContent

/-- Answer whether the structure of the database can be read. -/
def answerHealth (service : Service State Selection) : StateM (CacheState State) HttpResponse := do
  match ← SchemaCache.call service.cache.datastore.readStructure with
  | .ok _ => return .bare .ok
  | .error _ => return .bare .serviceUnavailable

/-- Answer a request. -/
def respond (service : Service State Selection) (request : HttpRequest) :
    StateM (CacheState State) HttpResponse :=
  match Endpoint.ofTarget? request.target with
  | none => return .bare .notFound
  | some endpoint =>
    if endpoint.methods.contains request.method then
      match endpoint with
      | .graphql => service.answerRequest request
      | .health => service.answerHealth
    else return .bare .methodNotAllowed

end Service

end TableGraph
