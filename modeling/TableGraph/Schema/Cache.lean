import TableGraph.Schema.Generator

/-!
# Cached schemas

A cache keeps the schema it generated last.  A request for the schema is a
sequence of atomic steps, so that several requests can be interleaved; `get`
runs one request without interruption.
-/

namespace TableGraph

/-- When a cached schema is used again. -/
inductive CachePolicy where
  /-- Never. -/
  | pessimistic
  /-- Until the cache is emptied. -/
  | optimistic
  /-- As long as the structure has the version it had before the schema was generated. -/
  | fingerprint
  deriving DecidableEq, Repr

/-- A cached schema, with the version of its structure when the policy compares it. -/
structure CacheEntry where
  schema : Schema
  version : Option Int64

/-- The contents of a cache beside the state of the datastore. -/
structure CacheState (State : Type) where
  store : State
  entry : Option CacheEntry

/-- A cache over a datastore. -/
structure SchemaCache (State Selection : Type) where
  policy : CachePolicy
  generator : Generator
  datastore : Datastore State Selection

/-- How far a request for the schema has come. -/
inductive CacheRequest where
  /-- The cached schema is looked at next. -/
  | checking
  | readingVersion
  | readingStructure (version : Option Int64)
  | writing (entry : CacheEntry)
  | finished (outcome : Except RequestError Schema)

namespace SchemaCache

variable {State Selection : Type}

/-- A call of the datastore. -/
def call {Answer : Type} (action : StateM State Answer) : StateM (CacheState State) Answer :=
  fun state =>
    let (answer, store) := action state.store
    (answer, { state with store := store })

/-- Whether a cached schema is used again; a version that cannot be read is no reason to. -/
def isValid (cache : SchemaCache State Selection) (entry : CacheEntry) :
    StateM (CacheState State) Bool :=
  match cache.policy with
  | .pessimistic => return false
  | .optimistic => return true
  | .fingerprint => do
    match ← call cache.datastore.readVersion with
    | .ok version => return entry.version == some version
    | .error _ => return false

/-- Where a request goes on that generates the schema. -/
def generating (policy : CachePolicy) : CacheRequest :=
  match policy with
  | .fingerprint => .readingVersion
  | _ => .readingStructure none

/-- One atomic step of a request. -/
def step (cache : SchemaCache State Selection) :
    CacheRequest → StateM (CacheState State) CacheRequest
  | .checking => do
    match (← get).entry with
    | none => return generating cache.policy
    | some entry =>
      if ← cache.isValid entry then return .finished (.ok entry.schema)
      else return generating cache.policy
  | .readingVersion => do
    match ← call cache.datastore.readVersion with
    | .ok version => return .readingStructure (some version)
    | .error failure => return .finished (.error (.database failure))
  | .readingStructure version => do
    match ← call (cache.generator.generate cache.datastore) with
    | .ok schema => return .writing ⟨schema, version⟩
    | .error failure => return .finished (.error failure)
  | .writing entry => do
    modify fun state => { state with entry := some entry }
    return .finished (.ok entry.schema)
  | .finished outcome => return .finished outcome

/-- How many steps are left at most. -/
def remaining : CacheRequest → Nat
  | .checking => 4
  | .readingVersion => 3
  | .readingStructure _ => 2
  | .writing _ => 1
  | .finished _ => 0

/-- Run a request for a number of steps. -/
def run (cache : SchemaCache State Selection) :
    Nat → CacheRequest → StateM (CacheState State) CacheRequest
  | 0, request => return request
  | steps + 1, request => do cache.run steps (← cache.step request)

/-- The schema, from the cache or generated. -/
def getSchema (cache : SchemaCache State Selection) :
    StateM (CacheState State) (Except RequestError Schema) := do
  match ← cache.run (remaining .checking) .checking with
  | .finished outcome => return outcome
  | _ => return .error (.internal "the schema request did not finish")

/-- Empty the cache. -/
def invalidate : StateM (CacheState State) Unit :=
  modify fun state => { state with entry := none }

end SchemaCache

end TableGraph
