import Mathlib.Data.List.Induction
import TableGraph.Database.Basic
import TableGraph.Schema.Cache

/-!
# Runs of a shared cache

Any number of requests share a cache, whose datastore may come into another state
at any time.  A run is a list of events: a request is made, a request takes its
next atomic step, the cache is emptied, or the datastore changes.

The facts here hold of every run: the steps of one request leave the others alone,
what a request has come to is kept once it is finished, and a request that fails
never writes.
-/

namespace TableGraph

/-- What can happen to a shared cache. -/
inductive CacheEvent (State : Type) where
  /-- A request for the schema is made. -/
  | start
  /-- A request takes its next step. -/
  | advance (index : Nat)
  | invalidate
  /-- The datastore comes into another state. -/
  | change (store : State)

/-- A cache with the requests made so far, each as far as it has come. -/
structure SharedCache (State : Type) where
  state : CacheState State
  requests : List CacheRequest

def CacheRequest.isFinished : CacheRequest → Bool
  | .finished _ => true
  | _ => false

namespace SchemaCache

variable {State Selection : Type} (cache : SchemaCache State Selection)

/-- An event of a shared cache. -/
def next (shared : SharedCache State) : CacheEvent State → SharedCache State
  | .start => { shared with requests := shared.requests ++ [.checking] }
  | .advance index =>
    match shared.requests[index]? with
    | some request =>
      let (continued, state) := cache.step request shared.state
      ⟨state, shared.requests.set index continued⟩
    | none => shared
  | .invalidate => { shared with state := (SchemaCache.invalidate shared.state).2 }
  | .change store => { shared with state := { shared.state with store := store } }

/-- An empty cache that no request has been made of, after some events. -/
def after (store : State) (events : List (CacheEvent State)) : SharedCache State :=
  events.foldl cache.next ⟨⟨store, none⟩, []⟩

variable {cache}

theorem after_append (store : State) (events later : List (CacheEvent State)) :
    cache.after store (events ++ later) = later.foldl cache.next (cache.after store events) :=
  List.foldl_append

theorem after_snoc (store : State) (events : List (CacheEvent State)) (event : CacheEvent State) :
    cache.after store (events ++ [event]) = cache.next (cache.after store events) event :=
  after_append store events [event]

/-! ## Steps -/

theorem isValid_pessimistic (pessimistic : cache.policy = .pessimistic) (entry : CacheEntry)
    (state : CacheState State) : cache.isValid entry state = (false, state) := by
  rw [isValid, pessimistic]
  rfl

theorem isValid_optimistic (optimistic : cache.policy = .optimistic) (entry : CacheEntry)
    (state : CacheState State) : cache.isValid entry state = (true, state) := by
  rw [isValid, optimistic]
  rfl

theorem isValid_fingerprint (fingerprint : cache.policy = .fingerprint) (entry : CacheEntry)
    (state : CacheState State) :
    cache.isValid entry state =
      (match (cache.datastore.readVersion state.store).1 with
        | .ok version => entry.version == some version
        | .error _ => false,
        { state with store := (cache.datastore.readVersion state.store).2 }) := by
  rw [isValid, fingerprint]
  rcases read : cache.datastore.readVersion state.store with ⟨answer, store⟩
  simp only [bind, StateT.bind, call, read]
  cases answer <;> rfl

theorem isValid_keeps_entry (entry : CacheEntry) (state : CacheState State) :
    (cache.isValid entry state).2.entry = state.entry := by
  cases policy : cache.policy with
  | pessimistic => rw [isValid_pessimistic policy]
  | optimistic => rw [isValid_optimistic policy]
  | fingerprint => rw [isValid_fingerprint policy]

theorem step_checking_none {state : CacheState State} (empty : state.entry = none) :
    cache.step .checking state = (generating cache.policy, state) := by
  simp only [step, bind, StateT.bind, get, getThe, MonadStateOf.get, StateT.get, pure, empty]
  rfl

theorem step_checking_some {state : CacheState State} {entry : CacheEntry}
    (cached : state.entry = some entry) :
    cache.step .checking state =
      (if (cache.isValid entry state).1 then .finished (.ok entry.schema)
        else generating cache.policy, (cache.isValid entry state).2) := by
  rcases valid : cache.isValid entry state with ⟨answer, later⟩
  simp only [step, bind, StateT.bind, get, getThe, MonadStateOf.get, StateT.get, pure, cached,
    valid]
  cases answer <;> rfl

theorem step_readingVersion (state : CacheState State) :
    cache.step .readingVersion state =
      (match (cache.datastore.readVersion state.store).1 with
        | .ok version => .readingStructure (some version)
        | .error failure => .finished (.error (.database failure)),
        { state with store := (cache.datastore.readVersion state.store).2 }) := by
  rcases read : cache.datastore.readVersion state.store with ⟨answer, store⟩
  simp only [step, bind, StateT.bind, call, read]
  cases answer <;> rfl

theorem step_readingStructure (version : Option Int64) (state : CacheState State) :
    cache.step (.readingStructure version) state =
      (match (cache.generator.generate cache.datastore state.store).1 with
        | .ok schema => .writing ⟨schema, version⟩
        | .error failure => .finished (.error failure),
        { state with store := (cache.generator.generate cache.datastore state.store).2 }) := by
  rcases read : cache.generator.generate cache.datastore state.store with ⟨answer, store⟩
  simp only [step, bind, StateT.bind, call, read]
  cases answer <;> rfl

theorem step_writing (entry : CacheEntry) (state : CacheState State) :
    cache.step (.writing entry) state =
      (.finished (.ok entry.schema), { state with entry := some entry }) := rfl

theorem step_finished (outcome : Except RequestError Schema) (state : CacheState State) :
    cache.step (.finished outcome) state = (.finished outcome, state) := rfl

/-- Only a step that writes changes the cached entry. -/
theorem step_keeps_entry {request : CacheRequest} (state : CacheState State)
    (notWriting : ∀ entry, request ≠ .writing entry) :
    (cache.step request state).2.entry = state.entry := by
  cases request with
  | checking =>
      cases cached : state.entry with
      | none => rw [step_checking_none cached, cached]
      | some entry => rw [step_checking_some cached, isValid_keeps_entry, cached]
  | readingVersion => rw [step_readingVersion]
  | readingStructure version => rw [step_readingStructure]
  | writing entry => exact absurd rfl (notWriting entry)
  | finished outcome => rw [step_finished]

/-! ## Events -/

theorem next_advance {shared : SharedCache State} {index : Nat} {request : CacheRequest}
    (found : shared.requests[index]? = some request) :
    cache.next shared (.advance index) =
      ⟨(cache.step request shared.state).2,
        shared.requests.set index (cache.step request shared.state).1⟩ := by
  simp only [next, found]
  rfl

theorem next_advance_none {shared : SharedCache State} {index : Nat}
    (absent : shared.requests[index]? = none) : cache.next shared (.advance index) = shared := by
  simp only [next, absent]

/-- A request is as it was before an event, was made by it, or took a step. -/
theorem request_next {shared : SharedCache State} {event : CacheEvent State} {index : Nat}
    {request : CacheRequest} (found : (cache.next shared event).requests[index]? = some request) :
    shared.requests[index]? = some request ∨
      (event = .start ∧ index = shared.requests.length ∧ request = .checking) ∨
        ∃ earlier, event = .advance index ∧ shared.requests[index]? = some earlier ∧
          request = (cache.step earlier shared.state).1 := by
  cases event with
  | start =>
      rw [next, List.getElem?_append] at found
      split at found
      · exact Or.inl found
      · rename_i beyond
        have first : index - shared.requests.length = 0 := by
          have bound := (List.getElem?_eq_some_iff.mp found).1
          simpa using bound
        rw [first] at found
        exact Or.inr (Or.inl ⟨rfl, by omega, by simpa using found.symm⟩)
  | advance moved =>
      cases present : shared.requests[moved]? with
      | none =>
          rw [next_advance_none present] at found
          exact Or.inl found
      | some earlier =>
          rw [next_advance present] at found
          by_cases same : moved = index
          · subst same
            have bound := (List.getElem?_eq_some_iff.mp present).1
            rw [List.getElem?_set_self bound, Option.some.injEq] at found
            exact Or.inr (Or.inr ⟨earlier, rfl, present, found.symm⟩)
          · rw [List.getElem?_set_ne same] at found
            exact Or.inl found
  | invalidate => exact Or.inl found
  | change store => exact Or.inl found

/-- Only a request that writes puts an entry into the cache, which is its own. -/
theorem entry_next {shared : SharedCache State} {event : CacheEvent State} {entry : CacheEntry}
    (found : (cache.next shared event).state.entry = some entry) :
    shared.state.entry = some entry ∨
      ∃ index, event = .advance index ∧ shared.requests[index]? = some (.writing entry) := by
  cases event with
  | start => exact Or.inl found
  | invalidate => cases found
  | change store => exact Or.inl found
  | advance index =>
      cases present : shared.requests[index]? with
      | none =>
          rw [next_advance_none present] at found
          exact Or.inl found
      | some request =>
          rw [next_advance present] at found
          by_cases writes : ∃ own, request = .writing own
          · obtain ⟨own, rfl⟩ := writes
            simp only [step_writing, Option.some.injEq] at found
            exact Or.inr ⟨index, rfl, by rw [present, found]⟩
          · simp only [not_exists] at writes
            simp only [step_keeps_entry _ writes] at found
            exact Or.inl found

theorem finished_next {shared : SharedCache State} {index : Nat}
    {outcome : Except RequestError Schema} (event : CacheEvent State)
    (finished : shared.requests[index]? = some (.finished outcome)) :
    (cache.next shared event).requests[index]? = some (.finished outcome) := by
  have bound := (List.getElem?_eq_some_iff.mp finished).1
  cases event with
  | start =>
      rw [next, List.getElem?_append_left bound]
      exact finished
  | invalidate => exact finished
  | change store => exact finished
  | advance moved =>
      cases present : shared.requests[moved]? with
      | none =>
          rw [next_advance_none present]
          exact finished
      | some request =>
          rw [next_advance present]
          by_cases same : moved = index
          · subst same
            rw [finished, Option.some.injEq] at present
            rw [List.getElem?_set_self bound, ← present, step_finished]
          · rw [List.getElem?_set_ne same]
            exact finished

theorem finished_foldl {shared : SharedCache State} {index : Nat}
    {outcome : Except RequestError Schema} (events : List (CacheEvent State))
    (finished : shared.requests[index]? = some (.finished outcome)) :
    (events.foldl cache.next shared).requests[index]? = some (.finished outcome) := by
  induction events generalizing shared with
  | nil => exact finished
  | cons event later inductionHypothesis =>
      exact inductionHypothesis (finished_next event finished)

/-- No step of a request that fails changes the cached entry. -/
theorem failed_keeps_entry {store : State} {before later : List (CacheEvent State)} {index : Nat}
    {failure : RequestError}
    (failed : (cache.after store (before ++ .advance index :: later)).requests[index]? =
      some (.finished (.error failure))) :
    (cache.after store (before ++ [.advance index])).state.entry =
      (cache.after store before).state.entry := by
  rw [after_snoc]
  cases present : (cache.after store before).requests[index]? with
  | none => rw [next_advance_none present]
  | some request =>
      rw [next_advance present]
      refine step_keeps_entry _ fun entry writes => ?_
      have bound := (List.getElem?_eq_some_iff.mp present).1
      have written :
          (cache.next (cache.after store before) (.advance index)).requests[index]? =
            some (.finished (.ok entry.schema)) := by
        rw [next_advance present, writes, step_writing]
        exact List.getElem?_set_self bound
      have kept :
          (later.foldl cache.next
              (cache.next (cache.after store before) (.advance index))).requests[index]? =
            some (.finished (.ok entry.schema)) :=
        finished_foldl later written
      rw [after_append, List.foldl_cons, kept] at failed
      cases failed

/-! ## A cache over a database -/

/-- A cache of the schema of a database whose types are named for their tables. -/
def ofDatabase (policy : CachePolicy) : SchemaCache Database TableSelection :=
  ⟨policy, { Generator.standard .standard false with inflector := fun word => [word] },
    Database.datastore⟩

/-- A database of empty tables that have a key and no other column. -/
def databaseOf (names : List String) (version : Int64) : Database where
  tables := names.map fun name =>
    ⟨⟨name, [⟨"id", "INTEGER", true, .null⟩], ["id"], [], [], true⟩, []⟩
  views := []
  version := version

end SchemaCache

end TableGraph
