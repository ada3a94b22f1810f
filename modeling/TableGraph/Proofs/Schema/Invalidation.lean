import TableGraph.Proofs.Schema.CacheRun

/-!
# Schemas requested after an invalidation

A request generates a schema and writes it into the cache in two steps, and writes
whatever has happened to the cache in between.  A request that is about to write when
the cache is emptied fills it again with a schema from before.

The main statement, `refreshes_iff`, is that under the optimistic policy nothing else
brings such a schema back: the requests made after an invalidation return only schemas
generated since if, and only if, no request was about to write.
-/

namespace TableGraph

namespace SchemaCache

variable {State Selection : Type} (cache : SchemaCache State Selection) (store : State)

/-- The schema that an event generates. -/
def generated? (shared : SharedCache State) : CacheEvent State → Option Schema
  | .advance index =>
    match shared.requests[index]? with
    | some (.readingStructure _) =>
      (cache.generator.generate cache.datastore shared.state.store).1.toOption
    | _ => none
  | _ => none

def generations (shared : SharedCache State) : List (CacheEvent State) → List Schema
  | [] => []
  | event :: later =>
    (cache.generated? shared event).toList ++ generations (cache.next shared event) later

/-- A request has generated a schema and not written it yet. -/
def IsWriting (shared : SharedCache State) : Prop :=
  ∃ (index : Nat) (entry : CacheEntry), shared.requests[index]? = some (.writing entry)

/-- Every schema returned by a request that is made after the cache was emptied has been
generated since. -/
def Refreshes (before : List (CacheEvent State)) : Prop :=
  ∀ later index schema, (cache.after store before).requests.length ≤ index →
    (cache.after store (before ++ .invalidate :: later)).requests[index]? =
      some (.finished (.ok schema)) →
    schema ∈ cache.generations (cache.after store (before ++ [.invalidate])) later

/-- What holds of a request behind an invalidation, by the schemas generated since and the
number of requests that had been made. -/
def Renewed (schemas : List Schema) (made index : Nat) : CacheRequest → Prop
  | .writing entry => entry.schema ∈ schemas
  | .finished (.ok schema) => made ≤ index → schema ∈ schemas
  | _ => True

/-- The invariant of a run behind an invalidation: what is cached, and what can still be
written, has been generated since. -/
structure IsRenewed (schemas : List Schema) (made : Nat) (shared : SharedCache State) : Prop where
  entry : ∀ entry, shared.state.entry = some entry → entry.schema ∈ schemas
  requests : ∀ index request, shared.requests[index]? = some request →
    Renewed schemas made index request

variable {cache store} {shared : SharedCache State} {schemas : List Schema} {made : Nat}

theorem Renewed.mono {index : Nat} {request : CacheRequest}
    (renewed : Renewed schemas made index request) (more : List Schema) :
    Renewed (schemas ++ more) made index request := by
  cases request with
  | checking => trivial
  | readingVersion => trivial
  | readingStructure version => trivial
  | writing entry => exact List.mem_append_left more renewed
  | finished outcome =>
      cases outcome with
      | error failure => trivial
      | ok schema => exact fun new => List.mem_append_left more (renewed new)

theorem generated?_readingStructure {index : Nat} {version : Option Int64}
    (present : shared.requests[index]? = some (.readingStructure version)) :
    cache.generated? shared (.advance index) =
      (cache.generator.generate cache.datastore shared.state.store).1.toOption := by
  simp only [generated?, present]

theorem generations_snoc (events : List (CacheEvent State)) (event : CacheEvent State) :
    cache.generations shared (events ++ [event]) =
      cache.generations shared events ++
        (cache.generated? (events.foldl cache.next shared) event).toList := by
  induction events generalizing shared with
  | nil => simp [generations]
  | cons head tail inductionHypothesis =>
      simp only [List.cons_append, generations, List.foldl_cons, inductionHypothesis,
        List.append_assoc]

/-! ## Steps -/

/-- A step of a request keeps what holds of it; a step that generates adds its schema. -/
theorem IsRenewed.step {index : Nat} {request : CacheRequest}
    (renewed : IsRenewed schemas made shared)
    (present : shared.requests[index]? = some request) :
    Renewed (schemas ++ (cache.generated? shared (.advance index)).toList) made index
      (cache.step request shared.state).1 := by
  cases request with
  | checking =>
      cases cached : shared.state.entry with
      | none =>
          rw [step_checking_none cached]
          cases policy : cache.policy <;> trivial
      | some entry =>
          rw [step_checking_some cached]
          split
          · exact fun _ => List.mem_append_left _ (renewed.entry entry cached)
          · cases policy : cache.policy <;> trivial
  | readingVersion =>
      rw [step_readingVersion]
      cases read : (cache.datastore.readVersion shared.state.store).1 <;> trivial
  | readingStructure version =>
      rw [step_readingStructure, generated?_readingStructure present]
      cases (cache.generator.generate cache.datastore shared.state.store).1 with
      | error failure => trivial
      | ok schema => exact List.mem_append_right schemas (List.mem_singleton_self schema)
  | writing entry =>
      rw [step_writing]
      exact fun _ => List.mem_append_left _ (renewed.requests index _ present)
  | finished outcome =>
      rw [step_finished]
      exact (renewed.requests index _ present).mono _

theorem IsRenewed.next (renewed : IsRenewed schemas made shared) (event : CacheEvent State) :
    IsRenewed (schemas ++ (cache.generated? shared event).toList) made
      (cache.next shared event) := by
  refine ⟨fun entry found => List.mem_append_left _ ?_, fun index request found => ?_⟩
  · rcases entry_next found with kept | ⟨index, rfl, writes⟩
    · exact renewed.entry entry kept
    · exact renewed.requests index _ writes
  · rcases request_next found with kept | ⟨_, _, rfl⟩ | ⟨earlier, rfl, present, rfl⟩
    · exact (renewed.requests index request kept).mono _
    · trivial
    · exact renewed.step present

theorem isRenewed_invalidate (notWriting : ¬ IsWriting shared) :
    IsRenewed [] shared.requests.length (cache.next shared .invalidate) := by
  refine ⟨fun entry found => ?_, fun index request found => ?_⟩
  · cases found
  cases request with
  | checking => trivial
  | readingVersion => trivial
  | readingStructure version => trivial
  | writing entry => exact absurd ⟨index, entry, found⟩ notWriting
  | finished outcome =>
      cases outcome with
      | error failure => trivial
      | ok schema =>
          intro new
          have bound : index < shared.requests.length := (List.getElem?_eq_some_iff.mp found).1
          omega

theorem IsRenewed.foldl (renewed : IsRenewed [] made shared) (later : List (CacheEvent State)) :
    IsRenewed (cache.generations shared later) made (later.foldl cache.next shared) := by
  induction later using List.reverseRecOn with
  | nil => exact renewed
  | append_singleton later event inductionHypothesis =>
      rw [generations_snoc, List.foldl_append]
      exact inductionHypothesis.next event

/-! ## Requests about to write -/

/-- What a request is about to write is returned to the next request, though nothing is
generated. -/
theorem returns_written (optimistic : cache.policy = .optimistic) {index : Nat} {entry : CacheEntry}
    (writes : shared.requests[index]? = some (.writing entry)) :
    ∃ later, cache.generations shared later = [] ∧
      (later.foldl cache.next shared).requests[shared.requests.length]? =
        some (.finished (.ok entry.schema)) := by
  have write : cache.next shared (.advance index) =
      ⟨{ shared.state with entry := some entry },
        shared.requests.set index (.finished (.ok entry.schema))⟩ := by
    rw [next_advance writes, step_writing]
  have made : (cache.next (cache.next shared (.advance index)) .start).requests[
      shared.requests.length]? = some .checking := by
    rw [write]
    simp [next]
  have read : cache.step .checking (cache.next (cache.next shared (.advance index)) .start).state =
      (.finished (.ok entry.schema),
        (cache.next (cache.next shared (.advance index)) .start).state) := by
    rw [write, step_checking_some rfl, isValid_optimistic optimistic]
    rfl
  refine ⟨[.advance index, .start, .advance shared.requests.length], ?_, ?_⟩
  · simp only [generations, generated?, writes, made, Option.toList_none, List.append_nil]
  · rw [List.foldl_cons, List.foldl_cons, List.foldl_cons, List.foldl_nil, next_advance made, read]
    exact List.getElem?_set_self (List.getElem?_eq_some_iff.mp made).1

/-- The requests made after the cache was emptied return only schemas generated since,
exactly if no request was about to write one from before. -/
theorem refreshes_iff (optimistic : cache.policy = .optimistic) (before : List (CacheEvent State)) :
    Refreshes cache store before ↔ ¬ IsWriting (cache.after store before) := by
  have emptied : cache.after store (before ++ [.invalidate]) =
      cache.next (cache.after store before) .invalidate := after_snoc store before _
  have continued : ∀ later, cache.after store (before ++ .invalidate :: later) =
      later.foldl cache.next (cache.next (cache.after store before) .invalidate) :=
    fun later => after_append store before (.invalidate :: later)
  constructor
  · rintro refreshes ⟨index, entry, writes⟩
    have kept : (cache.next (cache.after store before) .invalidate).requests[index]? =
        some (.writing entry) := writes
    obtain ⟨later, nothing, returned⟩ := returns_written optimistic kept
    have stale := refreshes later _ entry.schema (Nat.le_refl _) (by
      rw [continued]
      exact returned)
    rw [emptied, nothing] at stale
    cases stale
  · intro notWriting later index schema new returned
    rw [continued] at returned
    rw [emptied]
    exact ((isRenewed_invalidate notWriting).foldl later).requests index _ returned new

/-- A request that has not read the structure yet brings nothing back. -/
theorem refreshes_iff_reading :
    Refreshes (ofDatabase .optimistic) (databaseOf ["people"] 1) [.start, .advance 0] := by
  refine (refreshes_iff rfl _).mpr ?_
  rintro ⟨index, entry, writes⟩
  have found : CacheRequest.writing entry ∈ [CacheRequest.readingStructure none] :=
    List.mem_of_getElem? writes
  simp at found

/-- The last table is dropped when a request has generated a schema. -/
def droppedEarly : List (CacheEvent Database) :=
  [.start, .advance 0, .advance 0, .change (databaseOf [] 2)]

/-- The request then writes after the cache was emptied, and the next one returns a schema
though the database has none any more. -/
theorem not_refreshes_dropped :
    ¬ Refreshes (ofDatabase .optimistic) (databaseOf ["people"] 1) droppedEarly ∧
      ((ofDatabase .optimistic).generator.schemaOf (databaseOf [] 2).introspect).toOption = none ∧
        ∃ schema,
          ((ofDatabase .optimistic).after (databaseOf ["people"] 1)
            (droppedEarly ++ [.invalidate, .advance 0, .start, .advance 1])).requests[1]? =
              some (.finished (.ok schema)) := by
  have returned : ∃ schema,
      ((ofDatabase .optimistic).after (databaseOf ["people"] 1)
        (droppedEarly ++ [.invalidate, .advance 0, .start, .advance 1])).requests[1]? =
          some (.finished (.ok schema)) :=
    ⟨_, rfl⟩
  have nothing :
      (ofDatabase .optimistic).generations
          ((ofDatabase .optimistic).after (databaseOf ["people"] 1) (droppedEarly ++ [.invalidate]))
          [.advance 0, .start, .advance 1] = [] := rfl
  refine ⟨fun refreshes => ?_, rfl, returned⟩
  obtain ⟨schema, found⟩ := returned
  have stale := refreshes [.advance 0, .start, .advance 1] 1 schema (by decide) found
  rw [nothing] at stale
  cases stale

end SchemaCache

end TableGraph
