import TableGraph.Proofs.Schema.CacheRun

/-!
# Freshness of schemas cached by version

A request reads the version before the structure, and may write an older entry over
a newer one.  What every event keeps is that no cached or generated schema is older
than its version: the schema is that of a structure whose version was at least the
one it is cached under.

The main statement, `fingerprint_returns_current`, is that every schema returned is
that of a structure which was current while the request was in flight.
-/

namespace TableGraph

variable {State Selection : Type}

/-- Reads of a datastore, when they do not fail, tell the structure and the version
of its state, and change neither. -/
structure TracksVersion (datastore : Datastore State Selection) (structureOf : State → Structure)
    (versionOf : State → Int64) : Prop where
  structure_current : ∀ store tables,
    (datastore.readStructure store).1 = .ok tables → tables = structureOf store
  version_current : ∀ store version,
    (datastore.readVersion store).1 = .ok version → version = versionOf store
  readStructure_keeps : ∀ store,
    structureOf (datastore.readStructure store).2 = structureOf store ∧
      versionOf (datastore.readStructure store).2 = versionOf store
  readVersion_keeps : ∀ store,
    structureOf (datastore.readVersion store).2 = structureOf store ∧
      versionOf (datastore.readVersion store).2 = versionOf store

namespace SchemaCache

theorem tracksVersion_datastore :
    TracksVersion Database.datastore Database.introspect Database.version where
  structure_current := fun _ _ read => (Except.ok.inj read).symm
  version_current := fun _ _ read => (Except.ok.inj read).symm
  readStructure_keeps := fun _ => ⟨rfl, rfl⟩
  readVersion_keeps := fun _ => ⟨rfl, rfl⟩

variable (cache : SchemaCache State Selection) (store : State) (structureOf : State → Structure)
  (versionOf : State → Int64)

/-- The version never falls, and rises with every change of the structure. -/
def Raises (events : List (CacheEvent State)) : Prop :=
  ∀ before changed later, events = before ++ .change changed :: later →
    versionOf (cache.after store before).state.store ≤ versionOf changed ∧
      (structureOf (cache.after store before).state.store ≠ structureOf changed →
        versionOf (cache.after store before).state.store < versionOf changed)

/-- A request that is made and has no outcome yet. -/
def InFlight (events : List (CacheEvent State)) (index : Nat) : Prop :=
  ∃ request, (cache.after store events).requests[index]? = some request ∧
    request.isFinished = false

/-- A schema is that of the structure after some events. -/
def IsCurrent (events : List (CacheEvent State)) (schema : Schema) : Prop :=
  cache.generator.schemaOf (structureOf (cache.after store events).state.store) = .ok schema

/-- A schema is that of a structure which was current while a request was in flight. -/
def Serves (events : List (CacheEvent State)) (index : Nat) (schema : Schema) : Prop :=
  ∃ before, before <+: events ∧ InFlight cache store before index ∧
    IsCurrent cache store structureOf before schema

/-- A state that a later one has come from, with the structure of their version. -/
def IsPast (past present : State) : Prop :=
  versionOf past ≤ versionOf present ∧
    (versionOf past = versionOf present → structureOf past = structureOf present)

/-- An entry whose schema is that of a past structure, no older than its version. -/
def Dated (present : State) (entry : CacheEntry) : Prop :=
  ∃ past version, IsPast structureOf versionOf past present ∧ entry.version = some version ∧
    version ≤ versionOf past ∧ cache.generator.schemaOf (structureOf past) = .ok entry.schema

/-- What holds of a request as far as it has come. -/
def Sound (events : List (CacheEvent State)) (index : Nat) : CacheRequest → Prop
  | .checking => True
  | .readingVersion => True
  | .readingStructure version =>
    ∃ read, version = some read ∧ read ≤ versionOf (cache.after store events).state.store
  | .writing entry =>
    Dated cache structureOf versionOf (cache.after store events).state.store entry ∧
      Serves cache store structureOf events index entry.schema
  | .finished (.ok schema) => Serves cache store structureOf events index schema
  | .finished (.error _) => True

/-- The invariant of a run: cached entries are dated and requests are sound. -/
structure IsFresh (events : List (CacheEvent State)) : Prop where
  entry : ∀ entry, (cache.after store events).state.entry = some entry →
    Dated cache structureOf versionOf (cache.after store events).state.store entry
  requests : ∀ index request, (cache.after store events).requests[index]? = some request →
    Sound cache store structureOf versionOf events index request

variable {cache store structureOf versionOf} {events : List (CacheEvent State)}

theorem IsPast.refl (present : State) : IsPast structureOf versionOf present present :=
  ⟨Int64.le_refl _, fun _ => rfl⟩

theorem IsPast.of_eq {past present : State} (sameStructure : structureOf present = structureOf past)
    (sameVersion : versionOf present = versionOf past) :
    IsPast structureOf versionOf past present :=
  ⟨by rw [sameVersion]; exact Int64.le_refl _, fun _ => sameStructure.symm⟩

theorem IsPast.trans {past middle present : State} (first : IsPast structureOf versionOf past middle)
    (second : IsPast structureOf versionOf middle present) :
    IsPast structureOf versionOf past present := by
  refine ⟨Int64.le_trans first.1 second.1, fun same => ?_⟩
  have toMiddle : versionOf past = versionOf middle :=
    Int64.le_antisymm first.1 (by rw [same]; exact second.1)
  exact (first.2 toMiddle).trans (second.2 (toMiddle.symm.trans same))

theorem Dated.mono {past present : State} {entry : CacheEntry}
    (dated : Dated cache structureOf versionOf past entry)
    (isPast : IsPast structureOf versionOf past present) :
    Dated cache structureOf versionOf present entry := by
  obtain ⟨origin, version, originPast, versioned, notOlder, generated⟩ := dated
  exact ⟨origin, version, originPast.trans isPast, versioned, notOlder, generated⟩

theorem Serves.mono {index : Nat} {schema : Schema} {later : List (CacheEvent State)}
    (serves : Serves cache store structureOf events index schema) (isPrefix : events <+: later) :
    Serves cache store structureOf later index schema := by
  obtain ⟨before, earlier, inFlight, current⟩ := serves
  exact ⟨before, earlier.trans isPrefix, inFlight, current⟩

/-- An entry that has the version of the present has the schema of the present. -/
theorem Dated.current {present : State} {entry : CacheEntry}
    (dated : Dated cache structureOf versionOf present entry)
    (sameVersion : entry.version = some (versionOf present)) :
    cache.generator.schemaOf (structureOf present) = .ok entry.schema := by
  obtain ⟨past, version, isPast, versioned, notOlder, generated⟩ := dated
  rw [versioned, Option.some.injEq] at sameVersion
  have samePast : versionOf past = versionOf present :=
    Int64.le_antisymm isPast.1 (by rw [← sameVersion]; exact notOlder)
  rw [← isPast.2 samePast]
  exact generated

/-! ## Steps -/

theorem generate_eq (generator : Generator) (datastore : Datastore State Selection) (store : State) :
    generator.generate datastore store =
      (match (datastore.readStructure store).1 with
        | .ok tables => generator.schemaOf tables
        | .error failure => .error (.database failure),
        (datastore.readStructure store).2) := by
  rcases read : datastore.readStructure store with ⟨answer, later⟩
  simp only [Generator.generate, bind, StateT.bind, read]
  cases answer <;> rfl

section Tracking

variable (tracks : TracksVersion cache.datastore structureOf versionOf)

include tracks

theorem generate_current {present : State} {schema : Schema}
    (generated : (cache.generator.generate cache.datastore present).1 = .ok schema) :
    cache.generator.schemaOf (structureOf present) = .ok schema := by
  rw [generate_eq] at generated
  cases read : (cache.datastore.readStructure present).1 with
  | error failure => simp [read] at generated
  | ok tables =>
      rw [read] at generated
      rw [← tracks.structure_current present tables read]
      exact generated

/-- A step of a request changes neither structure nor version. -/
theorem isPast_step (request : CacheRequest) (state : CacheState State) :
    IsPast structureOf versionOf state.store (cache.step request state).2.store := by
  have versionRead :
      IsPast structureOf versionOf state.store (cache.datastore.readVersion state.store).2 :=
    IsPast.of_eq (tracks.readVersion_keeps state.store).1 (tracks.readVersion_keeps state.store).2
  cases request with
  | checking =>
      cases cached : state.entry with
      | none =>
          rw [step_checking_none cached]
          exact IsPast.refl _
      | some entry =>
          rw [step_checking_some cached]
          cases policy : cache.policy with
          | pessimistic =>
              rw [isValid_pessimistic policy]
              exact IsPast.refl _
          | optimistic =>
              rw [isValid_optimistic policy]
              exact IsPast.refl _
          | fingerprint =>
              rw [isValid_fingerprint policy]
              exact versionRead
  | readingVersion =>
      rw [step_readingVersion]
      exact versionRead
  | readingStructure version =>
      rw [step_readingStructure, generate_eq]
      exact IsPast.of_eq (tracks.readStructure_keeps state.store).1
        (tracks.readStructure_keeps state.store).2
  | writing entry => exact IsPast.refl _
  | finished outcome => exact IsPast.refl _

/-- The state before an event is a past of the state behind it. -/
theorem isPast_next {event : CacheEvent State}
    (raises : Raises cache store structureOf versionOf (events ++ [event])) :
    IsPast structureOf versionOf (cache.after store events).state.store
      (cache.after store (events ++ [event])).state.store := by
  rw [after_snoc]
  cases event with
  | start => exact IsPast.refl _
  | invalidate => exact IsPast.refl _
  | advance index =>
      cases present : (cache.after store events).requests[index]? with
      | none =>
          rw [next_advance_none present]
          exact IsPast.refl _
      | some request =>
          rw [next_advance present]
          exact isPast_step tracks request _
  | change changed =>
      obtain ⟨notLower, higher⟩ := raises events changed [] rfl
      refine ⟨notLower, fun same => ?_⟩
      by_cases sameStructure :
          structureOf (cache.after store events).state.store = structureOf changed
      · exact sameStructure
      · have above := higher sameStructure
        have sameVersion :
            versionOf (cache.after store events).state.store = versionOf changed := same
        rw [sameVersion] at above
        exact (Int64.lt_irrefl above).elim

/-- What holds of a request is kept when it takes no step. -/
theorem Sound.mono {event : CacheEvent State}
    (raises : Raises cache store structureOf versionOf (events ++ [event])) {index : Nat}
    {request : CacheRequest} (sound : Sound cache store structureOf versionOf events index request) :
    Sound cache store structureOf versionOf (events ++ [event]) index request := by
  have isPast := isPast_next tracks raises
  have isPrefix : events <+: events ++ [event] := List.prefix_append events [event]
  cases request with
  | checking => trivial
  | readingVersion => trivial
  | readingStructure version =>
      obtain ⟨read, versioned, notNewer⟩ := sound
      exact ⟨read, versioned, Int64.le_trans notNewer isPast.1⟩
  | writing entry => exact ⟨sound.1.mono isPast, sound.2.mono isPrefix⟩
  | finished outcome =>
      cases outcome with
      | error failure => trivial
      | ok schema => exact Serves.mono sound isPrefix

/-- What is returned from the cache has the version of the present. -/
theorem Sound.checking (fingerprint : cache.policy = .fingerprint) {index : Nat}
    (fresh : IsFresh cache store structureOf versionOf events)
    (present : (cache.after store events).requests[index]? = some .checking) :
    Sound cache store structureOf versionOf (events ++ [.advance index]) index
      (cache.step .checking (cache.after store events).state).1 := by
  cases cached : (cache.after store events).state.entry with
  | none =>
      rw [step_checking_none cached, fingerprint]
      trivial
  | some entry =>
      rw [step_checking_some cached, isValid_fingerprint fingerprint, fingerprint]
      cases read : (cache.datastore.readVersion (cache.after store events).state.store).1 with
      | error failure => trivial
      | ok version =>
          by_cases sameVersion : entry.version = some version
          · have current := (fresh.entry entry cached).current
              (by rw [sameVersion, tracks.version_current _ version read])
            have served : Serves cache store structureOf (events ++ [.advance index]) index
                entry.schema :=
              ⟨events, List.prefix_append events _, ⟨.checking, present, rfl⟩, current⟩
            simp only [sameVersion, beq_self_eq_true, if_true]
            exact served
          · simp [sameVersion, generating, Sound]

theorem Sound.step (fingerprint : cache.policy = .fingerprint) {index : Nat}
    (raises : Raises cache store structureOf versionOf (events ++ [.advance index]))
    (fresh : IsFresh cache store structureOf versionOf events) {request : CacheRequest}
    (present : (cache.after store events).requests[index]? = some request) :
    Sound cache store structureOf versionOf (events ++ [.advance index]) index
      (cache.step request (cache.after store events).state).1 := by
  have isPast := isPast_next tracks raises
  have isPrefix : events <+: events ++ [.advance index] := List.prefix_append events _
  have sound := fresh.requests index request present
  cases request with
  | checking => exact Sound.checking tracks fingerprint fresh present
  | readingVersion =>
      rw [step_readingVersion]
      cases read : (cache.datastore.readVersion (cache.after store events).state.store).1 with
      | error failure => trivial
      | ok version =>
          refine ⟨version, rfl, ?_⟩
          rw [tracks.version_current _ version read]
          exact isPast.1
  | readingStructure version =>
      rw [step_readingStructure]
      cases made : (cache.generator.generate cache.datastore
          (cache.after store events).state.store).1 with
      | error failure => trivial
      | ok schema =>
          have current := generate_current tracks made
          obtain ⟨read, versioned, notNewer⟩ := sound
          exact ⟨⟨_, read, isPast, versioned, notNewer, current⟩,
            events, isPrefix, ⟨.readingStructure version, present, rfl⟩, current⟩
  | writing entry =>
      rw [step_writing]
      exact sound.2.mono isPrefix
  | finished outcome =>
      rw [step_finished]
      exact Sound.mono tracks raises sound

/-- Every run of a cache that compares versions is fresh. -/
theorem isFresh_of_raises (fingerprint : cache.policy = .fingerprint)
    (raises : Raises cache store structureOf versionOf events) :
    IsFresh cache store structureOf versionOf events := by
  induction events using List.reverseRecOn with
  | nil =>
      refine ⟨fun entry found => ?_, fun index request found => ?_⟩
      · cases found
      · cases found
  | append_singleton events event inductionHypothesis =>
      have earlier : Raises cache store structureOf versionOf events := by
        intro before changed later split
        refine raises before changed (later ++ [event]) ?_
        rw [split, List.append_assoc, List.cons_append]
      have fresh := inductionHypothesis earlier
      have isPast := isPast_next tracks raises
      refine ⟨fun entry found => ?_, fun index request found => ?_⟩
      · have before := found
        rw [after_snoc] at before
        rcases entry_next before with kept | ⟨index, rfl, writes⟩
        · exact (fresh.entry entry kept).mono isPast
        · exact (fresh.requests index _ writes).1.mono isPast
      · rw [after_snoc] at found
        rcases request_next found with kept | ⟨_, _, rfl⟩ | ⟨request, rfl, present, rfl⟩
        · exact Sound.mono tracks raises (fresh.requests index request kept)
        · trivial
        · exact Sound.step tracks fingerprint raises fresh present

end Tracking

/-- Every schema that a request returns is that of a structure which was current
while the request was in flight, and no step of a request that fails changes the
cached entry. -/
theorem fingerprint_returns_current (tracks : TracksVersion cache.datastore structureOf versionOf)
    (fingerprint : cache.policy = .fingerprint)
    (raises : Raises cache store structureOf versionOf events) :
    (∀ index schema, (cache.after store events).requests[index]? = some (.finished (.ok schema)) →
      Serves cache store structureOf events index schema) ∧
    ∀ index failure,
      (cache.after store events).requests[index]? = some (.finished (.error failure)) →
        ∀ before later, events = before ++ .advance index :: later →
          (cache.after store (before ++ [.advance index])).state.entry =
            (cache.after store before).state.entry := by
  refine ⟨fun index schema finished => ?_, fun index failure failed before later split => ?_⟩
  · exact (isFresh_of_raises tracks fingerprint raises).requests index _ finished
  · rw [split] at failed
    exact failed_keeps_entry failed

/-- A request that is overtaken by a new table, between the version and the structure
it reads. -/
def overtaken : List (CacheEvent Database) :=
  [.start, .advance 0, .advance 0, .change (databaseOf ["people", "pets"] 2), .advance 0,
    .advance 0]

theorem fingerprint_returns_current_overtaken :
    ∃ schema,
      ((ofDatabase .fingerprint).after (databaseOf ["people"] 1) overtaken).requests[0]? =
          some (.finished (.ok schema)) ∧
        Serves (ofDatabase .fingerprint) (databaseOf ["people"] 1) Database.introspect overtaken 0
          schema := by
  have raises : Raises (ofDatabase .fingerprint) (databaseOf ["people"] 1) Database.introspect
      Database.version overtaken := by
    intro before changed later split
    have onlyChange : before = [.start, .advance 0, .advance 0] ∧
        changed = databaseOf ["people", "pets"] 2 := by
      simp [overtaken, List.cons_eq_append_iff] at split
      exact ⟨split.1, split.2.1⟩
    obtain ⟨rfl, rfl⟩ := onlyChange
    exact ⟨by decide, fun _ => by decide⟩
  have returned := (fingerprint_returns_current tracksVersion_datastore rfl raises).1 0
  exact ⟨_, rfl, returned _ rfl⟩

end SchemaCache

end TableGraph
