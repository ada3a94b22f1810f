import TableGraph.Proofs.Database.Lookup

/-!
# Following references

What the fields of a reference resolve to, in terms of the look-up that their statement
is: the row a column leads to, and the rows that hold the key of a row.
-/

namespace TableGraph

namespace Resolving

variable {State First Second : Type} {session : Session State} {action : Resolving State First}

theorem bind_pure_fst (change : First → Second) :
    ((action >>= fun answer => pure (change answer)) session).1 =
      (action session).1.map change := by
  cases acts : action session with
  | mk result next =>
      cases result with
      | error failure =>
          rw [bind_of_error acts]
          rfl
      | ok answer =>
          rw [bind_of_ok acts]
          rfl

end Resolving

/-- Without arguments nothing is narrowed. -/
theorem Compiler.argumentCalls_blank (compiler : Compiler) :
    compiler.argumentCalls .blank = .ok [] := by
  cases compiler
  rfl

namespace Resolver

variable {State Selection : Type} {resolver : Resolver State Selection} {session : Session State}
  {row : Row} {table column : String} {settings : FieldSettings}

theorem resolve_belongsTo (isTable : settings.tableName = some table)
    (isColumn : settings.referencingColumn = some column) (arguments : Arguments) :
    (resolver.resolve .belongsTo (some row) arguments settings session).1 =
      (resolver.fetchOne row table column session).1.map .row := by
  have follows :
      resolver.belongsTo row settings session = resolver.fetchOne row table column session := by
    rw [belongsTo, FieldSettings.requireTable_of_set isTable,
      FieldSettings.requireColumn_of_set isColumn]
    rfl
  refine (Resolving.bind_pure_fst Resolved.row).trans ?_
  rw [follows]

section Polymorphic

variable {relation : MorphRelation} (isRelation : settings.morphRelation = some relation)

include isRelation

/-- A polymorphic reference leads to a row of the table that the row names, with the object
type of that table. -/
theorem resolve_morphTo {typeName : String}
    (names : (row.value? relation.typeColumn).bind Value.tableName? = some table)
    (isType : resolver.typeNames.lookup table = some typeName) (arguments : Arguments) :
    (resolver.resolve .morphTo (some row) arguments settings session).1 =
      (resolver.fetchOne row table relation.idColumn session).1.map
        fun found => .tagged (found.map fun row => (typeName, row)) := by
  have follows :
      resolver.morphTo row settings session =
        (resolver.fetchOne row table relation.idColumn >>= fun found =>
          pure (found.map fun row => (typeName, row))) session := by
    rw [morphTo, FieldSettings.requireMorphRelation_of_set isRelation]
    refine (Resolving.bind_of_ok (Resolving.lift_eq _) _).trans ?_
    simp only [names, isType]
  refine (Resolving.bind_pure_fst Resolved.tagged).trans ?_
  rw [follows, Resolving.bind_pure_fst]
  cases (resolver.fetchOne row table relation.idColumn session).1 <;> rfl

/-- A polymorphic reference that names no table leads to no row. -/
theorem resolve_morphTo_of_nameless
    (nameless : (row.value? relation.typeColumn).bind Value.tableName? = none)
    (arguments : Arguments) :
    (resolver.resolve .morphTo (some row) arguments settings session).1 = .ok (.tagged none) := by
  have follows : resolver.morphTo row settings session = (.ok none, session) := by
    rw [morphTo, FieldSettings.requireMorphRelation_of_set isRelation]
    refine (Resolving.bind_of_ok (Resolving.lift_eq _) _).trans ?_
    simp only [nameless]
    rfl
  refine (Resolving.bind_pure_fst Resolved.tagged).trans ?_
  rw [follows]
  rfl

/-- A polymorphic reference to a table of no object type fails. -/
theorem resolve_morphTo_of_typeless
    (names : (row.value? relation.typeColumn).bind Value.tableName? = some table)
    (typeless : resolver.typeNames.lookup table = none) (arguments : Arguments) :
    (resolver.resolve .morphTo (some row) arguments settings session).1 =
      .error (.unknownMorphType table relation.table relation.typeColumn) := by
  have follows : resolver.morphTo row settings session =
      (.error (.unknownMorphType table relation.table relation.typeColumn), session) := by
    rw [morphTo, FieldSettings.requireMorphRelation_of_set isRelation]
    refine (Resolving.bind_of_ok (Resolving.lift_eq _) _).trans ?_
    simp only [names, typeless]
    rfl
  refine (Resolving.bind_pure_fst Resolved.tagged).trans ?_
  rw [follows]
  rfl

end Polymorphic

end Resolver

namespace Database

variable {compiler : Compiler} {typeNames : List (String × String)} {session : Session Database}
  {row : Row} {table column : String}

/-- A column that holds a value leads to the first row whose key equals the value. -/
theorem fetchOne_of_value {value : Value} {key : String} (holds : row.value? column = some value)
    (present : value.isNull = false) (isKey : session.store.primaryKey table = .ok key) :
    ((resolver compiler typeNames).fetchOne row table column session).1 =
      ((datastore.fetch (.wherever table (key, value) true) session.store).1.1.mapError
        .execution).map List.head? := by
  have referenced :
      session.store.referenced row table column = .ok (some (equalTo table key value)) := by
    simp [Database.referenced, holds, present, isKey, Except.map]
  have attempted :
      Resolving.attempt ((resolver compiler typeNames).datastore.openReferenced row table column)
        session = ((session.store.referenced row table column).mapError .execution, session) :=
    Resolving.attempt_eq rfl
  have limited :
      Resolving.call ((resolver compiler typeNames).datastore.narrow (equalTo table key value)
        (.limit (some 1) none)) session =
        (.ok (.wherever table (key, value) true), session) := rfl
  rw [referenced] at attempted
  rw [Resolver.fetchOne, Resolving.bind_of_ok attempted]
  refine (congrArg Prod.fst (Resolving.bind_of_ok limited _)).trans ?_
  refine (Resolving.bind_pure_fst List.head?).trans ?_
  exact congrArg (Except.map List.head?) (execute_fst _)

/-- Without arguments the rows that hold the key of a row are all fetched. -/
theorem resolve_hasMany {settings : FieldSettings} {key : String}
    (isTable : settings.tableName = some table)
    (isColumn : settings.referencingColumn = some column)
    (notPolymorphic : settings.referencingTypeColumn = none)
    (isKey : session.store.primaryKey row.table = .ok key) :
    ((resolver compiler typeNames).resolve .hasMany (some row) .blank settings session).1 =
      ((datastore.fetch (.wherever table (column, (row.value? key).getD .null) false)
        session.store).1.1.mapError .execution).map .rows := by
  have opened : session.store.openedRelated row settings =
      .ok (equalTo table column ((row.value? key).getD .null)) := by
    rw [openedRelated, FieldSettings.requireTable, FieldSettings.requireColumn, isTable, isColumn,
      notPolymorphic]
    simp [requireSetting, Except.bind, related, isKey, Except.map, Except.mapError]
  have opens :
      (resolver compiler typeNames).openRelated row settings session =
        (session.store.openedRelated row settings, session) := openRelated_eq row settings
  rw [opened] at opens
  refine (congrArg Prod.fst (Resolving.bind_of_ok opens _)).trans ?_
  refine (Resolving.bind_pure_fst Resolved.rows).trans ?_
  have fetched :
      (resolver compiler typeNames).fetch
          (equalTo table column ((row.value? key).getD .null)) .blank session = _ :=
    narrow_bind_eq _ (compiler.argumentCalls .blank) _
  rw [fetched, compiler.argumentCalls_blank]
  exact congrArg (Except.map Resolved.rows) (execute_fst _)

end Database

end TableGraph
