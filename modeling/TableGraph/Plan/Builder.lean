import TableGraph.Plan.Exposure

/-!
# Building plans

A plan is built in three passes: the columns of every exposed table with the
two root fields, the fields that follow its references, and the inverse fields
of polymorphic relations.  A field whose name is taken is left out, so earlier
passes win.
-/

namespace TableGraph

/-- Chooses the scalar of a column that is not part of a key. -/
abbrev ColumnTypeMapper := Column → Scalar

/-- The scalar of a column by its native type. -/
def nativeTypeMapper : ColumnTypeMapper := fun column => Scalar.ofNativeType column.nativeType

/-- What a plan is built from. -/
structure PlanSource where
  database : Structure
  configuration : Configuration
  mapper : ColumnTypeMapper
  inflector : Inflector
  strip : CompiledPattern

namespace PlanSource

/-- What stands between a table and a column in a long name. -/
def longNameSeparator : String := "__"

def longName (table column : String) : String := table ++ longNameSeparator ++ column

/-- The exposed tables with the names of their object types. -/
def namedTables (source : PlanSource) : List (Table × String) :=
  nameObjects source.inflector [] (source.configuration.exposedTables source.database)

/-- The object type of an exposed table. -/
def objectOf? (source : PlanSource) (table : String) : Option String :=
  (pairsOf (source.namedTables.map fun (table, name) => (table.name, name))).lookup table

def isExposed (source : PlanSource) (table : String) : Bool :=
  source.namedTables.any fun entry => entry.1.name == table

/-! ## Columns and root fields -/

/-- The fields of the columns of a table; key columns are ids. -/
def columnFields (source : PlanSource) (table : Table) : List FieldPlan :=
  (source.configuration.exposedColumns table).map fun column =>
    .ofColumn column (if column.primary then .id else source.mapper column)

/-- The two root fields of a table. -/
def rootFields (table : Table) (name : String) : List FieldPlan :=
  let settings := { FieldSettings.blank with tableName := some table.name }
  [.list table.name name .table settings, .count table.name .tableCount settings]

/-! ## References -/

/-- The name of the field that follows a referencing column: the column without
the strip pattern, if that leaves a name of GraphQL. -/
def belongsToName (source : PlanSource) (column : String) : String :=
  let stripped := source.strip.removeFirst column
  if isGraphName stripped then stripped else column

/-- The field that follows a reference, if both of its ends are exposed. -/
def belongsToField? (source : PlanSource) (table : Table) (reference : String × String) :
    Option FieldPlan :=
  (source.configuration.visibleColumn? table reference.1).bind fun column =>
    (source.objectOf? reference.2).map fun object =>
      { name := source.belongsToName reference.1
        type := .object object
        nullable := column.nullable
        arguments := .none
        resolver := some .belongsTo
        settings := { FieldSettings.blank with
          tableName := some reference.2, referencingColumn := some reference.1 }
        description := none }

/-- The table that owns a polymorphic relation, if it and both of its columns
are exposed. -/
def morphOwner? (source : PlanSource) (relation : MorphRelation) : Option Table :=
  if source.isExposed relation.table then
    (source.database.table? relation.table).filter fun table =>
      (source.configuration.visibleColumn? table relation.idColumn).isSome &&
        (source.configuration.visibleColumn? table relation.typeColumn).isSome
  else
    none

/-- The field that follows a polymorphic relation of a table. -/
def morphToField? (source : PlanSource) (table : Table) (relation : MorphRelation) :
    Option FieldPlan :=
  if relation.table == table.name && (source.morphOwner? relation).isSome then
    some
      { name := relation.relationName
        type := .morph
        nullable := ((table.column? relation.idColumn).map Column.nullable).getD true
        arguments := .none
        resolver := some .morphTo
        settings := { FieldSettings.blank with morphRelation := some relation }
        description := none }
  else
    none

/-- The field of the rows that reference a table, and the field of their
count. -/
def listAndCount (name object : String) (settings : FieldSettings) : List FieldPlan :=
  [.list name object .hasMany settings, .count name .hasManyCount settings]

/-- The fields of one inverse reference.  They carry the long name when that is
forced or when the other table references this one in several columns. -/
def hasManyFields (source : PlanSource) (other : Table) (object : String) (columns : List String)
    (column : String) : List FieldPlan :=
  if (source.configuration.visibleColumn? other column).isNone then []
  else
    let name :=
      if source.configuration.forcedLongNames || 1 < columns.length then longName other.name column
      else other.name
    listAndCount name object
      { FieldSettings.blank with tableName := some other.name, referencingColumn := some column }

/-- The fields of all inverse references of another table to a table. -/
def hasManyFieldsOf (source : PlanSource) (inverse : String × List String) : List FieldPlan :=
  match source.objectOf? inverse.1, source.database.table? inverse.1 with
  | some object, some other => inverse.2.flatMap (source.hasManyFields other object inverse.2)
  | _, _ => []

/-- The fields that follow the references of a table in both directions. -/
def relationFields (source : PlanSource) (table : Table) : List FieldPlan :=
  table.belongsTo.filterMap (source.belongsToField? table) ++
    source.configuration.morphRelations.filterMap (source.morphToField? table) ++
    table.hasMany.flatMap source.hasManyFieldsOf

/-- The object type of a table but for inverse polymorphic relations. -/
def objectPlan (source : PlanSource) (entry : Table × String) : ObjectPlan :=
  ⟨entry.1.name, entry.2,
    pushFields (pushFields [] (source.columnFields entry.1)) (source.relationFields entry.1)⟩

/-! ## Inverse polymorphic relations -/

/-- Add the inverse fields of a polymorphic relation to an object type.  They
carry the long name when that is forced or when a short name is taken. -/
def addMorphFields (source : PlanSource) (relation : MorphRelation) (owner : String)
    (object : ObjectPlan) : ObjectPlan :=
  if !relation.targets.isEmpty && !relation.targets.contains object.table then object
  else
    let taken := hasField object.fields relation.table ||
      hasField object.fields (relation.table ++ FieldPlan.countSuffix)
    let name :=
      if source.configuration.forcedLongNames || taken then
        longName relation.table relation.idColumn
      else
        relation.table
    let settings := { FieldSettings.blank with
      tableName := some relation.table
      referencingColumn := some relation.idColumn
      referencingTypeColumn := some relation.typeColumn }
    { object with fields := pushFields object.fields (listAndCount name owner settings) }

/-- Add the inverse fields of a polymorphic relation to its targets. -/
def addMorphRelation (source : PlanSource) (objects : List ObjectPlan) (relation : MorphRelation) :
    List ObjectPlan :=
  match source.morphOwner? relation with
  | none => objects
  | some owner =>
    match objects.find? fun object => object.table == owner.name with
    | none => objects
    | some object => objects.map (source.addMorphFields relation object.name)

/-! ## The whole plan -/

/-- The plan of a source. -/
def plan (source : PlanSource) : SchemaPlan where
  query := source.namedTables.foldl (fun fields entry => pushFields fields (rootFields entry.1 entry.2)) []
  objects :=
    source.configuration.morphRelations.foldl source.addMorphRelation
      (source.namedTables.map source.objectPlan)

end PlanSource

/-- The plan of a structure; it fails only when the strip pattern is malformed. -/
def SchemaPlan.build (database : Structure) (configuration : Configuration)
    (mapper : ColumnTypeMapper) (inflector : Inflector)
    (patterns : PatternEngine := Pattern.engine) : Except RequestError SchemaPlan :=
  (configuration.readStripPattern patterns).map fun strip =>
    PlanSource.plan ⟨database, configuration, mapper, inflector, strip⟩

end TableGraph
