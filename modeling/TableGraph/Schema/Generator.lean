import TableGraph.Datastore
import TableGraph.Plan.Builder
import TableGraph.Schema.Basic

/-!
# Generating schemas

A generator makes the schema of a datastore: it reads the structure, plans the
object types and registers them.
-/

namespace TableGraph

/-- What a schema depends on apart from the structure. -/
structure Generator where
  configuration : Configuration
  firstParty : Bool
  mapper : ColumnTypeMapper
  inflector : Inflector
  patterns : PatternEngine := Pattern.engine

namespace Generator

/-- A generator with the standard mapping of types and English names. -/
def standard (configuration : Configuration) (firstParty : Bool) : Generator :=
  { configuration, firstParty, mapper := nativeTypeMapper, inflector := Inflector.english }

/-- The plan for a structure. -/
def plan (generator : Generator) (database : Structure) : Except RequestError SchemaPlan :=
  SchemaPlan.build database generator.configuration generator.mapper generator.inflector
    generator.patterns

/-- The schema of a structure. -/
def schemaOf (generator : Generator) (database : Structure) : Except RequestError Schema :=
  (generator.plan database).bind fun plan => Schema.ofPlan plan generator.firstParty

/-- The schema of a datastore; a structure that cannot be read is a failure of
the database. -/
def generate {State Selection : Type} (generator : Generator)
    (datastore : Datastore State Selection) : StateM State (Except RequestError Schema) := do
  match ← datastore.readStructure with
  | .ok tables => return generator.schemaOf tables
  | .error failure => return .error (.database failure)

end Generator

end TableGraph
