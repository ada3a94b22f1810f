import TableGraph.Failure
import TableGraph.Pattern.Parser
import TableGraph.Structure.Document

/-!
# Configuration

Which tables and columns are exposed, how relation fields are named, and which
relations are polymorphic.  Exclusions come first; an inclusion list that is
empty includes everything.
-/

namespace TableGraph

/-- A polymorphic relation: the table a row references stands in a column of
the row next to the id. -/
structure MorphRelation where
  table : String
  idColumn : String
  typeColumn : String
  /-- The name of the field that follows the relation. -/
  relationName : String
  /-- The tables with fields for the inverse relation, all when empty. -/
  targets : List String
  deriving DecidableEq, Repr

/-- The options of a generated schema. -/
structure Configuration where
  exceptTables : List String
  onlyTables : List String
  exceptColumns : List (String × List String)
  onlyColumns : List (String × List String)
  morphRelations : List MorphRelation
  /-- Whether inverse fields always carry the referencing column. -/
  forcedLongNames : Bool
  /-- What is removed from a referencing column to name its field. -/
  stripPattern : String
  deriving DecidableEq, Repr

namespace Configuration

def standard : Configuration := ⟨[], [], [], [], [], true, "_[^_]*$"⟩

instance : Inhabited Configuration := ⟨standard⟩

/-- Whether a name passes an exclusion and an inclusion list. -/
def passes (except only : List String) (name : String) : Bool :=
  !except.contains name && (only.isEmpty || only.contains name)

def isTableVisible (configuration : Configuration) (table : String) : Bool :=
  passes configuration.exceptTables configuration.onlyTables table

def isColumnVisible (configuration : Configuration) (table column : String) : Bool :=
  passes ((configuration.exceptColumns.lookup table).getD [])
    ((configuration.onlyColumns.lookup table).getD []) column

/-- The strip pattern, or the error that names it. -/
def readStripPattern (configuration : Configuration) (patterns : PatternEngine := Pattern.engine) :
    Except RequestError CompiledPattern :=
  let text := configuration.stripPattern
  (patterns text).mapError fun report => .invalidPattern text report

end Configuration

/-! ## Reading -/

namespace Document

/-- The fields of a record that has no others, each at most once. -/
def closedRecord? (names : List String) (document : Json) : Option (List (String × Json)) :=
  match document with
  | .object fields =>
    if fields.all fun entry => names.contains entry.1 then strictRecord? names document else none
  | _ => strictRecord? names document

/-- A map in the order of its keys. -/
def sortedMap? {α : Type} (item : Json → Option α) (document : Json) : Option (List (String × α)) :=
  (map? item document).map sortedPairs

end Document

open Document

def MorphRelation.ofDocument? (document : Json) : Option MorphRelation := do
  let names := ["table", "id_column", "type_column", "relation_name", "targets"]
  let fields ← closedRecord? names document
  let table ← required? fields "table" Json.text?
  let idColumn ← required? fields "id_column" Json.text?
  let typeColumn ← required? fields "type_column" Json.text?
  let relationName ← required? fields "relation_name" Json.text?
  let targets ← defaulted? fields "targets" (list? Json.text?) []
  return ⟨table, idColumn, typeColumn, relationName, targets⟩

/-- The configuration of a document, absent fields being standard. -/
def Configuration.ofDocument? (document : Json) : Option Configuration := do
  let names := ["except_tables", "only_tables", "except_columns", "only_columns",
    "morph_relations", "forced_has_many_long_name", "belongs_to_strip_pattern"]
  let fields ← closedRecord? names document
  let texts := list? Json.text?
  let exceptTables ← defaulted? fields "except_tables" texts []
  let onlyTables ← defaulted? fields "only_tables" texts []
  let exceptColumns ← defaulted? fields "except_columns" (sortedMap? texts) []
  let onlyColumns ← defaulted? fields "only_columns" (sortedMap? texts) []
  let morphRelations ← defaulted? fields "morph_relations" (list? MorphRelation.ofDocument?) []
  let forcedLongNames ←
    defaulted? fields "forced_has_many_long_name" Json.bool? standard.forcedLongNames
  let stripPattern ← defaulted? fields "belongs_to_strip_pattern" Json.text? standard.stripPattern
  return ⟨exceptTables, onlyTables, exceptColumns, onlyColumns, morphRelations, forcedLongNames,
    stripPattern⟩

end TableGraph
