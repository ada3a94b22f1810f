import TableGraph.Proofs.Resolving.HiddenRequests
import TableGraph.Schema.Generator

/-!
# Hidden columns

A configuration decides which columns a schema has fields for.  The compiler does not know it:
an untrusted client may name any column in a condition, an order or a group, and learns
something of what a hidden column holds (`SchemaPlan.not_hides_price`).  What is hidden is
hidden from those who do not name it.  The main statement, `SchemaPlan.hides_unless_named`, is
that statements mention no other hidden columns, and that the values of hidden columns which a
request does not name change nothing in its response or in its log.
-/

namespace TableGraph

open Document (fieldOf)
open Request (Executing)

namespace SchemaPlan

/-- The clauses of a statement that an untrusted client has executed mention only what the
client wrote, exposed columns and keys.  When the client names shown columns only, the values of
hidden columns that are in no key and no index do not matter: on databases that differ in these,
a field finds rows that differ in these, and a whole request has the same response, with the same
log of statements that mention no hidden column. -/
theorem hides_unless_named {described : Structure} {configuration : Configuration}
    {mapper : ColumnTypeMapper} {inflector : Inflector} {patterns : PatternEngine} {plan : SchemaPlan}
    (built : SchemaPlan.build described configuration mapper inflector patterns = .ok plan)
    {first : Database} (holds : first.Holds described) :
    (∀ field parent kind depth arguments selection, plan.Asks field parent →
      field.resolver = some kind →
      first.reached ⟨false, depth⟩ (Schema.typeNames plan) kind parent arguments field.settings =
        .ok (some selection) →
      ∃ statement, selection.render kind.head = .ok statement ∧
        ∀ query, Query.ofStatement statement.text (statement.binds.map Cell.ofValue) = .ok query →
          query.IsOver
            (configuration.MayMention described selection.table (kind.namedColumns arguments))
            selection.table) ∧
    ∀ second, configuration.SeparatesNames described →
      first.IndexesShown described (configuration.hides described) →
      first.veiled (configuration.hides described) = second.veiled (configuration.hides described) →
      let twins := Database.twins (configuration.hides described) first second
      (∀ (execution : Request.Execution Database TableSelection) depth field parent otherParent given,
        execution.resolver = Database.resolver ⟨false, depth⟩ (Schema.typeNames plan) →
        plan.Asks field parent →
        parent.map (Row.veiled (configuration.hides described)) =
          otherParent.map (Row.veiled (configuration.hides described)) →
        field.GivenShown configuration described given →
        Agree twins (field.FindsAlike plan (configuration.hides described))
          (execution.resolveField field parent given)
          (execution.resolveField field otherParent given)) ∧
      ∀ schema, Schema.ofPlan plan false = .ok schema →
        (plan.registrations.map Prod.fst).Nodup →
        ∀ message, Request.Message.NamesShown message schema configuration described →
          Agree twins (· = ·) (Request.execute schema Database.datastore message)
            (Request.execute schema Database.datastore message) := by
  obtain ⟨strip, _, rfl⟩ := eq_plan_of_build built
  let source : PlanSource := ⟨described, configuration, mapper, inflector, strip⟩
  constructor
  · intro field parent kind depth arguments selection asks isKind reaches
    exact source.mentions_reached holds asks isKind reaches
  · intro second separates indexed alike twins
    constructor
    · intro execution depth field parent otherParent given isResolver asks sameParent shown
      exact source.agree_resolveField holds separates indexed alike execution
        isResolver asks sameParent shown
    · intro schema made distinct message shown
      exact source.agree_execute holds separates indexed alike distinct made shown

/-! ### Products whose price is hidden -/

private def stall (price : Int64) : Database where
  tables := [⟨⟨"products", [⟨"id", "INTEGER", true, .null⟩, ⟨"price", "INTEGER", true, .null⟩],
    ["id"], [], [], true⟩, [⟨1, [.integer 1, .integer price]⟩]⟩]
  views := []
  version := 0

private def stallStructure : Structure where
  tables := [⟨"products", [⟨"id", false, true, "INTEGER", none⟩,
    ⟨"price", false, false, "INTEGER", none⟩], [], []⟩]

private def priceless : Configuration :=
  { Configuration.standard with exceptColumns := [("products", ["price"])] }

private def ofProducts : FieldSettings := { FieldSettings.blank with tableName := some "products" }

private def productsCount : FieldPlan := .count "products" .tableCount ofProducts

private def stallPlan : SchemaPlan where
  query := [.list "products" "products" .table ofProducts, productsCount]
  objects := [⟨"products", "products", [.ofColumn ⟨"id", false, true, "INTEGER", none⟩ .id]⟩]

private def stallSchema : Schema := ⟨stallPlan, .new false, stallPlan.types⟩

/-- What evaluation settles of the two stalls and of their schema. -/
private structure StallFacts : Prop where
  introspect : (stall 5).introspect = stallStructure ∧ (stall 20).introspect = stallStructure
  build : SchemaPlan.build stallStructure priceless nativeTypeMapper (fun _ => []) = .ok stallPlan
  valid : stallPlan.types.all (Schema.isValidType stallPlan.types) = true
  scalar : (stallSchema.type? Scalar.int.name).isNone = true
  tables : ((stall 5).veiled (priceless.hides stallStructure)).tables =
    ((stall 20).veiled (priceless.hides stallStructure)).tables

private theorem stallFacts : StallFacts := by
  constructor <;> decide +kernel

private theorem alike_stall : (stall 5).veiled (priceless.hides stallStructure) =
    (stall 20).veiled (priceless.hides stallStructure) :=
  congrArg (fun tables => { Database.empty with tables := tables }) stallFacts.tables

private theorem indexesShown_stall :
    (stall 5).IndexesShown stallStructure (priceless.hides stallStructure) := by
  intro table member stored found name isIndexed
  obtain rfl := List.mem_singleton.mp member
  obtain rfl : _ = stored := Option.some.inj found
  cases isIndexed

private theorem ofPlan_stall : Schema.ofPlan stallPlan false = .ok stallSchema := by
  rw [Schema.ofPlan, if_neg (by decide)]
  exact if_pos stallFacts.valid

private theorem field?_productsCount :
    stallSchema.field? TypeName.query "products_count" = some productsCount.toTypeField := by
  have keeps : stallPlan.Keeps TypeName.query stallPlan.query := ⟨rfl, by decide⟩
  have known : stallSchema.type? TypeName.query = some (.ofFields stallPlan.query) :=
    keeps.lookup_types
  rw [Schema.field?, known]
  rfl

private theorem holds_stall : (stall 5).Holds stallStructure := by
  intro table member
  obtain rfl := List.mem_singleton.mp member
  refine ⟨_, by cbv, rfl, rfl, by decide, ?_, by decide⟩
  exact List.forall_mem_singleton.mpr rfl

private theorem separates_stall : priceless.SeparatesNames stallStructure :=
  holds_stall.separatesNames (by decide)

/-! #### Counting by a column -/

private def countArguments (column : String) : List (String × Request.InputValue) :=
  [("conditions", .object [("where", .list [.object [("column", .text column),
    ("comparator", .enumeration "MORE_THAN"), ("value", .text "10")]])])]

private def countSelections (column : String) : List Request.Selection :=
  [.field ⟨1, 3⟩ "products_count" "products_count" (countArguments column) [] []]

private def countOperation (column : String) : Request.Operation :=
  ⟨none, .query, [], [], countSelections column⟩

private def countDocument (column : String) : Request.Document := ⟨[countOperation column], []⟩

private def countField (column : String) : Request.Execution.CollectedField :=
  ⟨⟨1, 3⟩, "products_count", "products_count", countArguments column, []⟩

private def moreThanTen (column : String) : Json :=
  .object [("column", .text column), ("comparator", .text "MORE_THAN"), ("value", .text "10")]

private def countGiven (column : String) : List (String × Json) :=
  [("conditions", .object [("where", .array [moreThanTen column])])]

private def countWanted (column : String) : Arguments :=
  { Arguments.blank with conditions := { Conditions.blank with
      rowAll := [⟨some column, some "MORE_THAN", [some "10"], [], [], [], []⟩] } }

private def byKey : Request.Message where
  query :=
    "\x7b products_count(conditions: \x7bwhere: [\x7bcolumn: \"id\", comparator: MORE_THAN, value: \"10\"\x7d]\x7d) \x7d"
  operation := none
  bindings := []

private def byPrice : Request.Message where
  query :=
    "\x7b products_count(conditions: \x7bwhere: [\x7bcolumn: \"price\", comparator: MORE_THAN, value: \"10\"\x7d]\x7d) \x7d"
  operation := none
  bindings := []

private theorem parse_byKey : Request.Document.parse? byKey.query = some (countDocument "id") := by
  cbv

private theorem parse_byPrice :
    Request.Document.parse? byPrice.query = some (countDocument "price") := by
  cbv

private theorem read_countGiven (column : String) :
    Arguments.read (countGiven column) = .ok (countWanted column) := by
  have listed : Condition.listOf? (.array [moreThanTen column]) =
      some (countWanted column).conditions.rowAll := by
    simp [moreThanTen, Condition.listOf?, Condition.eachOf?, Condition.ofDocument?,
      Condition.ofFields?, Condition.assign?]
    rfl
  have absent : Condition.listOf? .null = some [] := by rw [Condition.listOf?]
  have conditions : Conditions.ofDocument? (.object [("where", .array [moreThanTen column])]) =
      some (countWanted column).conditions := by
    change (Condition.listOf? (.array [moreThanTen column])).bind (fun _ =>
      (Condition.listOf? .null).bind fun _ => (Condition.listOf? .null).bind fun _ =>
        (Condition.listOf? .null).bind fun _ => _) = _
    rw [listed, absent]
    rfl
  have fields : Arguments.ofFields? (countGiven column) = some (countWanted column) := by
    change (Conditions.ofDocument? (.object [("where", .array [moreThanTen column])])).bind _ = _
    rw [conditions]
    rfl
  rw [Arguments.read, fields]

private def counting (column : String) : Request.Execution Database TableSelection :=
  ⟨stallSchema, Database.resolver (.new false) (Schema.typeNames stallPlan), countDocument column,
    countOperation column, []⟩

private theorem asks_counting {column typeName : String} {field : Request.Execution.CollectedField}
    (asks : (counting column).Asks typeName field) :
    typeName = TypeName.query ∧ field = countField column := by
  induction asks with
  | root collected => exact ⟨rfl, List.mem_singleton.mp collected⟩
  | inside _ _ _ collected inductionHypothesis =>
      rw [inductionHypothesis.2] at collected
      cases collected

private theorem givenShown_id : productsCount.GivenShown priceless stallStructure (countGiven "id") := by
  intro kind isKind arguments read table isTable name isName
  obtain rfl : ResolverKind.tableCount = kind := Option.some.inj isKind
  rw [read_countGiven] at read
  obtain rfl := Except.ok.inj read
  obtain rfl : "products" = table := Option.some.inj isTable
  obtain rfl : name = "id" := List.mem_singleton.mp isName
  intro part isPart
  rw [Identifier.parts_eq_singleton (by decide), List.mem_singleton] at isPart
  rw [isPart, String.ofList_toList]
  decide

private theorem namesShown_byKey : byKey.NamesShown stallSchema priceless stallStructure := by
  intro document operation parsed isOperation typeName field declared given asks isDeclared isGiven
  rw [parse_byKey] at parsed
  obtain rfl := Option.some.inj parsed
  obtain rfl : countOperation "id" = operation := Option.some.inj isOperation
  have ofCounting : (counting "id").Asks typeName field := asks
  obtain ⟨rfl, rfl⟩ := asks_counting ofCounting
  obtain rfl := Option.some.inj (field?_productsCount.symm.trans isDeclared)
  obtain rfl : countGiven "id" = given := Option.some.inj isGiven
  exact givenShown_id

private theorem asks_productsCount : stallPlan.Asks productsCount none :=
  .root none (List.mem_cons_of_mem _ List.mem_cons_self)

/-! #### Naming the hidden column -/

private def pricedSelection : TableSelection :=
  { TableSelection.ofTable "products" with
    filters := [⟨"?name > ?", [.identifier "price", .value (.integer 10)]⟩] }

private def pricedText : String := "SELECT COUNT(*) FROM \"products\" WHERE \"price\" > ?"

private def pricedClauses : SelectClauses where
  table := "products"
  filter := some (.binary (.compare .greater) (.column none "price") (.literal (.integer 10)))
  groups := []
  having := none
  orders := []
  limit := none
  offset := none

/-- What evaluation settles of the request that names the hidden column. -/
private structure PricedFacts : Prop where
  compiled : (Compiler.new false).argumentCalls (ResolverKind.tableCount.applied
    (countWanted "price")) = .ok [.filter ⟨"?name > ?", [.identifier "price", .value (.integer 10)]⟩]
  render : pricedSelection.render (.count "*") = .ok ⟨pricedText, [.integer 10]⟩
  valid : (Request.Validation.mk stallSchema (countDocument "price") []).isDocument = true
  countsNone : (stall 5).queryNumber (.value .countAll pricedClauses) = .ok 0
  countsOne : (stall 20).queryNumber (.value .countAll pricedClauses) = .ok 1

private theorem pricedFacts : PricedFacts := by
  constructor <;> decide +kernel

private theorem reached_price (price : Int64) :
    (stall price).reached (.new false) (Schema.typeNames stallPlan) .tableCount none
      (countWanted "price") ofProducts = .ok (some pricedSelection) := by
  have opens : (stall price).opened (Schema.typeNames stallPlan) .tableCount none ofProducts =
      .ok (some (TableSelection.ofTable "products")) := rfl
  rw [Database.reached, opens, Except.bind, Database.narrowed, pricedFacts.compiled]
  rfl

private theorem read_price :
    Query.ofStatement pricedText [.integer 10] = .ok (.value .countAll pricedClauses) := by
  cbv

/-- Who counts the products by their keys learns nothing of their prices, whatever these are;
who counts them by a price has it mentioned. -/
theorem hides_unless_named_products :
    SchemaPlan.build stallStructure priceless nativeTypeMapper (fun _ => []) = .ok stallPlan ∧
      (stall 5).Holds stallStructure ∧ priceless.SeparatesNames stallStructure ∧
      (stall 5).IndexesShown stallStructure (priceless.hides stallStructure) ∧
      (stall 5).veiled (priceless.hides stallStructure) =
        (stall 20).veiled (priceless.hides stallStructure) ∧
      (∃ statement, pricedSelection.render (.count "*") = .ok statement ∧
        ∀ query, Query.ofStatement statement.text (statement.binds.map Cell.ofValue) = .ok query →
          query.IsOver (priceless.MayMention stallStructure "products" ["price"]) "products") ∧
      productsCount.GivenShown priceless stallStructure (countGiven "id") ∧
      byKey.NamesShown stallSchema priceless stallStructure ∧
      Agree (Database.twins (priceless.hides stallStructure) (stall 5) (stall 20))
        (productsCount.FindsAlike stallPlan (priceless.hides stallStructure))
        ((counting "id").resolveField productsCount none (countGiven "id"))
        ((counting "id").resolveField productsCount none (countGiven "id")) ∧
      Agree (Database.twins (priceless.hides stallStructure) (stall 5) (stall 20)) (· = ·)
        (Request.execute stallSchema Database.datastore byKey)
        (Request.execute stallSchema Database.datastore byKey) := by
  obtain ⟨mentions, hides⟩ := hides_unless_named stallFacts.build holds_stall
  obtain ⟨finds, responds⟩ := hides (stall 20) separates_stall indexesShown_stall alike_stall
  refine ⟨stallFacts.build, holds_stall, separates_stall, indexesShown_stall, alike_stall, ?_,
    givenShown_id, namesShown_byKey, ?_, ?_⟩
  · exact mentions productsCount none .tableCount _ (countWanted "price") pricedSelection
      asks_productsCount rfl (reached_price 5)
  · exact finds (counting "id") _ productsCount none none (countGiven "id") rfl asks_productsCount
      rfl givenShown_id
  · exact responds stallSchema ofPlan_stall (by decide) byKey namesShown_byKey

/-- The number of a count is shown as it is. -/
private theorem complete_count (readObject : Request.Execution.ObjectReader Database)
    (number : Int) (session : Session Database) :
    (counting "price").complete readObject productsCount.toTypeField.type
      (some (.json (.integer number))) session = (.ok (.integer number), session) := by
  have type : productsCount.toTypeField.type = .nonNull (.named Scalar.int.name) := rfl
  have scalar : (counting "price").schema.type? Scalar.int.name = none :=
    Option.isNone_iff_eq_none.mp stallFacts.scalar
  rw [type, Request.Execution.complete, Request.Execution.complete]
  · unfold Request.Execution.completeNamed
    rw [scalar]
    rfl
  · simp

section Priced

variable {price number : Int64}
  (counts : (stall price).queryNumber (.value .countAll pricedClauses) = .ok number)

/-- A stall before a request is logged, and after. -/
private def opened (price : Int64) : Session Database := ⟨stall price, ⟨some .empty, none⟩⟩

private def logged (price : Int64) : Session Database :=
  ⟨stall price, ⟨some ⟨[QueryLog.timedEntry 0 pricedText]⟩, none⟩⟩

include counts

private theorem count_price :
    Resolving.execute Database.datastore (Database.datastore.count pricedSelection "*")
      (opened price) = (.ok number, logged price) := by
  have fetched : (stall price).fetchNumber ⟨pricedText, [.integer 10]⟩ = .ok number := by
    change (Query.ofStatement pricedText [.integer 10] >>= (stall price).queryNumber) = _
    rw [read_price]
    exact counts
  have executed : (pricedSelection.execute (.count "*")).2 =
      { pricedSelection with shown := pricedText } := by
    rw [TableSelection.execute, TableSelection.shownText, pricedFacts.render]
  have called : Resolving.call (Database.datastore.count pricedSelection "*") (opened price) =
      (.ok (.ok number, { pricedSelection with shown := pricedText }), opened price) := by
    change (Except.ok (Database.runSelection pricedSelection (.count "*") (stall price).fetchNumber),
      opened price) = _
    rw [TableSelection.IsShown.runSelection_of_render pricedFacts.render, fetched, executed]
    rfl
  rw [Resolving.execute, Resolving.bind_of_ok called]
  rfl

private theorem resolveField_price :
    (counting "price").resolveField productsCount none (countGiven "price") (opened price) =
      (.ok (some (.json (.integer number.toInt))), logged price) := by
  have read : (liftM (Arguments.read (countGiven "price")) : Resolving Database Arguments)
      (opened price) = (.ok (countWanted "price"), opened price) := by
    rw [Resolving.lift_eq, read_countGiven]
  have resolved := Database.resolve_eq_reached (.new false) (Schema.typeNames stallPlan) .tableCount
    none (countWanted "price") ofProducts (opened price)
  rw [show (opened price).store = stall price from rfl, reached_price] at resolved
  have counted : (counting "price").resolver.resolve .tableCount none (countWanted "price")
      ofProducts (opened price) = (.ok (.count number), logged price) :=
    Eq.trans resolved (Resolving.bind_of_ok (count_price counts) _)
  unfold Request.Execution.resolveField
  exact (Resolving.bind_of_ok read _).trans (Resolving.bind_of_ok counted _)

private theorem readField_price :
    (counting "price").readField ((counting "price").readSelections Request.depthLimit)
        TypeName.query none (countField "price") (opened price) =
      (.ok ("products_count", .integer number.toInt), logged price) := by
  have resolved : (counting "price").resolveAt (countField "price") productsCount none
      (countGiven "price") (opened price) =
        (.ok (some (.json (.integer number.toInt))), logged price) := by
    rw [Request.Execution.resolveAt, resolveField_price counts]
    rfl
  have declared : (counting "price").schema.field? TypeName.query (countField "price").name =
      some productsCount.toTypeField := field?_productsCount
  have given : (counting "price").argumentFields (countField "price").arguments =
      some (countGiven "price") := rfl
  rw [Request.Execution.readField, if_neg (by decide), declared, given]
  refine (Acting.bind_of_eq resolved _).trans (Acting.bind_of_eq (complete_count _ _ _) _)

private theorem execute_byPrice :
    Request.execute stallSchema Database.datastore byPrice (opened price) =
      (.ok (.object [("products_count", .integer number.toInt)]), logged price) := by
  have isOperation : byPrice.operation? (countDocument "price") = some (countOperation "price") := rfl
  have noBindings : byPrice.bindings = [] := rfl
  have fields : ([countField "price"].mapM ((counting "price").readField
      ((counting "price").readSelections Request.depthLimit) TypeName.query none) :
        Executing Database (List (String × Json))) (opened price) =
          (.ok [("products_count", .integer number.toInt)], logged price) := by
    rw [List.mapM_cons]
    exact Acting.bind_of_eq (readField_price counts) _
  unfold Request.execute
  rw [parse_byPrice]
  simp only [noBindings, pricedFacts.valid, isOperation]
  exact Acting.bind_of_eq fields _

end Priced

/-- The price of products is in no field of the schema.  An untrusted client who names it still
has a statement filter by it, and reads from the count which of two stalls, which differ in this
price only, it asks. -/
theorem not_hides_price :
    (stall 5).introspect = stallStructure ∧ (stall 20).introspect = stallStructure ∧
      SchemaPlan.build stallStructure priceless nativeTypeMapper (fun _ => []) = .ok stallPlan ∧
      Schema.ofPlan stallPlan false = .ok stallSchema ∧
      priceless.isColumnVisible "products" "price" = false ∧
      (stall 5).veiled (priceless.hides stallStructure) =
        (stall 20).veiled (priceless.hides stallStructure) ∧
      Query.ofStatement pricedText [.integer 10] = .ok (.value .countAll pricedClauses) ∧
      pricedClauses.filter =
        some (.binary (.compare .greater) (.column none "price") (.literal (.integer 10))) ∧
      Request.execute stallSchema Database.datastore byPrice (opened 5) =
        (.ok (.object [("products_count", .integer 0)]), logged 5) ∧
      Request.execute stallSchema Database.datastore byPrice (opened 20) =
        (.ok (.object [("products_count", .integer 1)]), logged 20) := by
  exact ⟨stallFacts.introspect.1, stallFacts.introspect.2, stallFacts.build, ofPlan_stall,
    by decide, alike_stall, read_price, rfl, execute_byPrice pricedFacts.countsNone,
    execute_byPrice pricedFacts.countsOne⟩

/-! #### An index on the hidden column -/

/-- The order along an index: that of the cells in it. -/
private def alongIndex : VisitOrder where
  indexed := fun _ => []
  places := fun _ _ _ rows => (List.range rows.length).insertionSort fun left right =>
    Cells.order (rows[left]?.getD []) (rows[right]?.getD []) ≠ .gt
  perm := fun _ _ _ rows => List.perm_insertionSort _ (List.range rows.length)

/-- The rows of two products of different prices. -/
private def pricedRows (first second : Int64) : List StoredRow :=
  [⟨1, [.integer 1, .integer first]⟩, ⟨2, [.integer 2, .integer second]⟩]

private def pricedTable (first second : Int64) : StoredTable :=
  ⟨⟨"products", [⟨"id", "INTEGER", true, .null⟩, ⟨"price", "INTEGER", true, .null⟩], [],
    [["price"]], [], true⟩, pricedRows first second⟩

/-- Two products that are found along the index of a key of the price. -/
private def pricedStall (first second : Int64) : Database :=
  { Database.empty with tables := [pricedTable first second], rowOrder := alongIndex }

private def allClauses : SelectClauses where
  table := "products"
  filter := none
  groups := []
  having := none
  orders := []
  limit := none
  offset := none

private theorem fetch_pricedStall (first second : Int64) :
    (Database.datastore.fetch (.ofTable "products") (pricedStall first second)).1.1 =
      .ok (((pricedStall first second).visited allClauses none
        ((pricedRows first second).map StoredRow.visible)).map fun cells =>
          .ofValues "products" (["id", "price"].zip ((cells.take 2).map Cell.toValue))) := by
  have rendered : (TableSelection.ofTable "products").render .rows =
      .ok ⟨"SELECT * FROM \"products\"", []⟩ := by decide +kernel
  have read : Query.ofStatement "SELECT * FROM \"products\"" [] = .ok (.rows allClauses) := by cbv
  have found : (pricedStall first second).table? allClauses.table =
      some (pricedTable first second) := by cbv
  have resolved : Database.resolveClauses (pricedTable first second).definition.scope allClauses none =
      .ok ⟨none, [], none, [], none, [], false⟩ := rfl
  have selected : (pricedStall first second).select allClauses none =
      .ok (((pricedStall first second).visited allClauses none
        ((pricedRows first second).map StoredRow.visible)).map (List.take 2)) := by
    rw [Database.select, Database.source?_of_table? found]
    simp only [resolved, bind, Except.bind, pure, Except.pure, Database.formGroups]
    have passesAll : Database.passes none = fun _ => true := rfl
    have projected : Database.project 2 none = fun row => row.cells.take 2 := rfl
    simp [allClauses, Database.pageNumber, Database.arrange_nil, Database.cut, passesAll, projected,
      Function.comp_def, pricedTable, TableDefinition.scope]
  rw [Database.fetch_of_render rendered, Database.fetchRows]
  change Except.mapError _ (Query.ofStatement "SELECT * FROM \"products\"" [] >>= _) = _
  rw [read]
  change Except.mapError _ ((pricedStall first second).queryRows (.rows allClauses) >>= _) = _
  rw [Database.queryRows, selected]
  simp [Except.mapError, bind, Except.bind, pure, Except.pure, Database.columnNames_of_table? found,
    pricedTable, TableSelection.ofTable]

/-- Of two databases that differ in the hidden price only, the rows come in different orders when
they are found along an index on the price, without a client who names it. -/
theorem not_hides_indexed_price :
    (pricedStall 5 20).veiled (priceless.hides stallStructure) =
        (pricedStall 20 5).veiled (priceless.hides stallStructure) ∧
      (Database.datastore.fetch (.ofTable "products") (pricedStall 5 20)).1.1 =
        .ok [⟨"products", [("id", .integer 1), ("price", .integer 5)]⟩,
          ⟨"products", [("id", .integer 2), ("price", .integer 20)]⟩] ∧
      (Database.datastore.fetch (.ofTable "products") (pricedStall 20 5)).1.1 =
        .ok [⟨"products", [("id", .integer 2), ("price", .integer 5)]⟩,
          ⟨"products", [("id", .integer 1), ("price", .integer 20)]⟩] := by
  refine ⟨?_, ?_, ?_⟩
  · have tables : ((pricedStall 5 20).veiled (priceless.hides stallStructure)).tables =
        ((pricedStall 20 5).veiled (priceless.hides stallStructure)).tables := by decide +kernel
    exact congrArg (fun tables => { pricedStall 5 20 with tables := tables }) tables
  · rw [fetch_pricedStall]
    decide +kernel
  · rw [fetch_pricedStall]
    decide +kernel

end SchemaPlan

end TableGraph
