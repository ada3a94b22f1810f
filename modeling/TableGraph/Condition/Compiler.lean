import TableGraph.Condition.Basic
import TableGraph.Selection.Narrowing

/-!
# Compiling conditions

A condition tree becomes one expression for each clause.  For trusted callers
the columns are expressions written as given and literal values are allowed;
for all others every column is bound as an identifier.  All parts of a field's
conditions are compiled before any of them is applied.
-/

namespace TableGraph

/-- The clause a condition tree is compiled for. -/
inductive Clause where
  /-- The restriction of rows. -/
  | row
  /-- The restriction of groups of rows. -/
  | group
  deriving DecidableEq, Repr

/-- The keyword between conditions that must hold together. -/
def Connective.all : String := "AND"

/-- The keyword between conditions of which one must hold. -/
def Connective.any : String := "OR"

/-- How conditions are compiled. -/
structure Compiler where
  /-- Whether callers are trusted with expressions and literal values. -/
  firstParty : Bool
  /-- The deepest level on which conditions may stand, the top being level 0. -/
  maximumDepth : Nat
  deriving DecidableEq, Repr

namespace Compiler

def defaultMaximumDepth : Nat := 32

def new (firstParty : Bool) : Compiler := ⟨firstParty, defaultMaximumDepth⟩

/-- What a client value begins with to be written as given. -/
def literalMark : String := "LITERAL:"

/-- The literal behind the mark. -/
def literal? (value : String) : Option String :=
  if literalMark.toList.isPrefixOf value.toList then
    some (String.ofList (value.toList.drop literalMark.length))
  else
    none

/-! ## Leaves -/

/-- A reference to a column: the expression itself for trusted callers, else an
identifier. -/
def columnReference (compiler : Compiler) (name : String) : Fragment :=
  if compiler.firstParty then ⟨name, []⟩ else ⟨"?name", [.identifier name]⟩

/-- The bound form of a client value, null when there is none. -/
def boundInput (value : Option String) : Value :=
  match value with
  | some text => .ofInput text
  | none => .null

/-- The values a column is compared with by exclusion: null, the empty text and
zero exclude nothing. -/
def excludedValues (values : List (Option String)) : List Value :=
  (values.filterMap id).filterMap fun value =>
    if value = "" || value = "0" then none else some (.ofInput value)

/-- The comparison of a column with the first of the values. -/
def compareSingle (compiler : Compiler) (column : Fragment) (operator : String)
    (values : List (Option String)) : Except RequestError Fragment :=
  let value := values.head?.join
  match value.bind literal? with
  | some literal =>
    if compiler.firstParty then
      .ok (column.followedBy (" " ++ operator ++ " " ++ literal) [])
    else
      .error .literalRefused
  | none => .ok (column.followedBy (" " ++ operator ++ " ?") [.value (boundInput value)])

/-- The comparison of a column by a comparator; it is absent when it excludes
nothing. -/
def compare (compiler : Compiler) (comparator : Comparator) (column : Fragment)
    (values : List (Option String)) : Except RequestError (Option Fragment) :=
  match comparator with
  | .isIn => .ok (some (column.followedBy " IN (?)" [.list (values.map boundInput)]))
  | .notIn =>
    let excluded := excludedValues values
    if excluded.isEmpty then .ok none
    else .ok (some (column.followedBy " NOT IN (?)" [.list excluded]))
  | .null => .ok (some (column.followedBy " IS NULL" []))
  | .notNull => .ok (some (column.followedBy " IS NOT NULL" []))
  | .equal => (compiler.compareSingle column "=" values).map some
  | .notEqual => (compiler.compareSingle column "!=" values).map some
  | .lessThan => (compiler.compareSingle column "<" values).map some
  | .lessThanEqual => (compiler.compareSingle column "<=" values).map some
  | .moreThan => (compiler.compareSingle column ">" values).map some
  | .moreThanEqual => (compiler.compareSingle column ">=" values).map some
  | .like => (compiler.compareSingle column "LIKE" values).map some
  | .notLike => (compiler.compareSingle column "NOT LIKE" values).map some

/-- The comparator of a leaf, equality when it names none. -/
def comparatorOf (name : Option String) : Except RequestError Comparator :=
  match name with
  | some name => Comparator.read name
  | none => .ok .equal

/-- A leaf of a condition tree. -/
def leaf (compiler : Compiler) (column : String) (comparator : Option String)
    (values : List (Option String)) : Except RequestError (Option Fragment) :=
  (comparatorOf comparator).bind fun comparator =>
    compiler.compare comparator (compiler.columnReference column) values

/-! ## Trees -/

/-- The two lists of one level joined: each in parentheses, both must hold. -/
def joinNested (all any : Option Fragment) : Option Fragment :=
  Fragment.join? " AND " ((all.toList ++ any.toList).map Fragment.enclosed)

/-- The entries of one list joined without parentheses. -/
def joinSiblings (connective : String) (parts : List (Option Fragment)) : Option Fragment :=
  Fragment.join? (" " ++ connective ++ " ") (parts.filterMap id)

/-- What an entry becomes: its leaf when it has no nested entries for the
clause, else its two nested lists, which must not stand too deep. -/
def combine (compiler : Compiler) (depth : Nat) (isLeaf : Bool)
    (leaf : Except RequestError (Option Fragment))
    (all any : Except RequestError (List (Option Fragment))) :
    Except RequestError (Option Fragment) :=
  if isLeaf then leaf
  else if compiler.maximumDepth < depth + 1 then .error (.nestedTooDeep compiler.maximumDepth)
  else
    all.bind fun all =>
      any.bind fun any => .ok (joinNested (joinSiblings Connective.all all) (joinSiblings Connective.any any))

/-- The leaf of an entry; an entry without a column says nothing. -/
def leafOf (compiler : Compiler) (column comparator : Option String)
    (values : List (Option String)) : Except RequestError (Option Fragment) :=
  match column with
  | some column => compiler.leaf column comparator values
  | none => .ok none

mutual

/-- An entry that stands on a level.  Its nested lists stand one level deeper,
and those of the other clause play no part. -/
def entry (compiler : Compiler) (clause : Clause) (depth : Nat) :
    Condition → Except RequestError (Option Fragment)
  | ⟨column, comparator, values, rowAll, rowAny, groupAll, groupAny⟩ =>
    match clause with
    | .row =>
      compiler.combine depth (rowAll.isEmpty && rowAny.isEmpty)
        (compiler.leafOf column comparator values)
        (entries compiler clause (depth + 1) rowAll) (entries compiler clause (depth + 1) rowAny)
    | .group =>
      compiler.combine depth (groupAll.isEmpty && groupAny.isEmpty)
        (compiler.leafOf column comparator values)
        (entries compiler clause (depth + 1) groupAll) (entries compiler clause (depth + 1) groupAny)

/-- The entries of a list that stand on a level, each compiled. -/
def entries (compiler : Compiler) (clause : Clause) (depth : Nat) :
    List Condition → Except RequestError (List (Option Fragment))
  | [] => .ok []
  | first :: rest =>
    (entry compiler clause depth first).bind fun compiled =>
      (entries compiler clause depth rest).bind fun later => .ok (compiled :: later)

end

/-- A list of sibling conditions on a level. -/
def list (compiler : Compiler) (clause : Clause) (connective : String) (depth : Nat)
    (conditions : List Condition) : Except RequestError (Option Fragment) :=
  if compiler.maximumDepth < depth then .error (.nestedTooDeep compiler.maximumDepth)
  else (entries compiler clause depth conditions).map (joinSiblings connective)

/-- The two lists of a clause: both must hold, and each is put in parentheses
when both say something. -/
def clause (compiler : Compiler) (clause : Clause) (all any : List Condition) :
    Except RequestError (Option Fragment) :=
  (compiler.list clause Connective.all 0 all).bind fun all =>
    (compiler.list clause Connective.any 0 any).bind fun any =>
      .ok <|
        match all, any with
        | some all, some any => some (Fragment.append " AND " all.enclosed any.enclosed)
        | some all, none => some all
        | none, any => any

/-- The grouping columns, absent when there are none. -/
def grouping (compiler : Compiler) (columns : List (Option String)) : Option Fragment :=
  Fragment.join? ", " ((columns.filterMap id).map compiler.columnReference)

/-! ## Calls -/

/-- The calls of a field's conditions: at most one filter, one group and one
filter on groups. -/
def conditionCalls (compiler : Compiler) (conditions : Conditions) :
    Except RequestError (List Narrowing) :=
  (compiler.clause .row conditions.rowAll conditions.rowAny).bind fun filter =>
    (compiler.clause .group conditions.groupAll conditions.groupAny).bind fun having =>
      .ok ((filter.map Narrowing.filter).toList ++
        ((compiler.grouping conditions.groupColumns).map Narrowing.group).toList ++
        (having.map Narrowing.having).toList)

/-- The call of one order item; an item without a key orders nothing. -/
def orderCall? (compiler : Compiler) (item : OrderBy) : Option Narrowing :=
  match item.direction.getD .ascending, item.key with
  | .random, _ => some .orderRandom
  | direction, some key =>
    some (.order ((compiler.columnReference key).followedBy (" " ++ direction.keyword) []))
  | _, none => none

def orderCalls (compiler : Compiler) (order : List OrderBy) : List Narrowing :=
  order.filterMap compiler.orderCall?

def paginationCalls (pagination : Option Pagination) : List Narrowing :=
  (pagination.map fun page => Narrowing.limit page.limit page.offset).toList

/-- The calls of all arguments of a list field, the conditions first. -/
def argumentCalls (compiler : Compiler) (arguments : Arguments) :
    Except RequestError (List Narrowing) :=
  (compiler.conditionCalls arguments.conditions).map fun calls =>
    calls ++ compiler.orderCalls arguments.order ++ paginationCalls arguments.pagination

end Compiler

end TableGraph
