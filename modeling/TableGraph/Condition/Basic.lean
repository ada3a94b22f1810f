import TableGraph.Failure
import TableGraph.Value

/-!
# Conditions

The arguments of a list field: how the rows are restricted, ordered and cut to a
page.  A condition is a leaf that compares one column, or a group of nested
conditions; conditions on rows and conditions on groups of rows nest through
lists of their own.
-/

namespace TableGraph

/-- How a leaf compares its column. -/
inductive Comparator where
  | equal
  | notEqual
  | lessThan
  | lessThanEqual
  | moreThan
  | moreThanEqual
  | like
  | notLike
  | isIn
  | notIn
  | null
  | notNull
  deriving DecidableEq, Repr

namespace Comparator

def all : List Comparator :=
  [.equal, .notEqual, .lessThan, .lessThanEqual, .moreThan, .moreThanEqual, .like, .notLike, .isIn,
    .notIn, .null, .notNull]

/-- The name of a comparator among the arguments of a field. -/
def name : Comparator → String
  | .equal => "EQUAL"
  | .notEqual => "NOT_EQUAL"
  | .lessThan => "LESS_THAN"
  | .lessThanEqual => "LESS_THAN_EQUAL"
  | .moreThan => "MORE_THAN"
  | .moreThanEqual => "MORE_THAN_EQUAL"
  | .like => "LIKE"
  | .notLike => "NOT_LIKE"
  | .isIn => "IN"
  | .notIn => "NOT_IN"
  | .null => "NULL"
  | .notNull => "NOT_NULL"

/-- The operator of a comparator that takes a single value. -/
def operator? : Comparator → Option String
  | .equal => some "="
  | .notEqual => some "!="
  | .lessThan => some "<"
  | .lessThanEqual => some "<="
  | .moreThan => some ">"
  | .moreThanEqual => some ">="
  | .like => some "LIKE"
  | .notLike => some "NOT LIKE"
  | _ => none

def ofName? (name : String) : Option Comparator :=
  all.find? fun comparator => comparator.name == name

/-- The comparator of a name, or the error that names it. -/
def read (name : String) : Except RequestError Comparator :=
  match ofName? name with
  | some comparator => .ok comparator
  | none => .error (.unknownComparator name)

end Comparator

/-- A node of a condition tree.  The nested lists called `all` must hold
together, those called `any` hold when one entry does. -/
structure Condition where
  column : Option String
  comparator : Option String
  values : List (Option String)
  rowAll : List Condition
  rowAny : List Condition
  groupAll : List Condition
  groupAny : List Condition
  deriving Repr

/-- A condition that says nothing. -/
def Condition.blank : Condition := ⟨none, none, [], [], [], [], []⟩

instance : Inhabited Condition := ⟨.blank⟩

/-- The conditions of one field: on rows, on groups of rows, and the columns
that make up the groups. -/
structure Conditions where
  rowAll : List Condition
  rowAny : List Condition
  groupAll : List Condition
  groupAny : List Condition
  groupColumns : List (Option String)
  deriving Repr

def Conditions.blank : Conditions := ⟨[], [], [], [], []⟩

instance : Inhabited Conditions := ⟨.blank⟩

/-- The direction of an order. -/
inductive Direction where
  | ascending
  | descending
  | random
  deriving DecidableEq, Repr

namespace Direction

def keyword : Direction → String
  | .ascending => "ASC"
  | .descending => "DESC"
  | .random => "RANDOM"

def ofKeyword? (keyword : String) : Option Direction :=
  [.ascending, .descending, .random].find? fun direction => direction.keyword == keyword

end Direction

/-- One item of an order. -/
structure OrderBy where
  key : Option String
  direction : Option Direction
  deriving DecidableEq, Repr

/-- The page of rows asked for. -/
structure Pagination where
  limit : Option Int64
  offset : Option Int64
  deriving DecidableEq, Repr

/-- The arguments of a list or count field. -/
structure Arguments where
  pagination : Option Pagination
  order : List OrderBy
  conditions : Conditions
  deriving Repr

def Arguments.blank : Arguments := ⟨none, [], .blank⟩

instance : Inhabited Arguments := ⟨.blank⟩

end TableGraph
