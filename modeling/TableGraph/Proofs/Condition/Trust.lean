import TableGraph.Proofs.Condition.Faults
import TableGraph.Proofs.Condition.WrittenNames

/-!
# Trusted and untrusted callers

The compiler writes the columns of a trusted caller as given and binds those of all others as
identifiers.  The main statement, `Compiler.trusted_agrees`, is that nothing else depends on
it: what compiles for a caller who is not trusted also compiles for a trusted one, to the same
text with the identifiers written in place of their placeholders.
-/

namespace TableGraph

/-! ## Results -/

/-- A result that, if there is one, has a counterpart. -/
def Mirrors {First Second : Type} (related : First → Second → Prop)
    (leading : Except RequestError First) (following : Except RequestError Second) : Prop :=
  ∀ result, leading = .ok result → ∃ other, following = .ok other ∧ related result other

namespace Mirrors

variable {First Second Third Fourth : Type} {related : First → Second → Prop}
  {changed : Third → Fourth → Prop} {leading : Except RequestError First}
  {following : Except RequestError Second}

theorem ok {first : First} {second : Second} (same : related first second) :
    Mirrors related (.ok first) (.ok second) := by
  intro result isResult
  exact ⟨second, rfl, Except.ok.inj isResult ▸ same⟩

theorem map (mirrors : Mirrors related leading following) {change : First → Third}
    {other : Second → Fourth}
    (preserves : ∀ first second, related first second → changed (change first) (other second)) :
    Mirrors changed (leading.map change) (following.map other) := by
  intro result isResult
  cases leading with
  | error failure => cases isResult
  | ok first =>
      obtain ⟨second, rfl, same⟩ := mirrors first rfl
      exact ⟨other second, rfl, Except.ok.inj isResult ▸ preserves first second same⟩

theorem bind (mirrors : Mirrors related leading following)
    {rest : First → Except RequestError Third} {others : Second → Except RequestError Fourth}
    (restMirrors : ∀ first second, related first second →
      Mirrors changed (rest first) (others second)) :
    Mirrors changed (leading.bind rest) (following.bind others) := by
  intro result isResult
  cases leading with
  | error failure => cases isResult
  | ok first =>
      obtain ⟨second, rfl, same⟩ := mirrors first rfl
      exact restMirrors first second same result isResult

theorem fails (mirrors : Mirrors related leading following) (failed : Fails following) :
    Fails leading := by
  cases leading with
  | error failure => exact fails_error failure
  | ok first =>
      obtain ⟨second, rfl, _⟩ := mirrors first rfl
      exact absurd failed (not_fails_ok second)

end Mirrors

/-- A caller who is not trusted has something compiled only if a trusted one has the same with
names written out; so whatever is refused to the latter is refused to the former. -/
structure Agrees {First : Type} (isWrittenOut : First → First → Prop)
    (untrusted trusted : Except RequestError First) : Prop where
  compiles : ∀ result, untrusted = .ok result →
    ∃ written, trusted = .ok written ∧ isWrittenOut result written
  fails : Fails trusted → Fails untrusted

theorem Mirrors.agrees {First : Type} {related isWrittenOut : First → First → Prop}
    {untrusted trusted : Except RequestError First} (mirrors : Mirrors related untrusted trusted)
    (writes : ∀ first second, related first second → isWrittenOut first second) :
    Agrees isWrittenOut untrusted trusted where
  compiles := by
    intro result isResult
    obtain ⟨written, isWritten, same⟩ := mirrors result isResult
    exact ⟨written, isWritten, writes result written same⟩
  fails := mirrors.fails

namespace Compiler

variable {maximumDepth : Nat} {template written : Fragment}

/-- The compiler for callers who are not trusted, and the one for those who are. -/
def untrusted (maximumDepth : Nat) : Compiler := ⟨false, maximumDepth⟩

def trusted (maximumDepth : Nat) : Compiler := ⟨true, maximumDepth⟩

/-! ## Leaves -/

theorem fills_columnReference (name : String) :
    Fragment.Fills ((untrusted maximumDepth).columnReference name)
      ((trusted maximumDepth).columnReference name) :=
  ⟨.name name, rfl⟩

theorem mirrors_compareSingle (fills : Fragment.Fills template written) {operator : String}
    (plain : '?' ∉ operator.toList) (values : List (Option String)) :
    Mirrors Fragment.Fills ((untrusted maximumDepth).compareSingle template operator values)
      ((trusted maximumDepth).compareSingle written operator values) := by
  rw [compareSingle, compareSingle]
  cases values.head?.join.bind literal? with
  | some literal =>
      -- A literal is refused to the untrusted caller, so there is nothing to mirror.
      intro result isResult
      cases isResult
  | none =>
      refine .ok (fills.followedBy ?_ ?_ ?_)
      · have marked : FillsText ((' ' :: operator.toList ++ [' ']) ++ '?' :: []) [] _ :=
          .marked (by simpa using plain) (by simp) (by simp)
        simpa using marked
      · simp
      · simp [Parameter.name?]

theorem mirrors_compare (fills : Fragment.Fills template written) (comparator : Comparator)
    (values : List (Option String)) :
    Mirrors (Option.Rel Fragment.Fills)
      ((untrusted maximumDepth).compare comparator template values)
      ((trusted maximumDepth).compare comparator written values) := by
  have fixed {text : String} {parameters : List Parameter}
      (behind : FillsText text.toList [] text.toList) (apart : text.toList.head? ≠ some 'n')
      (bound : ∀ parameter ∈ parameters, parameter.name? = none) :
      Mirrors (Option.Rel Fragment.Fills) (.ok (some (template.followedBy text parameters)))
        (.ok (some (written.followedBy text parameters))) :=
    .ok (.some (fills.followedBy behind apart bound))
  have single {operator : String} (plain : '?' ∉ operator.toList) :
      Mirrors (Option.Rel Fragment.Fills)
        (((untrusted maximumDepth).compareSingle template operator values).map some)
        (((trusted maximumDepth).compareSingle written operator values).map some) :=
    (mirrors_compareSingle fills plain values).map fun _ _ => .some
  have listed {word : String} (plain : '?' ∉ word.toList) (values : List Value) :
      Mirrors (Option.Rel Fragment.Fills)
        (.ok (some (template.followedBy (" " ++ word ++ " (?)") [.list values])))
        (.ok (some (written.followedBy (" " ++ word ++ " (?)") [.list values]))) := by
    refine fixed ?_ (by simp) (by simp [Parameter.name?])
    have marked : FillsText ((' ' :: word.toList ++ [' ', '(']) ++ '?' :: [')']) [] _ :=
      .marked (by simpa using plain) (by simp) (by simp)
    simpa using marked
  cases comparator with
  | isIn => exact listed (by decide : '?' ∉ "IN".toList) _
  | notIn =>
      rw [compare, compare]
      cases (excludedValues values).isEmpty with
      | true => exact .ok .none
      | false => exact listed (by decide : '?' ∉ "NOT IN".toList) _
  | null => exact fixed (.fixed (by decide)) (by decide) (by simp)
  | notNull => exact fixed (.fixed (by decide)) (by decide) (by simp)
  | equal | notEqual | lessThan | lessThanEqual | moreThan | moreThanEqual | like | notLike =>
      exact single (by decide)

theorem mirrors_leafOf (column comparator : Option String) (values : List (Option String)) :
    Mirrors (Option.Rel Fragment.Fills)
      ((untrusted maximumDepth).leafOf column comparator values)
      ((trusted maximumDepth).leafOf column comparator values) := by
  cases column with
  | none => exact .ok .none
  | some column =>
      change Mirrors _ (Except.bind _ _) (Except.bind _ _)
      have same : Mirrors Eq (comparatorOf comparator) (comparatorOf comparator) :=
        fun known found => ⟨known, found, rfl⟩
      refine same.bind ?_
      rintro known _ rfl
      exact mirrors_compare (fills_columnReference column) known values

/-! ## Trees -/

variable {templates all : List (Option Fragment)}

theorem rel_joinSiblings {connective : String} (plain : '?' ∉ connective.toList)
    (fill : List.Forall₂ (Option.Rel Fragment.Fills) templates all) :
    Option.Rel Fragment.Fills (joinSiblings connective templates)
      (joinSiblings connective all) := by
  have separates : Fragment.Fills.Separates (" " ++ connective ++ " ") :=
    ⟨by simpa using plain, ' ', connective.toList ++ [' '], by simp, by decide⟩
  exact Fragment.Fills.join? separates (List.rel_filterMap (fun _ _ fills => fills) fill)

private theorem separates_and : Fragment.Fills.Separates " AND " :=
  ⟨by decide, ' ', "AND ".toList, rfl, by decide⟩

theorem rel_joinNested {first second other filled : Option Fragment}
    (both : Option.Rel Fragment.Fills first second)
    (others : Option.Rel Fragment.Fills other filled) :
    Option.Rel Fragment.Fills (joinNested first other) (joinNested second filled) := by
  refine Fragment.Fills.join? separates_and ?_
  cases both with
  | none =>
      cases others with
      | none => exact .nil
      | some fills => exact .cons fills.enclosed .nil
  | some bothFill =>
      cases others with
      | none => exact .cons bothFill.enclosed .nil
      | some fills => exact .cons bothFill.enclosed (.cons fills.enclosed .nil)

theorem rel_joinLists {first second other filled : Option Fragment}
    (both : Option.Rel Fragment.Fills first second)
    (others : Option.Rel Fragment.Fills other filled) :
    Option.Rel Fragment.Fills (joinLists first other) (joinLists second filled) := by
  cases both with
  | none => exact others
  | some bothFill =>
      cases others with
      | none => exact .some bothFill
      | some fills => exact .some (.append separates_and bothFill.enclosed fills.enclosed)

theorem mirrors_combine (depth : Nat) (isLeaf : Bool)
    {leaf otherLeaf : Except RequestError (Option Fragment)}
    {first second other filled : Except RequestError (List (Option Fragment))}
    (leafMirrors : Mirrors (Option.Rel Fragment.Fills) leaf otherLeaf)
    (allMirrors : Mirrors (List.Forall₂ (Option.Rel Fragment.Fills)) first second)
    (anyMirrors : Mirrors (List.Forall₂ (Option.Rel Fragment.Fills)) other filled) :
    Mirrors (Option.Rel Fragment.Fills)
      ((untrusted maximumDepth).combine depth isLeaf leaf first other)
      ((trusted maximumDepth).combine depth isLeaf otherLeaf second filled) := by
  intro result compiled
  rcases combine_eq_ok_iff.mp compiled with
    ⟨leafy, isResult⟩ | ⟨grouped, shallow, alls, anys, isAll, isAny, rfl⟩
  · obtain ⟨written, isWritten, fills⟩ := leafMirrors result isResult
    exact ⟨written, combine_eq_ok_iff.mpr (Or.inl ⟨leafy, isWritten⟩), fills⟩
  · obtain ⟨allsWritten, isAllWritten, allFill⟩ := allMirrors alls isAll
    obtain ⟨anysWritten, isAnyWritten, anyFill⟩ := anyMirrors anys isAny
    refine ⟨_, combine_eq_ok_iff.mpr (Or.inr ⟨grouped, shallow, allsWritten, anysWritten,
      isAllWritten, isAnyWritten, rfl⟩), ?_⟩
    exact rel_joinNested (rel_joinSiblings (by decide) allFill)
      (rel_joinSiblings (by decide) anyFill)

mutual

theorem mirrors_entry (maximumDepth : Nat) (clause : Clause) (depth : Nat) :
    ∀ condition : Condition, Mirrors (Option.Rel Fragment.Fills)
      ((untrusted maximumDepth).entry clause depth condition)
      ((trusted maximumDepth).entry clause depth condition)
  | ⟨column, comparator, values, rowAll, rowAny, groupAll, groupAny⟩ => by
      have leafMirrors : Mirrors (Option.Rel Fragment.Fills)
          ((untrusted maximumDepth).leafOf column comparator values)
          ((trusted maximumDepth).leafOf column comparator values) :=
        mirrors_leafOf column comparator values
      cases clause with
      | row =>
          exact mirrors_combine depth _ leafMirrors
            (mirrors_entries maximumDepth .row (depth + 1) rowAll)
            (mirrors_entries maximumDepth .row (depth + 1) rowAny)
      | group =>
          exact mirrors_combine depth _ leafMirrors
            (mirrors_entries maximumDepth .group (depth + 1) groupAll)
            (mirrors_entries maximumDepth .group (depth + 1) groupAny)

theorem mirrors_entries (maximumDepth : Nat) (clause : Clause) (depth : Nat) :
    ∀ conditions : List Condition, Mirrors (List.Forall₂ (Option.Rel Fragment.Fills))
      ((untrusted maximumDepth).entries clause depth conditions)
      ((trusted maximumDepth).entries clause depth conditions)
  | [] => .ok .nil
  | first :: rest =>
      (mirrors_entry maximumDepth clause depth first).bind fun _ _ head =>
        (mirrors_entries maximumDepth clause depth rest).bind fun _ _ tail => .ok (.cons head tail)

end

theorem mirrors_list (clause : Clause) {connective : String} (plain : '?' ∉ connective.toList)
    (depth : Nat) (conditions : List Condition) :
    Mirrors (Option.Rel Fragment.Fills)
      ((untrusted maximumDepth).list clause connective depth conditions)
      ((trusted maximumDepth).list clause connective depth conditions) := by
  change Mirrors _ (if maximumDepth < depth then _ else _) (if maximumDepth < depth then _ else _)
  split
  · intro result isResult
    cases isResult
  · exact (mirrors_entries maximumDepth clause depth conditions).map
      fun _ _ fill => rel_joinSiblings plain fill

theorem mirrors_clause (clause : Clause) (all any : List Condition) :
    Mirrors (Option.Rel Fragment.Fills) ((untrusted maximumDepth).clause clause all any)
      ((trusted maximumDepth).clause clause all any) :=
  (mirrors_list clause (by decide) 0 all).bind fun _ _ allFill =>
    (mirrors_list clause (by decide) 0 any).bind fun _ _ anyFill =>
      .ok (rel_joinLists allFill anyFill)

theorem rel_grouping (columns : List (Option String)) :
    Option.Rel Fragment.Fills ((untrusted maximumDepth).grouping columns)
      ((trusted maximumDepth).grouping columns) := by
  refine Fragment.Fills.join? ⟨by decide, ',', [' '], rfl, by decide⟩ ?_
  rw [List.forall₂_map_left_iff, List.forall₂_map_right_iff, List.forall₂_same]
  exact fun name _ => fills_columnReference name

end Compiler

/-! ## Calls -/

/-- A call whose fragment, if it has one, has its names written out. -/
inductive Narrowing.IsWrittenOut : Narrowing → Narrowing → Prop
  | limit (limit offset : Option Int64) : IsWrittenOut (.limit limit offset) (.limit limit offset)
  | orderRandom : IsWrittenOut .orderRandom .orderRandom
  | order {template written : Fragment} :
      template.IsWrittenOut written → IsWrittenOut (.order template) (.order written)
  | filter {template written : Fragment} :
      template.IsWrittenOut written → IsWrittenOut (.filter template) (.filter written)
  | having {template written : Fragment} :
      template.IsWrittenOut written → IsWrittenOut (.having template) (.having written)
  | group {template written : Fragment} :
      template.IsWrittenOut written → IsWrittenOut (.group template) (.group written)

namespace Compiler

variable {maximumDepth : Nat}

theorem orderCall?_isWrittenOut (item : OrderBy) :
    Option.Rel Narrowing.IsWrittenOut ((untrusted maximumDepth).orderCall? item)
      ((trusted maximumDepth).orderCall? item) := by
  have ordered (key : String) (direction : Direction) :
      Narrowing.IsWrittenOut
        (.order (((untrusted maximumDepth).columnReference key).followedBy
          (" " ++ direction.keyword) []))
        (.order (((trusted maximumDepth).columnReference key).followedBy
          (" " ++ direction.keyword) [])) := by
    have plain : '?' ∉ (" " ++ direction.keyword).toList := by cases direction <;> decide
    exact .order ((fills_columnReference key).followedBy (.fixed plain) (by simp)
      (by simp)).isWrittenOut
  unfold orderCall?
  cases item.direction.getD .ascending with
  | random => exact .some .orderRandom
  | ascending | descending =>
      cases item.key with
      | none => exact .none
      | some key => exact .some (ordered key _)

theorem orderCalls_isWrittenOut (order : List OrderBy) :
    List.Forall₂ Narrowing.IsWrittenOut ((untrusted maximumDepth).orderCalls order)
      ((trusted maximumDepth).orderCalls order) := by
  have same : List.Forall₂ Eq order order := List.forall₂_refl order
  refine List.rel_filterMap ?_ same
  rintro item _ rfl
  exact orderCall?_isWrittenOut item

private theorem toList_isWrittenOut {call : Fragment → Narrowing}
    (keeps : ∀ template written : Fragment,
      template.IsWrittenOut written → (call template).IsWrittenOut (call written))
    {template written : Option Fragment} (fills : Option.Rel Fragment.Fills template written) :
    List.Forall₂ Narrowing.IsWrittenOut (template.map call).toList (written.map call).toList := by
  cases fills with
  | none => exact .nil
  | some fills => exact .cons (keeps _ _ fills.isWrittenOut) .nil

theorem mirrors_argumentCalls (arguments : Arguments) :
    Mirrors (List.Forall₂ Narrowing.IsWrittenOut)
      ((untrusted maximumDepth).argumentCalls arguments)
      ((trusted maximumDepth).argumentCalls arguments) := by
  have conditionCalls : Mirrors (List.Forall₂ Narrowing.IsWrittenOut)
      ((untrusted maximumDepth).conditionCalls arguments.conditions)
      ((trusted maximumDepth).conditionCalls arguments.conditions) :=
    (mirrors_clause .row _ _).bind fun _ _ filterFills =>
      (mirrors_clause .group _ _).bind fun _ _ havingFills =>
        .ok (List.rel_append (List.rel_append
          (toList_isWrittenOut (fun _ _ => .filter) filterFills)
          (toList_isWrittenOut (fun _ _ => .group) (rel_grouping _)))
          (toList_isWrittenOut (fun _ _ => .having) havingFills))
  have page : List.Forall₂ Narrowing.IsWrittenOut (paginationCalls arguments.pagination)
      (paginationCalls arguments.pagination) := by
    cases arguments.pagination with
    | none => exact .nil
    | some page => exact .cons (.limit page.limit page.offset) .nil
  exact conditionCalls.map fun _ _ calls =>
    List.rel_append (List.rel_append calls (orderCalls_isWrittenOut arguments.order)) page

/-- The two kinds of callers differ in how columns are written, and in nothing else. -/
theorem trusted_agrees (maximumDepth : Nat) :
    (∀ clause all any, Agrees (Option.Rel Fragment.IsWrittenOut)
      ((untrusted maximumDepth).clause clause all any)
      ((trusted maximumDepth).clause clause all any)) ∧
    (∀ clause connective depth conditions, '?' ∉ connective.toList →
      Agrees (Option.Rel Fragment.IsWrittenOut)
        ((untrusted maximumDepth).list clause connective depth conditions)
        ((trusted maximumDepth).list clause connective depth conditions)) ∧
    (∀ columns, Option.Rel Fragment.IsWrittenOut ((untrusted maximumDepth).grouping columns)
      ((trusted maximumDepth).grouping columns)) ∧
    (∀ order, List.Forall₂ Narrowing.IsWrittenOut ((untrusted maximumDepth).orderCalls order)
      ((trusted maximumDepth).orderCalls order)) ∧
    ∀ arguments, Agrees (List.Forall₂ Narrowing.IsWrittenOut)
      ((untrusted maximumDepth).argumentCalls arguments)
      ((trusted maximumDepth).argumentCalls arguments) := by
  have writtenOut {template written : Option Fragment}
      (fills : Option.Rel Fragment.Fills template written) :
      Option.Rel Fragment.IsWrittenOut template written := by
    cases fills with
    | none => exact .none
    | some fills => exact .some fills.isWrittenOut
  refine ⟨fun clause all any => ?_, fun clause connective depth conditions plain => ?_,
    fun columns => writtenOut (rel_grouping columns), orderCalls_isWrittenOut,
    fun arguments => ?_⟩
  · exact (mirrors_clause clause all any).agrees fun _ _ => writtenOut
  · exact (mirrors_list clause plain depth conditions).agrees fun _ _ => writtenOut
  · exact (mirrors_argumentCalls arguments).agrees fun _ _ calls => calls

private def dearOrNameless : List Condition :=
  [⟨none, none, [], [],
    [⟨some "price", some "MORE_THAN", [some "10"], [], [], [], []⟩,
      ⟨some "name", some "NULL", [], [], [], [], []⟩], [], []⟩]

/-- Both kinds of callers ask for dear products and those without a name. -/
theorem trusted_agrees_dearOrNameless :
    (untrusted 1).list .row Connective.all 0 dearOrNameless =
        .ok (some ⟨"(?name > ? OR ?name IS NULL)",
          [.identifier "price", .value (.integer 10), .identifier "name"]⟩) ∧
      (trusted 1).list .row Connective.all 0 dearOrNameless =
        .ok (some ⟨"(price > ? OR name IS NULL)", [.value (.integer 10)]⟩) ∧
      Agrees (Option.Rel Fragment.IsWrittenOut)
        ((untrusted 1).list .row Connective.all 0 dearOrNameless)
        ((trusted 1).list .row Connective.all 0 dearOrNameless) :=
  ⟨rfl, rfl, (trusted_agrees 1).2.1 .row Connective.all 0 dearOrNameless (by decide)⟩

end Compiler

end TableGraph
