import TableGraph.Proofs.Selection.ListedColumns

/-!
# Regular tokens

The parts of a statement are put together from its end: in front of tokens that an operand
may begin with stand names, tests of columns, keywords and separators, and the tokens stay
regular (`Query.Prolongs`).  Only the keywords of a list ask for what is read behind them.
-/

namespace TableGraph

open SqlToken (NamesIn StartsOperand OrderlyAt openers)

namespace Query

/-- Regular tokens that an operand may begin with. -/
structure Opens (named : String → Prop) (tokens : List SqlToken) : Prop
    extends Regular named tokens where
  starts : StartsOperand tokens

variable {named : String → Prop} {token : SqlToken} {rest : List SqlToken} {text : String}

namespace Regular

theorem nil : Regular named [] where
  orderly := trivial
  names _ member := absurd member List.not_mem_nil
  groups within skipped := by
    obtain rfl := List.suffix_nil.mp within
    cases skipped
  orders within skipped := by
    obtain rfl := List.suffix_nil.mp within
    cases skipped

theorem cons (regular : Regular named rest) (orderly : OrderlyAt token rest)
    (isNamed : ∀ name, token = .name name → named name)
    (groups : ∀ {behind}, skipKeywords? ["GROUP", "BY"] (token :: rest) = some behind →
      ∀ {fuel groups last}, readExpressions fuel behind = some (groups, last) →
        ∀ group ∈ groups, ¬ group.IsNumber)
    (orders : ∀ {behind}, skipKeywords? ["ORDER", "BY"] (token :: rest) = some behind →
      ∀ {fuel orders last}, readOrders fuel behind = some (orders, last) →
        ∀ order ∈ orders, ¬ order.expression.IsNumber) : Regular named (token :: rest) where
  orderly := ⟨orderly, regular.orderly⟩
  names name member := by
    rcases List.mem_cons.mp member with same | isLater
    · exact isNamed name same.symm
    · exact regular.names name isLater
  groups within skipped := by
    rcases List.suffix_cons_iff.mp within with rfl | isLater
    · exact groups skipped
    · exact regular.groups isLater skipped
  orders within skipped := by
    rcases List.suffix_cons_iff.mp within with rfl | isLater
    · exact orders skipped
    · exact regular.orders isLater skipped

theorem cons_plain (regular : Regular named rest) (orderly : OrderlyAt token rest)
    (isNamed : ∀ name, token = .name name → named name)
    (noList : token.keyword? ≠ some "GROUP" ∧ token.keyword? ≠ some "ORDER") :
    Regular named (token :: rest) := by
  refine regular.cons orderly isNamed (fun skipped => ?_) fun skipped => ?_
  · rw [skipKeywords?, if_neg (mt SqlToken.isKeyword_iff.mp noList.1)] at skipped
    cases skipped
  · rw [skipKeywords?, if_neg (mt SqlToken.isKeyword_iff.mp noList.2)] at skipped
    cases skipped

theorem name (regular : Regular named rest) (isNamed : named text) :
    Opens named (.name text :: rest) where
  toRegular := regular.cons_plain trivial (fun _ same => SqlToken.name.inj same ▸ isNamed)
    ⟨nofun, nofun⟩
  starts := trivial

theorem literal (regular : Regular named rest) (value : Cell) :
    Opens named (.literal value :: rest) where
  toRegular := regular.cons_plain trivial (fun _ => nofun) ⟨nofun, nofun⟩
  starts := trivial

theorem word (regular : Regular named rest) (orderly : OrderlyAt (.word text) rest)
    (noList : SqlToken.upperCase text ∉ ["GROUP", "ORDER"]) :
    Regular named (.word text :: rest) := by
  refine regular.cons_plain orderly (fun _ => nofun) ⟨fun same => noList ?_, fun same => noList ?_⟩
  · rw [Option.some.inj same]
    decide
  · rw [Option.some.inj same]
    decide

end Regular

namespace Opens

theorem nil : Opens named [] := ⟨Regular.nil, trivial⟩

theorem symbol (opens : Opens named rest) (text : String) (noDot : text ≠ ".") :
    Opens named (.symbol text :: rest) where
  toRegular := by
    refine opens.toRegular.cons_plain ?_ (fun _ => nofun) ⟨nofun, nofun⟩
    rw [OrderlyAt, if_neg noDot]
    exact opens.starts
  starts := trivial

theorem behindWord (opens : Opens named rest) (text : String)
    (plain : SqlToken.upperCase text ∉ ["IS", "GROUP", "ORDER"]) :
    Regular named (.word text :: rest) := by
  have notIs : SqlToken.upperCase text ≠ "IS" := fun isIs => plain (isIs ▸ List.mem_cons_self)
  refine opens.toRegular.word ?_ fun isList => plain (List.mem_cons_of_mem _ isList)
  rw [OrderlyAt, if_neg notIs]
  exact fun _ => opens.starts

theorem word (opens : Opens named rest) (text : String)
    (plain : SqlToken.upperCase text ∉ ["NOT", "IS", "GROUP", "ORDER"])
    (noName : (SqlToken.word text).name? = none) : Opens named (.word text :: rest) where
  toRegular := opens.behindWord text fun among => plain (List.mem_cons_of_mem _ among)
  starts := ⟨fun isNot => plain (isNot ▸ List.mem_cons_self), Or.inl noName⟩

end Opens

/-! ## Parts -/

/-- Tokens that may stand in front of others without changing what they are. -/
def Prolongs (named : String → Prop) (part : List SqlToken) : Prop :=
  ∀ rest, Opens named rest → Opens named (part ++ rest)

namespace Prolongs

variable {first second : List SqlToken}

theorem nil : Prolongs named [] := fun _ opens => opens

theorem append (prolongs : Prolongs named first) (others : Prolongs named second) :
    Prolongs named (first ++ second) := by
  intro rest opens
  rw [List.append_assoc]
  exact prolongs _ (others rest opens)

theorem flatten {parts : List (List SqlToken)} (prolong : ∀ part ∈ parts, Prolongs named part) :
    Prolongs named parts.flatten := by
  induction parts with
  | nil => exact nil
  | cons head tail inductionHypothesis =>
      rw [List.flatten_cons]
      obtain ⟨own, others⟩ := List.forall_mem_cons.mp prolong
      exact own.append (inductionHypothesis others)

theorem symbol (text : String) (noDot : text ≠ ".") : Prolongs named [.symbol text] :=
  fun _ opens => opens.symbol text noDot

theorem word (text : String) (plain : SqlToken.upperCase text ∉ ["NOT", "IS", "GROUP", "ORDER"])
    (noName : (SqlToken.word text).name? = none) : Prolongs named [.word text] :=
  fun _ opens => opens.word text plain noName

theorem literal (value : Cell) : Prolongs named [.literal value] :=
  fun _ opens => opens.toRegular.literal value

end Prolongs

end Query

/-- A name all of whose parts are of a kind. -/
def PartsIn (named : String → Prop) (name : String) : Prop :=
  ∀ part ∈ Identifier.parts name.toList, named (String.ofList part)

namespace Query

theorem Regular.nameTokens (regular : Regular named rest) {name : String}
    (isNamed : PartsIn named name) : Opens named (Lexeme.nameTokens name ++ rest) := by
  have opensParts :
      ∀ parts : List (List Char), parts ≠ [] → (∀ part ∈ parts, named (String.ofList part)) →
        Opens named ((parts.map fun part => SqlToken.name (String.ofList part)).intersperse
          (.symbol ".") ++ rest) := by
    intro parts present
    induction parts with
    | nil => exact absurd rfl present
    | cons first others inductionHypothesis =>
        intro areNamed
        obtain ⟨own, later⟩ := List.forall_mem_cons.mp areNamed
        cases others with
        | nil => exact regular.name own
        | cons second others =>
            have opens := inductionHypothesis (by simp) later
            have dotted : Regular named (.symbol "." :: _) :=
              opens.toRegular.cons_plain (by cases others <;> simp [OrderlyAt]) (fun _ => nofun)
                ⟨nofun, nofun⟩
            exact dotted.name own
  exact opensParts _ (Identifier.parts_ne_nil _) isNamed

namespace Prolongs

theorem nameTokens {name : String} (isNamed : PartsIn named name) :
    Prolongs named (Lexeme.nameTokens name) := fun _ opens => opens.toRegular.nameTokens isNamed

theorem listTokens (values : List Value) : Prolongs named (Parameter.listTokens values) := by
  induction values using Parameter.listTokens.induct with
  | case1 => exact Prolongs.word "NULL" (by decide +kernel) (by decide +kernel)
  | case2 only => exact Prolongs.literal _
  | case3 first rest notEmpty inductionHypothesis =>
      obtain ⟨second, others, rfl⟩ := List.exists_cons_of_ne_nil notEmpty
      exact (Prolongs.literal _).append ((Prolongs.symbol "," (by decide)).append inductionHypothesis)

end Prolongs

/-! ## Conditions -/

/-- A test of a column prolongs what stands behind it. -/
theorem Prolongs.comparison (comparison : LeafComparison)
    (isNamed : PartsIn named comparison.column) : Prolongs named comparison.boundTokens := by
  intro rest opens
  rw [LeafComparison.boundTokens_eq, List.append_assoc]
  refine Regular.nameTokens ?_ isNamed
  have single (value : Cell) : Opens named (.literal value :: rest) :=
    opens.toRegular.literal value
  have listed (values : List Value) :
      Opens named (.symbol "(" :: Parameter.listTokens values ++ .symbol ")" :: rest) :=
    (Prolongs.listTokens values _ (opens.symbol ")" (by decide))).symbol "(" (by decide)
  have like (value : Cell) : Regular named (.word "LIKE" :: .literal value :: rest) :=
    (single value).behindWord "LIKE" (by decide +kernel)
  have among (values : List Value) :
      Regular named (.word "IN" :: .symbol "(" :: Parameter.listTokens values ++
        .symbol ")" :: rest) :=
    (listed values).behindWord "IN" (by decide +kernel)
  have null : Opens named (.word "NULL" :: rest) :=
    opens.word "NULL" (by decide +kernel) (by decide +kernel)
  have negated {tokens : List SqlToken} (regular : Regular named tokens) :
      Regular named (.word "NOT" :: tokens) := by
    refine regular.word ?_ (by decide +kernel)
    rw [OrderlyAt, if_neg (by decide +kernel)]
    exact fun opens => absurd opens (by decide +kernel)
  obtain ⟨column, comparator, values⟩ := comparison
  cases comparator with
  | equal | notEqual | lessThan | lessThanEqual | moreThan | moreThanEqual =>
      exact ((single _).symbol _ (by decide)).toRegular
  | like => exact like _
  | notLike => exact negated (like _)
  | isIn =>
      have written := among (LeafComparison.listed ⟨column, .isIn, values⟩)
      simpa [Comparator.pieces, FixedLexeme.tokens, Keyword.characters, LeafComparison.valueSlots,
        Slot.boundTokens, Parameter.boundTokens] using written
  | notIn =>
      have written := negated (among (LeafComparison.listed ⟨column, .notIn, values⟩))
      simpa [Comparator.pieces, FixedLexeme.tokens, Keyword.characters, LeafComparison.valueSlots,
        Slot.boundTokens, Parameter.boundTokens] using written
  | null =>
      refine null.toRegular.word ?_ (by decide +kernel)
      rw [OrderlyAt, if_pos (by decide +kernel)]
      exact null.starts
  | notNull =>
      refine (negated null.toRegular).word ?_ (by decide +kernel)
      rw [OrderlyAt, if_pos (by decide +kernel)]
      exact null.starts

/-- The symbols of a condition prolong what stands behind them. -/
theorem Prolongs.condition (symbols : List (ConditionSymbol LeafComparison))
    (areNamed : ∀ comparison ∈ ConditionSymbol.atoms symbols, PartsIn named comparison.column) :
    Prolongs named
      ((symbols.map (ConditionSymbol.map LeafComparison.boundTokens)).flatMap
        ConditionSymbol.tokens) := by
  induction symbols with
  | nil => exact Prolongs.nil
  | cons symbol symbols inductionHypothesis =>
      rw [ConditionSymbol.atoms_cons] at areNamed
      have later := inductionHypothesis fun comparison member =>
        areNamed comparison (List.mem_append_right _ member)
      rw [List.map_cons, List.flatMap_cons]
      refine Prolongs.append ?_ later
      cases symbol with
      | opening => exact Prolongs.symbol "(" (by decide)
      | closing => exact Prolongs.symbol ")" (by decide)
      | all => exact Prolongs.word "AND" (by decide +kernel) (by decide +kernel)
      | any => exact Prolongs.word "OR" (by decide +kernel) (by decide +kernel)
      | atom comparison =>
          exact Prolongs.comparison comparison
            (areNamed comparison (List.mem_append_left _ (List.mem_singleton.mpr rfl)))

/-! ## Lists -/

theorem Prolongs.separated {parts : List (List SqlToken)}
    (prolong : ∀ part ∈ parts, Prolongs named part) : Prolongs named (separated parts) := by
  induction parts with
  | nil => exact Prolongs.nil
  | cons first others inductionHypothesis =>
      obtain ⟨own, later⟩ := List.forall_mem_cons.mp prolong
      cases others with
      | nil =>
          rw [separated_singleton]
          exact own
      | cons second others =>
          rw [separated_cons]
          exact own.append ((Prolongs.symbol "," (by decide)).append (inductionHypothesis later))

section

variable {listed : List SqlToken}

/-- A list behind `GROUP BY` whose terms are no numbers. -/
theorem Opens.groupBy (opens : Opens named listed)
    (noNumbers : ∀ {fuel groups last}, readExpressions fuel listed = some (groups, last) →
      ∀ group ∈ groups, ¬ group.IsNumber) :
    Opens named (.word "GROUP" :: .word "BY" :: listed) where
  toRegular := by
    have along := opens.behindWord "BY" (by decide +kernel)
    refine along.cons ?_ (fun _ => nofun) (fun skipped => ?_) fun skipped => ?_
    · rw [OrderlyAt, if_neg (by decide +kernel)]
      exact fun isOpener => absurd isOpener (by decide +kernel)
    · cases skipped
      exact noNumbers
    · cases skipped
  starts := ⟨by decide +kernel, Or.inl (by decide +kernel)⟩

/-- A list behind `ORDER BY` whose terms are no numbers. -/
theorem Opens.orderBy (opens : Opens named listed)
    (noNumbers : ∀ {fuel orders last}, readOrders fuel listed = some (orders, last) →
      ∀ order ∈ orders, ¬ order.expression.IsNumber) :
    Opens named (.word "ORDER" :: .word "BY" :: listed) where
  toRegular := by
    have along := opens.behindWord "BY" (by decide +kernel)
    refine along.cons ?_ (fun _ => nofun) (fun skipped => ?_) fun skipped => ?_
    · rw [OrderlyAt, if_neg (by decide +kernel)]
      exact fun isOpener => absurd isOpener (by decide +kernel)
    · cases skipped
    · cases skipped
      exact noNumbers
  starts := ⟨by decide +kernel, Or.inl (by decide +kernel)⟩

end

end Query

end TableGraph
