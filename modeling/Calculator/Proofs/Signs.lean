import Calculator.Proofs.Layouts
import Calculator.Proofs.PostOrder
import Calculator.Proofs.Precedence

/-!
# Expressions without a minus

Numbers are written without a sign, and only a difference makes a negative number of two that are
not negative. So no value in the evaluation of an expression without a minus is negative, be it a
negative zero or the negative infinity. This is shown for the machine with guarded arithmetic,
whatever that arithmetic is, if its sums, products, quotients and powers keep to the rule, and with
it for expressions.
-/

namespace Calculator

/-! ## Signs of operations -/

namespace Double

variable {x y : Double}

/-- A rounded quotient has the sign that it is given. -/
theorem isNegative_ofQuotient (negative : Bool) (numerator denominator : Nat) :
    (ofQuotient negative numerator denominator).isNegative = negative := by
  unfold ofQuotient
  cases Magnitude.nearest? numerator denominator <;> rfl

/-- The sum of numbers that are not negative is not negative. -/
theorem isNegative_add (left : x.isNegative = false) (right : y.isNegative = false) :
    (x.add y).isNegative = false := by
  cases x with
  | nan => rfl
  | infinite first =>
    obtain rfl : first = false := left
    cases y with
    | infinite second =>
      obtain rfl : second = false := right
      rfl
    | _ => rfl
  | finite first m =>
    obtain rfl : first = false := left
    cases y with
    | nan => rfl
    | infinite second => exact right
    | finite second n =>
      obtain rfl : second = false := right
      have atLeast : ¬signedUnits false m + signedUnits false n < 0 := by
        simp only [signedUnits, Bool.false_eq_true, if_false]
        omega
      simp only [add]
      split
      · rfl
      · rw [ofSignedUnits, isNegative_ofQuotient, decide_eq_false atLeast]

/-- The product of numbers that are not negative is not negative. -/
theorem isNegative_mul (left : x.isNegative = false) (right : y.isNegative = false) :
    (x.mul y).isNegative = false := by
  cases x with
  | nan => rfl
  | infinite first =>
    obtain rfl : first = false := left
    cases y with
    | nan => rfl
    | infinite second =>
      obtain rfl : second = false := right
      rfl
    | finite second n =>
      obtain rfl : second = false := right
      simp only [mul]
      split <;> rfl
  | finite first m =>
    obtain rfl : first = false := left
    cases y with
    | nan => rfl
    | infinite second =>
      obtain rfl : second = false := right
      simp only [mul]
      split <;> rfl
    | finite second n =>
      obtain rfl : second = false := right
      exact isNegative_ofQuotient _ _ _

/-- The quotient of numbers that are not negative is not negative. -/
theorem isNegative_div (left : x.isNegative = false) (right : y.isNegative = false) :
    (x.div y).isNegative = false := by
  cases x with
  | nan => rfl
  | infinite first =>
    obtain rfl : first = false := left
    cases y with
    | finite second n =>
      obtain rfl : second = false := right
      rfl
    | _ => rfl
  | finite first m =>
    obtain rfl : first = false := left
    cases y with
    | nan => rfl
    | infinite second =>
      obtain rfl : second = false := right
      rfl
    | finite second n =>
      obtain rfl : second = false := right
      simp only [div]
      split
      · split <;> rfl
      · exact isNegative_ofQuotient _ _ _

/-- The power of a base that is not negative is not negative. -/
theorem isNegative_power (base : x.isNegative = false) : (x.power y).isNegative = false := by
  unfold power
  split
  · rfl
  · cases x with
    | nan => rfl
    | infinite sign =>
      obtain rfl : sign = false := base
      cases y with
      | nan => rfl
      | infinite negative => cases negative <;> decide +kernel
      | finite reciprocal n => cases reciprocal <;> rfl
    | finite sign m =>
      obtain rfl : sign = false := base
      cases y with
      | nan =>
        simp only
        split <;> rfl
      | infinite negative =>
        simp only [infinitePower]
        split_ifs <;> rfl
      | finite reciprocal n =>
        simp only [Bool.false_and, Bool.false_eq_true, if_false]
        split
        · cases reciprocal <;> rfl
        · cases m.power n reciprocal <;> rfl

/-- The maximum is one of its operands or not a number. -/
theorem isNegative_maximum (left : x.isNegative = false) (right : y.isNegative = false) :
    (x.maximum y).isNegative = false := by
  unfold maximum
  split_ifs
  · rfl
  all_goals assumption

end Double

namespace Arithmetic

/-- Sums, products, quotients by what is not zero, and powers are not negative if the operands are
not. -/
structure KeepsSign (arithmetic : Arithmetic) : Prop where
  sum : ∀ {x y : Double}, x.isNegative = false → y.isNegative = false →
    (arithmetic.sum x y).isNegative = false
  product : ∀ {x y : Double}, x.isNegative = false → y.isNegative = false →
    (arithmetic.product x y).isNegative = false
  quotient : ∀ {x y value : Double}, x.isNegative = false → y.isNegative = false →
    y.isZero = false → arithmetic.quotient x y = .ok value → value.isNegative = false
  power : ∀ {x y value : Double}, x.isNegative = false → y.isNegative = false →
    arithmetic.power x y = .ok value → value.isNegative = false

namespace KeepsSign

variable {arithmetic : Arithmetic} {x y value : Double}

/-- The guarded quotient is not negative if the operands are not: a zero divisor has no sign to
give. -/
theorem guardedQuotient (rule : arithmetic.KeepsSign) (dividend : x.isNegative = false)
    (divisor : y.isNegative = false) (found : arithmetic.guardedQuotient x y = .ok value) :
    value.isNegative = false := by
  unfold Arithmetic.guardedQuotient at found
  split_ifs at found with isZero noNumber
  · obtain rfl := Except.ok.inj found
    rfl
  · obtain rfl := Except.ok.inj found
    rw [dividend, divisor]
    rfl
  · exact rule.quotient dividend divisor (by simpa using isZero) found

/-- The guarded power is not negative if the operands are not: neither the guards nor the handlers
give it a sign. -/
theorem guardedPower (rule : arithmetic.KeepsSign) (base : x.isNegative = false)
    (exponent : y.isNegative = false) (found : arithmetic.guardedPower x y = .ok value) :
    value.isNegative = false := by
  have notBelow : x.less (.zero false) = false := by rw [Double.less_zero, base, Bool.false_and]
  cases zeroBase : x.isZero && y.less (.zero false) with
  | true =>
    rw [arithmetic.guardedPower_of_zeroBase zeroBase, base] at found
    obtain rfl := Except.ok.inj found
    rfl
  | false =>
    cases unitBase : decide (x.abs = .one) && y.isInfinite with
    | true =>
      rw [arithmetic.guardedPower_of_unitBase zeroBase unitBase] at found
      obtain rfl := Except.ok.inj found
      rfl
    | false =>
      rw [arithmetic.guardedPower_of_regular zeroBase unitBase, notBelow] at found
      cases outcome : arithmetic.power x y with
      | ok result =>
        rw [outcome] at found
        obtain rfl := Except.ok.inj found
        exact rule.power base exponent outcome
      | error fault =>
        rw [outcome] at found
        cases fault with
        | overflow =>
          obtain rfl := Except.ok.inj found
          rfl
        | domain =>
          obtain rfl := Except.ok.inj found
          rfl
        | divisionByZero => cases found
        | notFinite => cases found

/-- No operator but the minus makes a negative number of two that are not negative. -/
theorem operation (rule : arithmetic.KeepsSign) {s : Symbol} (notMinus : s ≠ .minus)
    {operation : Double → Double → Except ArithmeticFault Double}
    (known : arithmetic.operations s.text = some operation) (left : x.isNegative = false)
    (right : y.isNegative = false) (found : operation x y = .ok value) :
    value.isNegative = false := by
  rw [operations, Symbol.ofText?_text, Option.bind_some] at known
  cases s with
  | maximum =>
    obtain rfl := Option.some.inj known
    obtain rfl := Except.ok.inj found
    exact Double.isNegative_maximum left right
  | plus =>
    obtain rfl := Option.some.inj known
    obtain rfl := Except.ok.inj found
    exact rule.sum left right
  | minus => exact absurd rfl notMinus
  | times =>
    obtain rfl := Option.some.inj known
    obtain rfl := Except.ok.inj found
    exact rule.product left right
  | divide =>
    obtain rfl := Option.some.inj known
    exact rule.guardedQuotient left right found
  | power =>
    obtain rfl := Option.some.inj known
    exact rule.guardedPower left right found
  | openParen => cases known
  | closeParen => cases known

end KeepsSign

/-- The arithmetic of IEEE 754 makes no signs of its own. -/
theorem standard_keepsSign : standard.KeepsSign where
  sum := Double.isNegative_add
  product := Double.isNegative_mul
  quotient := by
    intro x y value left right notZero found
    change (if y.isZero then .error _ else .ok (x.div y)) = Except.ok value at found
    rw [notZero, if_neg (by decide)] at found
    obtain rfl := Except.ok.inj found
    exact Double.isNegative_div left right
  power := by
    intro x y value base _ found
    obtain rfl | ⟨_, _, rfl⟩ := libraryPower_ok_cases found
    · exact Double.isNegative_power base
    · rfl

end Arithmetic

/-! ## Values of expressions -/

namespace Tree

/-- A tree is the last one of its subtrees. -/
theorem mem_postOrder_self (tree : Tree) : tree ∈ tree.postOrder := by
  cases tree <;> simp [postOrder]

/-- Every subtree of an expression without a minus has a value, and it is not negative. -/
theorem IsExpression.exists_value_not_negative {arithmetic : Arithmetic}
    (dependable : arithmetic.Dependable) (rule : arithmetic.KeepsSign) {tree : Tree}
    (expression : tree.IsExpression) (noMinus : .inr Symbol.minus.text ∉ tree.inOrder) :
    ∀ subtree ∈ tree.postOrder, ∃ value,
      StackMachine.value arithmetic.operations subtree = .ok value ∧ value.isNegative = false := by
  induction expression with
  | leaf magnitude =>
    intro subtree among
    obtain rfl := List.mem_singleton.mp among
    refine ⟨.finite false magnitude, ?_, rfl⟩
    rw [StackMachine.value, StackMachine.load, Double.read?_text]
  | @branch level s left right operator _ _ leftValues rightValues =>
    simp only [inOrder, List.mem_append, List.mem_cons, not_or] at noMinus
    obtain ⟨leftNoMinus, notMinus, rightNoMinus⟩ := noMinus
    intro subtree among
    rw [postOrder, List.mem_append, List.mem_append, List.mem_singleton] at among
    obtain (inLeft | inRight) | rfl := among
    · exact leftValues leftNoMinus subtree inLeft
    · exact rightValues rightNoMinus subtree inRight
    · obtain ⟨x, leftFound, leftSign⟩ := leftValues leftNoMinus left left.mem_postOrder_self
      obtain ⟨y, rightFound, rightSign⟩ := rightValues rightNoMinus right right.mem_postOrder_self
      obtain ⟨operation, known, succeeds⟩ := dependable.exists_operation operator
      obtain ⟨value, outcome⟩ := succeeds x y
      have isOther : s ≠ .minus := by
        rintro rfl
        exact notMinus rfl
      exact ⟨value, StackMachine.value_branch_eq_ok_iff.mpr
        ⟨x, y, operation, leftFound, rightFound, known, outcome⟩,
        rule.operation isOther known leftSign rightSign outcome⟩

end Tree

/-- An operator of a parsed tree is a character of the source. -/
theorem char_mem_of_parse {text : String} {tree : Tree} (parsed : parse text = .ok tree)
    {s : Symbol} (among : .inr s.text ∈ tree.inOrder) : s.char ∈ text.toList := by
  obtain ⟨tokens, read, phrase⟩ := Parser.derives_of_parse parsed
  rw [← phrase.filterMap_node?] at among
  obtain ⟨token, inTokens, node⟩ := List.mem_filterMap.mp among
  cases token with
  | number value => cases node
  | endOfInput => cases node
  | symbol other =>
    have sameText : other.text = s.text := by
      rw [Token.node?] at node
      split at node
      · exact Sum.inr.inj (Option.some.inj node)
      · cases node
    obtain rfl : other = s := by
      have texts := congrArg (fun text : String => Symbol.ofText? text.toList) sameText
      simpa only [Symbol.ofText?_text, Option.some.injEq] using texts
    have isSymbol : other ∈ tokens.filterMap Token.symbol? :=
      List.mem_filterMap.mpr ⟨_, inTokens, rfl⟩
    rw [← Token.filterMap_ofChar?_source read] at isSymbol
    obtain ⟨c, inText, isChar⟩ := List.mem_filterMap.mp isSymbol
    rwa [Symbol.ofChar?_eq_some_iff.mp isChar] at inText

/-- A source without a minus that is parsed has a value, and so has every subtree of its tree. None
of these values is negative, neither as a number nor as a zero or an infinity. Over any arithmetic
that fails only where it may and makes no signs of its own, the machine evaluates every subtree to a
value that is not negative, too. -/
theorem no_value_is_negative_without_minus (text : String) (tree : Tree)
    (parsed : parse text = .ok tree) (noMinus : '-' ∉ text.toList) :
    (∃ value, interpret text = .ok value ∧ value.isNegative = false) ∧
    (∀ subtree ∈ tree.postOrder,
      ∃ value, subtree.evaluate = .ok value ∧ value.isNegative = false) ∧
    ∀ arithmetic : Arithmetic, arithmetic.Dependable → arithmetic.KeepsSign →
      ∀ subtree ∈ tree.postOrder, ∃ value,
        StackMachine.evaluate arithmetic.operations (.node subtree) = .ok value ∧
          value.isNegative = false := by
  have expression := isExpression_of_parse parsed
  have noOperator : .inr Symbol.minus.text ∉ tree.inOrder :=
    fun among => noMinus (char_mem_of_parse parsed among)
  have subtrees : ∀ subtree ∈ tree.postOrder,
      ∃ value, subtree.evaluate = .ok value ∧ value.isNegative = false := by
    intro subtree among
    obtain ⟨value, found, sign⟩ := expression.exists_value_not_negative
      Arithmetic.standard_dependable Arithmetic.standard_keepsSign noOperator subtree among
    exact ⟨value, Arithmetic.standard_value_eq_ok_iff.mp found, sign⟩
  refine ⟨?_, subtrees, fun arithmetic dependable rule subtree among => ?_⟩
  · obtain ⟨value, evaluated, sign⟩ := subtrees tree tree.mem_postOrder_self
    refine ⟨value, ?_, sign⟩
    simp only [interpret, parsed, evaluated]
  · rw [StackMachine.evaluate_eq]
    exact expression.exists_value_not_negative dependable rule noOperator subtree among

/-- In `0^(1/0)#1/(0*2)` zeros and infinities meet, and none of them is negative. -/
theorem no_value_is_negative_without_minus_limits :
    ∃ tree, parse "0^(1/0)#1/(0*2)" = .ok tree ∧ '-' ∉ "0^(1/0)#1/(0*2)".toList ∧
      (∃ value, interpret "0^(1/0)#1/(0*2)" = .ok value ∧ value.isNegative = false) ∧
      Tree.branch "*" (.leaf "0.0") (.leaf "2.0") ∈ tree.postOrder ∧
      Arithmetic.standard.Dependable ∧ Arithmetic.standard.KeepsSign ∧
      ∃ value, StackMachine.evaluate Arithmetic.standard.operations
          (.node (.branch "*" (.leaf "0.0") (.leaf "2.0"))) = .ok value ∧
        value.isNegative = false := by
  have parsed : parse "0^(1/0)#1/(0*2)" = .ok (.branch "#"
      (.branch "^" (.leaf "0.0") (.branch "/" (.leaf "1.0") (.leaf "0.0")))
      (.branch "/" (.leaf "1.0") (.branch "*" (.leaf "0.0") (.leaf "2.0")))) := by
    decide +kernel
  have noMinus : '-' ∉ "0^(1/0)#1/(0*2)".toList := by decide
  have among : Tree.branch "*" (.leaf "0.0") (.leaf "2.0") ∈ (Tree.branch "#"
      (.branch "^" (.leaf "0.0") (.branch "/" (.leaf "1.0") (.leaf "0.0")))
      (.branch "/" (.leaf "1.0") (.branch "*" (.leaf "0.0") (.leaf "2.0")))).postOrder := by
    simp [Tree.postOrder]
  obtain ⟨interpreted, _, machines⟩ := no_value_is_negative_without_minus _ _ parsed noMinus
  have dependable := Arithmetic.standard_dependable
  have rule := Arithmetic.standard_keepsSign
  exact ⟨_, parsed, noMinus, interpreted, among, dependable, rule,
    machines _ dependable rule _ among⟩

end Calculator
