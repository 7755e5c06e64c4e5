import Calculator.Proofs.Guards
import Calculator.Proofs.Precedence
import Calculator.Proofs.Rounding
import Mathlib.Order.Bounds.Basic

/-!
# The maximum

The doubles have a total order in which the negative zero stands in front of the positive one and
what is not a number behind everything else. In this order the maximum is the greater of two doubles
in the full sense: their least upper bound. So expressions with the maximum operator between them
have the greatest of their values, in whatever order they stand, however often, and whatever
parentheses are put around them.
-/

namespace Calculator

namespace Double

/-! ## The order of the doubles -/

/-- The size of a double whatever its sign: the place of its magnitude. An infinity comes behind all
magnitudes, and what is not a number behind the infinities. -/
def size : Double → Nat
  | finite _ magnitude => magnitude.index
  | infinite _ => magnitudeCount
  | nan => magnitudeCount + 1

/-- The place of a double among all doubles, counted up from the positive zero and down from the
negative one. -/
def place (x : Double) : Int := if x.isNegative then -1 - x.size else x.size

/-- A double is known by its sign and its size. -/
theorem eq_of_size_eq {x y : Double} (sameSign : x.isNegative = y.isNegative)
    (sameSize : x.size = y.size) : x = y := by
  cases x with
  | nan =>
    cases y with
    | nan => rfl
    | infinite negative => cases sameSize
    | finite negative n =>
      have bounded := n.index_lt
      simp only [size] at sameSize
      omega
  | infinite negative =>
    cases y with
    | nan => cases sameSize
    | infinite other => exact congrArg infinite sameSign
    | finite other n =>
      have bounded := n.index_lt
      simp only [size] at sameSize
      omega
  | finite negative m =>
    have bounded := m.index_lt
    cases y with
    | finite other n =>
      obtain rfl : negative = other := sameSign
      rw [Magnitude.eq_of_index_eq sameSize]
    | _ =>
      simp only [size] at sameSize
      omega

/-- No two doubles have the same place. -/
theorem place_injective : Function.Injective place := by
  intro x y same
  unfold place at same
  cases negative : x.isNegative <;> cases other : y.isNegative <;>
    simp only [negative, other, Bool.false_eq_true, if_false, if_true] at same
  · exact eq_of_size_eq (negative.trans other.symm) (by omega)
  · omega
  · omega
  · exact eq_of_size_eq (negative.trans other.symm) (by omega)

/-- What is not a number has the greatest place. -/
theorem place_lt_nan {x : Double} (isNumber : x ≠ nan) : x.place < nan.place := by
  have size_lt : x.size < nan.size := by
    cases x with
    | nan => exact absurd rfl isNumber
    | infinite negative => exact Nat.lt_succ_self _
    | finite negative m => exact Nat.lt_succ_of_lt m.index_lt
  have atNaN : nan.place = nan.size := rfl
  rw [atNaN, place]
  split <;> omega

/-- The negative infinity has the least place. -/
theorem place_infinite_le (x : Double) : (infinite true).place ≤ x.place := by
  have size_le : x.isNegative = true → x.size ≤ magnitudeCount := by
    intro negative
    cases x with
    | nan => cases negative
    | infinite sign => exact Nat.le_refl _
    | finite sign m => exact Nat.le_of_lt m.index_lt
  have atEnd : (infinite true).place = -1 - magnitudeCount := rfl
  rw [atEnd, place]
  split
  · next negative =>
    have atMost := size_le negative
    omega
  · omega

/-- Finite numbers are compared by their places, but the two zeros are equal. -/
theorem signedUnits_lt_iff (left right : Bool) (m n : Magnitude) :
    signedUnits left m < signedUnits right n ↔
      (finite left m).place < (finite right n).place ∧ ¬(m.index = 0 ∧ n.index = 0) := by
  have ascends : ∀ first second : Magnitude,
      first.units < second.units ↔ first.index < second.index :=
    fun first second => Magnitude.strictMono_unitsAt.lt_iff_lt
  have upwards := ascends m n
  have downwards := ascends n m
  have firstZero := m.units_eq_zero_iff
  have secondZero := n.units_eq_zero_iff
  cases left <;> cases right <;>
    simp only [signedUnits, place, isNegative, size, Bool.false_eq_true, if_false, if_true] <;>
    omega

/-- Numbers are compared by their places, but the two zeros are equal. -/
theorem less_iff {x y : Double} (firstNumber : x ≠ nan) (secondNumber : y ≠ nan) :
    x.less y = true ↔ x.place < y.place ∧ (x.isZero && y.isZero) = false := by
  cases x with
  | nan => exact absurd rfl firstNumber
  | infinite left =>
    cases y with
    | nan => exact absurd rfl secondNumber
    | infinite right =>
      cases left <;> cases right <;> simp [less, place, isNegative, size, isZero] <;> omega
    | finite right n =>
      have bounded := n.index_lt
      cases left <;> cases right <;> simp [less, place, isNegative, size, isZero] <;> omega
  | finite left m =>
    have bounded := m.index_lt
    cases y with
    | nan => exact absurd rfl secondNumber
    | infinite right =>
      cases left <;> cases right <;> simp [less, place, isNegative, size, isZero] <;> omega
    | finite right n =>
      rw [less, decide_eq_true_iff, signedUnits_lt_iff]
      simp [isZero]

/-- Every double but the one that is not a number is a number. -/
theorem isNaN_eq_false {x : Double} (isNumber : x ≠ nan) : x.isNaN = false := by
  cases x with
  | nan => exact absurd rfl isNumber
  | _ => rfl

/-- The maximum is the one of two doubles that has the greater place. -/
theorem maximum_eq_ite (x y : Double) : x.maximum y = if x.place ≤ y.place then y else x := by
  by_cases firstNumber : x ≠ nan
  · by_cases secondNumber : y ≠ nan
    · rw [maximum, isNaN_eq_false firstNumber, isNaN_eq_false secondNumber]
      have compared := less_iff secondNumber firstNumber
      cases zeros : x.isZero && y.isZero with
      | false =>
        rw [Bool.and_comm, zeros] at compared
        simp only [and_true] at compared
        simp only [Bool.or_self, Bool.false_eq_true, if_false, compared]
        split_ifs with above atMost atMost
        · omega
        · rfl
        · rfl
        · omega
      | true =>
        rw [Bool.and_eq_true] at zeros
        rw [eq_zero_of_isZero zeros.1, eq_zero_of_isZero zeros.2]
        cases x.isNegative <;> cases y.isNegative <;> rfl
    · obtain rfl : y = nan := not_not.mp secondNumber
      have atMost := place_lt_nan firstNumber
      rw [if_pos (Int.le_of_lt atMost), maximum, isNaN_eq_false firstNumber]
      rfl
  · obtain rfl : x = nan := not_not.mp firstNumber
    have stays : maximum nan y = nan := rfl
    rw [stays]
    split
    · next atMost =>
      by_contra secondNumber
      have below := place_lt_nan (Ne.symm secondNumber)
      omega
    · rfl

/-- The doubles in ascending order, from the negative infinity over the two zeros to the positive
infinity, with what is not a number at the end. The greater of two doubles is their maximum. -/
instance : LinearOrder Double where
  le x y := x.place ≤ y.place
  le_refl x := Int.le_refl x.place
  le_trans _ _ _ := Int.le_trans
  le_antisymm _ _ atMost atLeast := place_injective (Int.le_antisymm atMost atLeast)
  le_total x y := Int.le_total x.place y.place
  toDecidableLE x y := inferInstanceAs (Decidable (x.place ≤ y.place))
  toDecidableEq := inferInstance
  max := maximum
  max_def := maximum_eq_ite

/-- A double comes before another one if its place does. -/
theorem lt_iff_place_lt {x y : Double} : x < y ↔ x.place < y.place := by
  rw [← not_le, ← Int.not_le]
  exact Iff.rfl

/-- The order goes from the negative infinity to what is not a number. It is the numerical one
between numbers that are not equal, and the negative zero comes before the positive one. -/
theorem order_of_doubles :
    (∀ x : Double, infinite true ≤ x ∧ x ≤ nan) ∧ zero true < zero false ∧
      ∀ x y : Double, x.less y = true → x < y := by
  refine ⟨fun x => ⟨place_infinite_le x, ?_⟩, ?_, ?_⟩
  · by_cases isNumber : x = nan
    · exact le_of_eq isNumber
    · exact le_of_lt (lt_iff_place_lt.mpr (place_lt_nan isNumber))
  · exact lt_iff_place_lt.mpr (by decide)
  · intro x y isLess
    have firstNumber : x ≠ nan := by
      rintro rfl
      cases isLess
    have secondNumber : y ≠ nan := by
      rintro rfl
      cases x <;> cases isLess
    exact lt_iff_place_lt.mpr ((less_iff firstNumber secondNumber).mp isLess).1

end Double

/-! ## Chains of the maximum operator -/

namespace Tree

/-- Where a branch has a value, its subtrees have values, and its operator makes its value of
them. -/
theorem evaluate_branch_cases {label : String} {left right : Tree} {value : Double}
    (evaluated : (branch label left right).evaluate = .ok value) :
    ∃ x y operation, left.evaluate = .ok x ∧ right.evaluate = .ok y ∧
      operators label = some operation ∧ value = operation x y := by
  simp only [evaluate, evaluateWith_eq, valueWith] at evaluated ⊢
  cases leftValue : left.valueWith operators with
  | error error =>
    rw [leftValue] at evaluated
    cases evaluated
  | ok x =>
    cases rightValue : right.valueWith operators with
    | error error =>
      rw [leftValue, rightValue] at evaluated
      cases evaluated
    | ok y =>
      cases found : operators label with
      | none =>
        rw [leftValue, rightValue, found] at evaluated
        cases evaluated
      | some operation =>
        rw [leftValue, rightValue, found] at evaluated
        exact ⟨x, y, operation, rfl, rfl, rfl, (Except.ok.inj evaluated).symm⟩

end Tree

/-- Two phrases with the maximum operator between them are a phrase, and its value is the greater of
theirs. The operators of the second phrase take the whole first one as their left operand, which
makes another tree, but not another value. -/
theorem Derives.exists_greater {front back : List Token} {first second : Tree} {x y : Double}
    (firstPhrase : Derives .maxima front first) (firstValue : first.evaluate = .ok x)
    (secondPhrase : Derives .maxima back second) (secondValue : second.evaluate = .ok y) :
    ∃ tree, Derives .maxima (front ++ .symbol .maximum :: back) tree ∧
      tree.evaluate = .ok (x.maximum y) := by
  generalize isMaxima : Level.maxima = level at secondPhrase
  induction secondPhrase generalizing y with
  | number value => cases isMaxima
  | enclosed => cases isMaxima
  | right => cases isMaxima
  | @alone level tokens tree notOperands phrase =>
    subst isMaxima
    have operator : Symbol.maximum.level? = some .maxima := rfl
    exact ⟨.branch Symbol.maximum.text first tree, .left operator (by decide) firstPhrase phrase,
      Tree.evaluate_branch operator firstValue secondValue⟩
  | @left level symbol before after inner last operator notPower _ rightPhrase ih =>
    subst isMaxima
    obtain rfl : symbol = .maximum := by
      cases symbol <;> first | rfl | cases operator
    obtain ⟨innerValue, lastValue, operation, evaluated, lastEvaluated, found, rfl⟩ :=
      Tree.evaluate_branch_cases secondValue
    obtain rfl : Double.maximum = operation := Option.some.inj found
    obtain ⟨tree, phrase, value⟩ := ih evaluated rfl
    have regrouped : (x.maximum innerValue).maximum lastValue =
        x.maximum (innerValue.maximum lastValue) := max_assoc x innerValue lastValue
    refine ⟨.branch Symbol.maximum.text tree last, ?_, ?_⟩
    · have whole := Derives.left operator notPower phrase rightPhrase
      rwa [List.append_assoc, List.cons_append] at whole
    · rw [← regrouped]
      exact Tree.evaluate_branch operator value lastEvaluated

/-- An arrangement of expressions with the maximum operator between them. -/
inductive Arrangement where
  /-- An expression as it is. -/
  | operand (expression : Expression)
  /-- An arrangement in parentheses. -/
  | enclosed (inner : Arrangement)
  /-- Two arrangements with the operator between them. -/
  | joined (left right : Arrangement)

namespace Arrangement

/-- The text of an arrangement. -/
def text : Arrangement → String
  | operand expression => expression.text
  | enclosed inner => Text.enclosed inner.text
  | joined left right => left.text ++ Symbol.maximum.text ++ right.text

/-- The values of the expressions in an arrangement. -/
def values : Arrangement → Set Double
  | operand expression => {expression.value}
  | enclosed inner => inner.values
  | joined left right => left.values ∪ right.values

/-- The expressions of a list one after the other, without parentheses. -/
def inRow (first : Expression) : List Expression → Arrangement
  | [] => operand first
  | next :: others => joined (operand first) (inRow next others)

/-- The text of expressions one after the other has the operator between every two of them. -/
theorem text_inRow (first : Expression) (others : List Expression) :
    (inRow first others).text =
      Symbol.maximum.text.intercalate ((first :: others).map Expression.text) := by
  induction others generalizing first with
  | nil => simp [inRow, text]
  | cons next others ih =>
    rw [inRow, text, text, ih]
    simp [String.intercalate_cons_cons]

/-- Their values are those of the list. -/
theorem values_inRow (first : Expression) (others : List Expression) :
    (inRow first others).values = {x | x ∈ (first :: others).map Expression.value} := by
  induction others generalizing first with
  | nil =>
    ext x
    simp [inRow, values]
  | cons next others ih =>
    rw [inRow, values, values, ih]
    ext x
    simp

/-- An arrangement is a phrase, and its value is the greatest of the values in it. -/
theorem exists_phrase (arrangement : Arrangement) :
    ∃ tree value, Phrase .maxima arrangement.text tree ∧ tree.evaluate = .ok value ∧
      IsGreatest arrangement.values value := by
  induction arrangement with
  | operand expression =>
    exact ⟨expression.tree, expression.value, Parser.derives_of_parse expression.parsed,
      expression.evaluate_tree, isGreatest_singleton⟩
  | enclosed inner ih =>
    obtain ⟨tree, value, phrase, evaluated, greatest⟩ := ih
    exact ⟨tree, value, phrase.enclosed.expression, evaluated, greatest⟩
  | joined left right leftPhrase rightPhrase =>
    obtain ⟨_, x, ⟨front, readFront, first⟩, firstValue, greatestFirst⟩ := leftPhrase
    obtain ⟨_, y, ⟨back, readBack, second⟩, secondValue, greatestSecond⟩ := rightPhrase
    obtain ⟨tree, whole, evaluated⟩ := first.exists_greater firstValue second secondValue
    refine ⟨tree, x.maximum y, ⟨_, ?_, whole⟩, evaluated, greatestFirst.union greatestSecond⟩
    rw [text, Token.ofSource_around .maximum right.text readFront, readBack]
    simp

/-- An arrangement that keeps to the guaranteed nesting has the greatest of its values. -/
theorem exists_interpret {arrangement : Arrangement}
    (nests : Text.NestsWithin Parser.guaranteedNesting arrangement.text) :
    ∃ value, interpret arrangement.text = .ok value ∧ IsGreatest arrangement.values value := by
  obtain ⟨tree, value, phrase, evaluated, greatest⟩ := arrangement.exists_phrase
  exact ⟨value, (phrase.parse_and_interpret evaluated nests).2, greatest⟩

end Arrangement

/-- The maximum is the join of the order of the doubles, which goes from the negative infinity over
the negative and the positive zero to the positive infinity and ends with what is not a number. So
expressions with the maximum operator between them have the greatest of their values, and nothing
but the values matters to that: not their order, their number or the parentheses around them. -/
theorem maximum_is_join :
    ((∀ x : Double, .infinite true ≤ x ∧ x ≤ .nan) ∧ Double.zero true < Double.zero false ∧
      ∀ x y : Double, x.less y = true → x < y) ∧
    (∀ x y : Double, IsLUB {x, y} (x.maximum y)) ∧
    ((∀ x y : Double, x.maximum y = y.maximum x) ∧
      (∀ x y z : Double, (x.maximum y).maximum z = x.maximum (y.maximum z)) ∧
      (∀ x : Double, x.maximum x = x) ∧
      (∀ x : Double, (Double.infinite true).maximum x = x ∧ x.maximum (.infinite true) = x) ∧
      (∀ x : Double, Double.nan.maximum x = .nan ∧ x.maximum .nan = .nan) ∧
      ∀ x y : Double, x.maximum y = x ∨ x.maximum y = y) ∧
    (∀ (first : Expression) (others : List Expression),
      Text.NestsWithin Parser.guaranteedNesting
        ("#".intercalate ((first :: others).map Expression.text)) →
      ∃ value, interpret ("#".intercalate ((first :: others).map Expression.text)) = .ok value ∧
        IsGreatest {x | x ∈ (first :: others).map Expression.value} value) ∧
    ∀ arrangement other : Arrangement, arrangement.values = other.values →
      Text.NestsWithin Parser.guaranteedNesting arrangement.text →
      Text.NestsWithin Parser.guaranteedNesting other.text →
      ∃ value, interpret arrangement.text = .ok value ∧ interpret other.text = .ok value ∧
        IsGreatest arrangement.values value := by
  obtain ⟨bounds, zeros, numerical⟩ := Double.order_of_doubles
  have least : ∀ x : Double, .infinite true ≤ x := fun x => (bounds x).1
  have greatest : ∀ x : Double, x ≤ .nan := fun x => (bounds x).2
  refine ⟨⟨bounds, zeros, numerical⟩, fun x y => isLUB_pair, ?algebra, ?chains, ?arrangements⟩
  case algebra =>
    exact ⟨max_comm, max_assoc, max_self,
      fun x => ⟨max_eq_right (least x), max_eq_left (least x)⟩,
      fun x => ⟨max_eq_left (greatest x), max_eq_right (greatest x)⟩, max_choice⟩
  case chains =>
    intro first others nests
    have sign : Symbol.maximum.text = "#" := rfl
    rw [← sign, ← Arrangement.text_inRow] at nests
    rw [← sign, ← Arrangement.text_inRow, ← Arrangement.values_inRow]
    exact Arrangement.exists_interpret nests
  case arrangements =>
    intro arrangement other same nests otherNests
    obtain ⟨value, interpreted, isGreatest⟩ := Arrangement.exists_interpret nests
    obtain ⟨otherValue, otherInterpreted, otherGreatest⟩ :=
      Arrangement.exists_interpret otherNests
    rw [← same] at otherGreatest
    rw [otherGreatest.unique isGreatest] at otherInterpreted
    exact ⟨value, interpreted, otherInterpreted, isGreatest⟩

/-- A negative zero and a positive one, in a row and in another arrangement with one of them
twice. -/
theorem maximum_is_join_zeros :
    ∃ negative positive : Expression, negative.text = "0*(0-1)" ∧ positive.text = "0" ∧
      Double.less (.zero true) .one = true ∧ Double.zero true < .one ∧
      Text.NestsWithin Parser.guaranteedNesting "0*(0-1)#0" ∧
      (∃ value, interpret "0*(0-1)#0" = .ok value ∧
        IsGreatest {x | x ∈ [negative.value, positive.value]} value) ∧
      Text.NestsWithin Parser.guaranteedNesting "0#(0*(0-1)#0)" ∧
      ∃ value, interpret "0#(0*(0-1)#0)" = .ok value ∧ interpret "0*(0-1)#0" = .ok value ∧
        IsGreatest ({positive.value} ∪ ({negative.value} ∪ {positive.value})) value := by
  have parsed : parse "0*(0-1)" =
      .ok (.branch "*" (.leaf "0.0") (.branch "-" (.leaf "0.0") (.leaf "1.0"))) := by
    decide +kernel
  have otherParsed : parse "0" = .ok (.leaf "0.0") := by decide +kernel
  obtain ⟨negative, negativeText, _⟩ := Expression.exists_of_parse parsed
  obtain ⟨positive, positiveText, _⟩ := Expression.exists_of_parse otherParsed
  obtain ⟨⟨_, _, numerical⟩, _, _, chains, arrangements⟩ := maximum_is_join
  have row : ["0*(0-1)", "0"] = [negative, positive].map Expression.text := by
    rw [List.map_cons, List.map_singleton, negativeText, positiveText]
  have inRow := chains negative [positive]
  have rearranged := arrangements
    (.joined (.operand positive) (.enclosed (.joined (.operand negative) (.operand positive))))
    (.joined (.operand negative) (.operand positive))
  rw [← row] at inRow
  simp only [Arrangement.text, Arrangement.values, negativeText, positiveText] at rearranged
  have nests : Text.NestsWithin Parser.guaranteedNesting "0*(0-1)#0" := by decide
  have otherNests : Text.NestsWithin Parser.guaranteedNesting "0#(0*(0-1)#0)" := by decide
  have sameValues : {positive.value} ∪ ({negative.value} ∪ {positive.value} : Set Double) =
      {negative.value} ∪ {positive.value} := by
    rw [Set.union_comm, Set.union_assoc, Set.union_self]
  have isLess : Double.less (.zero true) .one = true := by decide +kernel
  exact ⟨negative, positive, negativeText, positiveText, isLess, numerical _ _ isLess, nests,
    inRow nests, otherNests, rearranged sameValues otherNests nests⟩

end Calculator
