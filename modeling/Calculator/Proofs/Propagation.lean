import Calculator.Proofs.Guards
import Calculator.Proofs.PostOrder

/-!
# What is not a number stays so

An operand that is not a number makes the value of its branch none, unless the branch is a power.
So a subtree whose value is not a number leaves the whole tree with no other value, as long as no
power lies above it. This is shown for the machine with guarded arithmetic, whatever that arithmetic
is, if its sums, differences, products and quotients keep to the rule, and with it for expressions.
-/

namespace Calculator

namespace Tree.Context

/-- The labels of the branches that the left out subtree lies in, the outermost first. -/
def labels : Context → List String
  | hole => []
  | left label context _ => label :: context.labels
  | right label _ context => label :: context.labels

end Tree.Context

namespace StackMachine

/-- The operation of a label, if there is one, makes nothing but nan of an operand that is not a
number. -/
def Propagates (operations : Operations) (label : String) : Prop :=
  ∀ ⦃operation⦄, operations label = some operation → ∀ ⦃x y value⦄, x = .nan ∨ y = .nan →
    operation x y = .ok value → value = .nan

/-- If all branches around a subtree keep its value, and it is not a number, then neither is the
value of the whole tree. -/
theorem value_fill_eq_nan {operations : Operations} {tree : Tree}
    (isNaN : value operations tree = .ok .nan) {context : Tree.Context}
    (propagates : ∀ label ∈ context.labels, Propagates operations label) {result : Double}
    (found : value operations (context.fill tree) = .ok result) : result = .nan := by
  induction context generalizing result with
  | hole =>
    rw [Tree.Context.fill, isNaN] at found
    exact (Except.ok.inj found).symm
  | left label context sibling ih =>
    obtain ⟨here, above⟩ := List.forall_mem_cons.mp propagates
    obtain ⟨x, y, operation, leftValue, _, known, outcome⟩ := value_branch_eq_ok_iff.mp found
    exact here known (.inl (ih above leftValue)) outcome
  | right label sibling context ih =>
    obtain ⟨here, above⟩ := List.forall_mem_cons.mp propagates
    obtain ⟨x, y, operation, _, rightValue, known, outcome⟩ := value_branch_eq_ok_iff.mp found
    exact here known (.inr (ih above rightValue)) outcome

end StackMachine

namespace Arithmetic

/-- Sums, differences, products and quotients by what is not zero are not a number if an operand is
none. -/
structure PropagatesNaN (arithmetic : Arithmetic) : Prop where
  sum : ∀ {x y : Double}, x = .nan ∨ y = .nan → arithmetic.sum x y = .nan
  difference : ∀ {x y : Double}, x = .nan ∨ y = .nan → arithmetic.difference x y = .nan
  product : ∀ {x y : Double}, x = .nan ∨ y = .nan → arithmetic.product x y = .nan
  quotient : ∀ {x y : Double}, x = .nan ∨ y = .nan → y.isZero = false →
    arithmetic.quotient x y = .ok .nan

namespace PropagatesNaN

variable {arithmetic : Arithmetic} {x y value : Double}

/-- The guarded quotient is not a number if an operand is none, for a zero divisor, too. -/
theorem guardedQuotient (rule : arithmetic.PropagatesNaN) (isNaN : x = .nan ∨ y = .nan) :
    arithmetic.guardedQuotient x y = .ok .nan := by
  unfold Arithmetic.guardedQuotient
  split
  · next isZero =>
    obtain rfl | rfl := isNaN
    · rfl
    · cases isZero
  · next notZero => exact rule.quotient isNaN (by simpa using notZero)

/-- All guarded operations but the power keep what is not a number. -/
theorem propagates (rule : arithmetic.PropagatesNaN) {label : String}
    (notPower : label ≠ Symbol.power.text) :
    StackMachine.Propagates arithmetic.operations label := by
  intro operation known x y value isNaN outcome
  obtain ⟨s, read, known⟩ := Option.bind_eq_some_iff.mp known
  have isText := Symbol.ofText?_eq_some_iff.mp read
  cases s with
  | maximum =>
    obtain rfl := Option.some.inj known
    obtain rfl := Except.ok.inj outcome
    obtain rfl | rfl := isNaN
    · rfl
    · cases x <;> rfl
  | plus =>
    obtain rfl := Option.some.inj known
    rw [← Except.ok.inj outcome, rule.sum isNaN]
  | minus =>
    obtain rfl := Option.some.inj known
    rw [← Except.ok.inj outcome, rule.difference isNaN]
  | times =>
    obtain rfl := Option.some.inj known
    rw [← Except.ok.inj outcome, rule.product isNaN]
  | divide =>
    obtain rfl := Option.some.inj known
    rw [rule.guardedQuotient isNaN] at outcome
    exact (Except.ok.inj outcome).symm
  | power => exact absurd (String.toList_inj.mp isText) notPower
  | openParen => cases known
  | closeParen => cases known

/-- A subtree whose value is not a number leaves the tree around it with no other value, if no power
lies above it. -/
theorem value_fill (rule : arithmetic.PropagatesNaN) {context : Tree.Context} {tree : Tree}
    (noPower : Symbol.power.text ∉ context.labels)
    (isNaN : StackMachine.value arithmetic.operations tree = .ok .nan)
    (found : StackMachine.value arithmetic.operations (context.fill tree) = .ok value) :
    value = .nan := by
  refine StackMachine.value_fill_eq_nan isNaN (fun label among => rule.propagates ?_) found
  rintro rfl
  exact noPower among

end PropagatesNaN

/-- The arithmetic of IEEE 754 keeps what is not a number. -/
theorem standard_propagatesNaN : standard.PropagatesNaN where
  sum := by
    rintro x y (rfl | rfl)
    · rfl
    · cases x <;> rfl
  difference := by
    rintro x y (rfl | rfl)
    · rfl
    · cases x <;> rfl
  product := by
    rintro x y (rfl | rfl)
    · rfl
    · cases x <;> rfl
  quotient := by
    intro x y isNaN notZero
    change (if y.isZero then _ else _) = _
    rw [notZero, if_neg (by decide)]
    obtain rfl | rfl := isNaN
    · rfl
    · cases x <;> rfl

end Arithmetic

/-- If a subtree has a value that is not a number and no power lies above it, then the value of the
whole tree, if it has one, is not a number. This holds of expressions, and of the machine with the
guarded operations over any arithmetic that keeps what is not a number. -/
theorem nan_spreads_outside_powers (context : Tree.Context) (tree : Tree)
    (noPower : "^" ∉ context.labels) :
    (∀ value : Double, tree.evaluate = .ok .nan → (context.fill tree).evaluate = .ok value →
      value = .nan) ∧
    ∀ arithmetic : Arithmetic, arithmetic.PropagatesNaN → ∀ value : Double,
      StackMachine.evaluate arithmetic.operations (.node tree) = .ok .nan →
        StackMachine.evaluate arithmetic.operations (.node (context.fill tree)) = .ok value →
          value = .nan := by
  constructor
  · intro value isNaN found
    rw [← Arithmetic.standard_value_eq_ok_iff] at isNaN found
    exact Arithmetic.standard_propagatesNaN.value_fill noPower isNaN found
  · intro arithmetic rule value isNaN found
    rw [StackMachine.evaluate_eq] at isNaN found
    exact rule.value_fill noPower isNaN found

/-- In `1#(0/0)/0` the quotient of the zeros is not a number, and neither its quotient by zero nor
the maximum of that and one hides it. -/
theorem nan_spreads_outside_powers_maximum :
    ∃ (context : Tree.Context) (quotient : Tree) (value : Double),
      parse "1#(0/0)/0" = .ok (context.fill quotient) ∧ context.labels = ["#", "/"] ∧
      quotient.evaluate = .ok .nan ∧ (context.fill quotient).evaluate = .ok value ∧
      value = .nan ∧ Arithmetic.standard.PropagatesNaN ∧
      ∃ other, StackMachine.evaluate Arithmetic.standard.operations
        (.node (context.fill quotient)) = .ok other ∧ other = .nan := by
  have computed : ∃ (context : Tree.Context) (quotient : Tree) (value : Double),
      parse "1#(0/0)/0" = .ok (context.fill quotient) ∧ context.labels = ["#", "/"] ∧
        quotient.evaluate = .ok .nan ∧ (context.fill quotient).evaluate = .ok value :=
    ⟨.right "#" (.leaf "1.0") (.left "/" .hole (.leaf "0.0")),
      .branch "/" (.leaf "0.0") (.leaf "0.0"), .nan, by decide +kernel, rfl, by decide +kernel,
      by decide +kernel⟩
  obtain ⟨context, quotient, value, parsed, labels, isNaN, found⟩ := computed
  have noPower : "^" ∉ context.labels := by
    rw [labels]
    decide
  have onMachine : ∀ {tree : Tree} {result : Double}, tree.evaluate = .ok result →
      StackMachine.evaluate Arithmetic.standard.operations (.node tree) = .ok result := by
    intro tree result evaluated
    rw [StackMachine.evaluate_eq]
    exact Arithmetic.standard_value_eq_ok_iff.mpr evaluated
  have rule := Arithmetic.standard_propagatesNaN
  obtain ⟨expressions, machines⟩ := nan_spreads_outside_powers context quotient noPower
  exact ⟨context, quotient, value, parsed, labels, isNaN, found, expressions value isNaN found,
    rule, value, onMachine found, machines _ rule value (onMachine isNaN) (onMachine found)⟩

/-- A power may hide that its base is not a number. -/
example : interpret "(0/0)^0" = .ok .one := by decide +kernel

end Calculator
