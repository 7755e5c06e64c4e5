import Calculator.Proofs.Guards
import Calculator.Proofs.Rendering
import Calculator.Proofs.Substitution

/-!
# Expressions always have a value

A source that is parsed has a tree of numbers and operators, and such a tree has a value. On a
machine with a stack and guarded arithmetic no step of its evaluation can fail. So an expression
lacks a value exactly if it is refused, and for the reason for which it is refused.
-/

namespace Calculator

/-- The numbers among the tokens of a source are finite and not negative. -/
theorem Token.finite_of_ofPieces {pieces : List String} {tokens : List Token}
    (read : ofPieces pieces = (tokens ++ [endOfInput], none)) :
    ∀ value, number value ∈ tokens → ∃ magnitude, value = .finite false magnitude := by
  induction pieces generalizing tokens with
  | nil =>
    obtain rfl : tokens = [] := by simpa [ofPieces] using read
    simp
  | cons piece rest ih =>
    obtain ⟨_, further⟩ | ⟨token, others, _, classified, rfl, further⟩ := ofPieces_cons_cases read
    · exact ih further
    · intro value among
      obtain first | later := List.mem_cons.mp among
      · rw [← first] at classified
        obtain ⟨_, magnitude, _, _, same⟩ := literal_of_ofPiece classified
        exact ⟨magnitude, same⟩
      · exact ih further value later

/-- A phrase whose numbers are finite and not negative has a tree of such numbers and operators. -/
theorem Derives.isExpression {level : Level} {tokens : List Token} {tree : Tree}
    (phrase : Derives level tokens tree)
    (finite : ∀ value, .number value ∈ tokens → ∃ magnitude, value = .finite false magnitude) :
    tree.IsExpression := by
  induction phrase with
  | number value =>
    obtain ⟨magnitude, rfl⟩ := finite value (by simp)
    exact .leaf magnitude
  | enclosed _ ih => exact ih fun value among => finite value (by simp [among])
  | alone _ _ ih => exact ih finite
  | left operator _ _ _ leftTree rightTree =>
    exact .branch operator (leftTree fun value among => finite value (by simp [among]))
      (rightTree fun value among => finite value (by simp [among]))
  | right _ _ leftTree rightTree =>
    exact .branch rfl (leftTree fun value among => finite value (by simp [among]))
      (rightTree fun value among => finite value (by simp [among]))

/-- A parsed tree has numbers at its leaves and operators at its branches, whatever the limit of the
parser is. -/
theorem isExpression_of_parseWithin {limit : Nat} {text : String} {tree : Tree}
    (parsed : parseWithin limit text = .ok tree) : tree.IsExpression := by
  obtain ⟨tokens, read, phrase⟩ := Parser.derives_of_parseWithin parsed
  exact phrase.isExpression (Token.finite_of_ofPieces read)

/-- A parsed tree has numbers at its leaves and operators at its branches. -/
theorem isExpression_of_parse {text : String} {tree : Tree} (parsed : parse text = .ok tree) :
    tree.IsExpression :=
  isExpression_of_parseWithin parsed

/-- What an operator makes of two values. A parenthesis makes no number of them. -/
def Symbol.apply (s : Symbol) (x y : Double) : Double :=
  match s.operation? with
  | some operation => operation x y
  | none => .nan

/-- The table holds what every operator makes of two values. -/
theorem operators_text {level : Level} {s : Symbol} (operator : s.level? = some level) :
    operators s.text = some s.apply := by
  rw [operators, Symbol.ofText?_text, Option.bind_some]
  cases s with
  | openParen => cases operator
  | closeParen => cases operator
  | _ => rfl

namespace Tree.IsExpression

/-- The leaves of an expression are numerals, and its branches are operators. -/
theorem labels {tree : Tree} (expression : tree.IsExpression) :
    (∀ label, .inl label ∈ tree.inOrder → ∃ value, Numeral.read? label = some value) ∧
      ∀ label, .inr label ∈ tree.inOrder → ∃ operation, operators label = some operation := by
  induction expression with
  | leaf magnitude =>
    constructor
    · intro label among
      obtain rfl : label = (Double.finite false magnitude).text := by simpa [inOrder] using among
      exact Double.exists_read?_text magnitude
    · simp [inOrder]
  | branch operator _ _ leftLabels rightLabels =>
    constructor
    · intro label among
      simp only [inOrder, List.mem_append, List.mem_cons, reduceCtorEq, false_or] at among
      obtain left | right := among
      · exact leftLabels.1 label left
      · exact rightLabels.1 label right
    · intro label among
      simp only [inOrder, List.mem_append, List.mem_cons, Sum.inr.injEq] at among
      obtain left | rfl | right := among
      · exact leftLabels.2 label left
      · exact ⟨_, operators_text operator⟩
      · exact rightLabels.2 label right

/-- An expression has a value by guarded operations that never fail. -/
theorem exists_value {arithmetic : Arithmetic} (dependable : arithmetic.Dependable) {tree : Tree}
    (expression : tree.IsExpression) :
    ∃ value, StackMachine.value arithmetic.operations tree = .ok value := by
  induction expression with
  | leaf magnitude =>
    obtain ⟨value, read⟩ := Double.exists_read?_text magnitude
    exact ⟨value, by rw [StackMachine.value, StackMachine.load, read]⟩
  | branch operator _ _ leftValue rightValue =>
    obtain ⟨first, leftFound⟩ := leftValue
    obtain ⟨second, rightFound⟩ := rightValue
    obtain ⟨operation, found, succeeds⟩ := dependable.exists_operation operator
    obtain ⟨value, result⟩ := succeeds first second
    exact ⟨value, StackMachine.value_branch_eq_ok_iff.mpr
      ⟨first, second, operation, leftFound, rightFound, found, result⟩⟩

/-- An expression has a value, and the machine ends with it alone on its stack. -/
theorem exists_evaluate {tree : Tree} (expression : tree.IsExpression) :
    ∃ value, tree.evaluate = .ok value ∧
      StackMachine.run Arithmetic.standard.operations [⟨tree, false⟩] [] = .ok [value] := by
  obtain ⟨value, found⟩ := expression.exists_value Arithmetic.standard_dependable
  refine ⟨value, Arithmetic.standard_value_eq_ok_iff.mp found, ?_⟩
  rw [StackMachine.run_eq, found]
  rfl

end Tree.IsExpression

/-- An expression has no value exactly if it is refused, and for that reason. Where it is parsed,
every leaf is a numeral and every branch an operator, and the machine over IEEE 754 arithmetic ends
with the value of the expression and nothing else on its stack. Over any arithmetic that fails only
where it may, the machine ends with one value, too: it is never stopped by a stack with too few
values, a zero divisor, a power that fails, or the whole part of a number that has none. -/
theorem evaluation_never_fails :
    (∀ text failure, interpret text = .error failure ↔
      ∃ error, parse text = .error error ∧ failure = .syntaxError error) ∧
    ∀ text tree, parse text = .ok tree →
      (∀ label, .inl label ∈ tree.inOrder → ∃ value, Numeral.read? label = some value) ∧
      (∀ label, .inr label ∈ tree.inOrder → ∃ operation, operators label = some operation) ∧
      (∃ value, interpret text = .ok value ∧ tree.evaluate = .ok value ∧
        StackMachine.run Arithmetic.standard.operations [⟨tree, false⟩] [] = .ok [value]) ∧
      ∀ arithmetic : Arithmetic, arithmetic.Dependable →
        ∃ value, StackMachine.run arithmetic.operations [⟨tree, false⟩] [] = .ok [value] := by
  have hasValue : ∀ text tree, parse text = .ok tree →
      ∃ value, interpret text = .ok value ∧ tree.evaluate = .ok value ∧
        StackMachine.run Arithmetic.standard.operations [⟨tree, false⟩] [] = .ok [value] := by
    intro text tree parsed
    obtain ⟨value, evaluated, ran⟩ := (isExpression_of_parse parsed).exists_evaluate
    refine ⟨value, ?_, evaluated, ran⟩
    simp only [interpret, parsed, evaluated]
  constructor
  · intro text failure
    cases parsed : parse text with
    | error error => simp [interpret, parsed, eq_comm]
    | ok tree =>
      obtain ⟨value, interpreted, _⟩ := hasValue text tree parsed
      simp [interpreted]
  · intro text tree parsed
    have expression := isExpression_of_parse parsed
    obtain ⟨leaves, branches⟩ := expression.labels
    refine ⟨leaves, branches, hasValue text tree parsed, fun arithmetic dependable => ?_⟩
    obtain ⟨value, found⟩ := expression.exists_value dependable
    exact ⟨value, by rw [StackMachine.run_eq, found]; rfl⟩

/-- The square root of a negative number and its quotient by zero stop neither the evaluation nor
the machine. -/
theorem evaluation_never_fails_zeroDivisor :
    parse "(0-1)^.5/0" = .ok (.branch "/"
        (.branch "^" (.branch "-" (.leaf "0.0") (.leaf "1.0")) (.leaf "0.5")) (.leaf "0.0")) ∧
      Arithmetic.standard.Dependable ∧
      (∃ value, interpret "(0-1)^.5/0" = .ok value) ∧
      ∃ value, StackMachine.run Arithmetic.standard.operations
        [⟨.branch "/" (.branch "^" (.branch "-" (.leaf "0.0") (.leaf "1.0")) (.leaf "0.5"))
          (.leaf "0.0"), false⟩] [] = .ok [value] := by
  have parsed : parse "(0-1)^.5/0" = .ok (.branch "/"
      (.branch "^" (.branch "-" (.leaf "0.0") (.leaf "1.0")) (.leaf "0.5")) (.leaf "0.0")) := by
    decide +kernel
  obtain ⟨_, _, ⟨value, interpreted, _⟩, anyMachine⟩ := evaluation_never_fails.2 _ _ parsed
  exact ⟨parsed, Arithmetic.standard_dependable, ⟨value, interpreted⟩,
    anyMachine _ Arithmetic.standard_dependable⟩

end Calculator
