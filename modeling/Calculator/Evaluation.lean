import Calculator.Decimal.Numeral
import Calculator.Double.Arithmetic
import Calculator.Double.Power
import Calculator.Parser
import Calculator.Text.Quoted

/-!
# Evaluation

The value of a leaf is the number that its label names. A branch has its left subtree evaluated,
then its right one; after that its label is looked up in a table of operators. The first failure
in this order is the failure of the whole.

The walk keeps the branches that it is inside of in a list, so that a deep tree needs no deep
recursion. A branch in that list either waits for its left value and knows its right subtree, or
waits for its right value and knows its left one.
-/

namespace Calculator

/-- Why a tree has no value. -/
inductive EvaluationError where
  /-- The label of a leaf is no numeral. -/
  | notANumber (label : String)
  /-- The label of a branch is no operator. -/
  | unknownOperator (label : String)
deriving DecidableEq

/-- The wording of the error. -/
def EvaluationError.message : EvaluationError → String
  | notANumber label => "could not convert string to float: " ++ Text.quoted label
  | unknownOperator label => Text.quoted label

/-- The operation of a symbol; a parenthesis has none. -/
def Symbol.operation? : Symbol → Option (Double → Double → Double)
  | maximum => some Double.maximum
  | plus => some Double.add
  | minus => some Double.sub
  | times => some Double.mul
  | divide => some Double.div
  | power => some Double.power
  | openParen | closeParen => none

/-- A table of operators: the operation of each label that has one. -/
abbrev OperatorTable := String → Option (Double → Double → Double)

/-- The operators of expressions, by their symbols. -/
def operators : OperatorTable := fun label =>
  (Symbol.ofText? label.toList).bind Symbol.operation?

namespace Evaluation

/-- A branch whose operands are being evaluated. -/
inductive Frame where
  /-- The left operand is being evaluated, and the right one waits. -/
  | left (label : String) (right : Tree)
  /-- The right operand is being evaluated, and the left one has this value. -/
  | right (label : String) (left : Double)

/-- Where the walk is: in front of a tree, or behind one with its value. -/
inductive Position where
  | before (tree : Tree)
  | behind (value : Double)

/-- A bound on the steps that a frame still takes. -/
def Frame.weight : Frame → Nat
  | left _ tree => 3 * tree.size + 2
  | right .. => 1

/-- A bound on the steps that a position still takes within its own tree. -/
def Position.weight : Position → Nat
  | before tree => 3 * tree.size
  | behind _ => 0

/-- A bound on the steps that several frames still take. -/
def waitingWeight : List Frame → Nat
  | [] => 0
  | frame :: frames => frame.weight + waitingWeight frames

/-- Walks on from a position inside the given branches, the innermost first, up to the value of
the whole tree. -/
def walk (table : OperatorTable) : Position → List Frame → Except EvaluationError Double
  | .before (.leaf label), frames =>
    match Numeral.read? label with
    | none => .error (.notANumber label)
    | some value => walk table (.behind value) frames
  | .before (.branch label left right), frames =>
    walk table (.before left) (.left label right :: frames)
  | .behind value, [] => .ok value
  | .behind value, .left label right :: frames =>
    walk table (.before right) (.right label value :: frames)
  | .behind value, .right label left :: frames =>
    match table label with
    | none => .error (.unknownOperator label)
    | some operation => walk table (.behind (operation left value)) frames
termination_by position frames => position.weight + waitingWeight frames
decreasing_by
  all_goals
    simp only [Position.weight, Frame.weight, Tree.size, waitingWeight]
    omega

end Evaluation

/-- The value of a tree by a table of operators. -/
def Tree.evaluateWith (table : OperatorTable) (tree : Tree) : Except EvaluationError Double :=
  Evaluation.walk table (.before tree) []

/-- The value of a tree. -/
def Tree.evaluate (tree : Tree) : Except EvaluationError Double := tree.evaluateWith operators

/-- Why an expression has no value. -/
inductive Failure where
  | syntaxError (error : SyntaxError)
  | evaluationError (error : EvaluationError)
deriving DecidableEq

/-- The wording of the failure. -/
def Failure.message : Failure → String
  | syntaxError error => error.message
  | evaluationError error => error.message

/-- The value of an expression, or why it has none. -/
def interpret (text : String) : Except Failure Double :=
  match parse text with
  | .error error => .error (.syntaxError error)
  | .ok tree =>
    match tree.evaluate with
    | .error error => .error (.evaluationError error)
    | .ok value => .ok value

end Calculator
