import Calculator.Proofs.Recursion

/-!
# Evaluation on a stack of values

A machine that evaluates a tree with a list of tasks and a stack of values. Everything that could
stop it is a fault: a leaf that is no numeral, a label that is no operator, a stack with too few
values, or an operation that cannot be carried out. The main statement is that a tree on the list
of tasks puts exactly its value on the stack, or stops the machine with the first fault of the
recursion over the tree. So no operation ever meets a stack with too few values.
-/

namespace Calculator

/-- What arithmetic cannot carry out. -/
inductive ArithmeticFault where
  /-- A number is divided by zero. -/
  | divisionByZero
  /-- A power of finite numbers is too large for a double. -/
  | overflow
  /-- A power has no real value. -/
  | domain
  /-- The whole part of an infinity or of what is not a number is asked for. -/
  | notFinite
deriving DecidableEq

namespace StackMachine

/-- What stops the machine. -/
inductive Fault where
  /-- An operation finds fewer than two values on the stack. -/
  | emptyStack
  /-- A label means nothing. -/
  | evaluation (error : EvaluationError)
  /-- An operation is not carried out. -/
  | arithmetic (fault : ArithmeticFault)
deriving DecidableEq

/-- The operation of each label that has one. An operation may fail. -/
abbrev Operations := String → Option (Double → Double → Except ArithmeticFault Double)

/-- Applies the operation of a label. -/
def apply (operations : Operations) (label : String) (first second : Double) :
    Except Fault Double :=
  match operations label with
  | none => .error (.evaluation (.unknownOperator label))
  | some operation => (operation first second).mapError .arithmetic

/-- Reads the number of a leaf. -/
def load (label : String) : Except Fault Double :=
  match Numeral.read? label with
  | none => .error (.evaluation (.notANumber label))
  | some value => .ok value

/-- Replaces the two values on top of the stack by the result of the operation of a label. The
second operand is on top. -/
def reduce (operations : Operations) (label : String) : List Double → Except Fault (List Double)
  | second :: first :: rest => (apply operations label first second).map (· :: rest)
  | _ => .error .emptyStack

/-- A tree that is to be evaluated. -/
structure Task where
  /-- The tree. -/
  tree : Tree
  /-- The values of its subtrees are on the stack already. -/
  operandsDone : Bool

/-- A bound on the steps that a task still takes. -/
def Task.weight (task : Task) : Nat := if task.operandsDone then 1 else 2 * task.tree.size

/-- A bound on the steps that several tasks still take. -/
def totalWeight : List Task → Nat
  | [] => 0
  | task :: tasks => task.weight + totalWeight tasks

/-- Runs the machine until no task is left, and gives the stack. A branch is put back behind its
subtrees, the left one in front of the right one. -/
def run (operations : Operations) : List Task → List Double → Except Fault (List Double)
  | [], values => .ok values
  | ⟨.leaf label, _⟩ :: tasks, values =>
    match load label with
    | .error fault => .error fault
    | .ok value => run operations tasks (value :: values)
  | ⟨.branch label _ _, true⟩ :: tasks, values =>
    match reduce operations label values with
    | .error fault => .error fault
    | .ok values => run operations tasks values
  | ⟨.branch label left right, false⟩ :: tasks, values =>
    run operations
      (⟨left, false⟩ :: ⟨right, false⟩ :: ⟨.branch label left right, true⟩ :: tasks) values
termination_by tasks => totalWeight tasks
decreasing_by
  · simp only [totalWeight, Task.weight, Tree.size]
    split <;> omega
  · simp only [totalWeight, Task.weight, if_true]
    omega
  · simp only [totalWeight, Task.weight, Tree.size, if_true, Bool.false_eq_true, if_false]
    omega

/-- The value of a tree by recursion, or the first fault. -/
def value (operations : Operations) : Tree → Except Fault Double
  | .leaf label => load label
  | .branch label left right =>
    match value operations left with
    | .error fault => .error fault
    | .ok first =>
      match value operations right with
      | .error fault => .error fault
      | .ok second => apply operations label first second

/-- A branch has a value exactly if its subtrees have values and its operation makes that value of
them. -/
theorem value_branch_eq_ok_iff {operations : Operations} {label : String} {left right : Tree}
    {result : Double} :
    value operations (.branch label left right) = .ok result ↔
      ∃ x y operation, value operations left = .ok x ∧ value operations right = .ok y ∧
        operations label = some operation ∧ operation x y = .ok result := by
  constructor
  · intro found
    rw [value] at found
    cases leftFound : value operations left with
    | error fault =>
      rw [leftFound] at found
      cases found
    | ok x =>
      cases rightFound : value operations right with
      | error fault =>
        rw [leftFound, rightFound] at found
        cases found
      | ok y =>
        simp only [leftFound, rightFound, apply] at found
        cases known : operations label with
        | none =>
          rw [known] at found
          cases found
        | some operation =>
          rw [known] at found
          cases outcome : operation x y with
          | error fault =>
            simp only [outcome] at found
            cases found
          | ok value =>
            simp only [outcome] at found
            cases found
            exact ⟨x, y, operation, rfl, rfl, rfl, outcome⟩
  · rintro ⟨x, y, operation, leftFound, rightFound, known, outcome⟩
    simp only [value, leftFound, rightFound, apply, known, outcome]
    rfl

/-- A tree in front of other tasks puts its value on the stack, whatever is there already. -/
theorem run_task (operations : Operations) (tree : Tree) (tasks : List Task)
    (values : List Double) :
    run operations (⟨tree, false⟩ :: tasks) values =
      match value operations tree with
      | .error fault => .error fault
      | .ok found => run operations tasks (found :: values) := by
  induction tree generalizing tasks values with
  | leaf label => rw [run, value]
  | branch label left right leftRun rightRun =>
    rw [run, leftRun, value]
    cases value operations left with
    | error fault => rfl
    | ok first =>
      simp only [rightRun]
      cases value operations right with
      | error fault => rfl
      | ok second =>
        -- Both operands lie on the stack when the branch comes up again.
        simp only [run, reduce]
        cases apply operations label first second with
        | error fault => rfl
        | ok result => rfl

/-- The machine ends with the value of the tree and nothing else on the stack, or with the first
fault of the recursion. -/
theorem run_eq (operations : Operations) (tree : Tree) :
    run operations [⟨tree, false⟩] [] = (value operations tree).map fun found => [found] := by
  rw [run_task]
  cases value operations tree with
  | error fault => rfl
  | ok found => simp only [run, Except.map]

/-- Operations that never fail give what the table of them gives. -/
theorem value_of_total {operations : Operations} {table : OperatorTable}
    (total : ∀ label, operations label =
      (table label).map fun operation x y => .ok (operation x y)) (tree : Tree) :
    value operations tree = (tree.valueWith table).mapError .evaluation := by
  induction tree with
  | leaf label =>
    rw [value, load, Tree.valueWith]
    cases Numeral.read? label with
    | none => rfl
    | some found => rfl
  | branch label left right leftValue rightValue =>
    rw [value, leftValue, rightValue, Tree.valueWith]
    cases left.valueWith table with
    | error error => rfl
    | ok first =>
      cases right.valueWith table with
      | error error => rfl
      | ok second =>
        change apply operations label first second = _
        rw [apply, total]
        cases table label with
        | none => rfl
        | some operation => rfl

end StackMachine

end Calculator
