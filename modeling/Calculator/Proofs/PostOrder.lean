import Calculator.Proofs.StackMachine

/-!
# Evaluation in post-order

The subtrees of a tree in post-order are the order of its evaluation: the first of them that fails
is the failure of the whole tree. The main statement joins the ways to evaluate a tree. The walk
with its branches in a list, the recursion over the tree, and the machine with its tasks and its
stack of values all end with the one value of the tree, or with that first failure. The table of
operators may be any, and on the machine an operation may fail as well.
-/

namespace Calculator

namespace Tree

/-- The subtrees of a tree and the tree itself, each one behind its own subtrees, those of the left
side in front of those of the right side. -/
def postOrder : Tree → List Tree
  | leaf label => [leaf label]
  | branch label left right => left.postOrder ++ right.postOrder ++ [branch label left right]

/-- What is wrong with the root of a tree, whatever its subtrees are: the label of a leaf is no
numeral, or that of a branch is not in the table. -/
def rootError? (table : OperatorTable) : Tree → Option EvaluationError
  | leaf label => if (Numeral.read? label).isNone then some (.notANumber label) else none
  | branch label _ _ => if (table label).isNone then some (.unknownOperator label) else none

/-- The recursion fails with the first error of a root in post-order, and succeeds if there is
none. -/
theorem findSome?_rootError? (table : OperatorTable) (tree : Tree) :
    tree.postOrder.findSome? (rootError? table) =
      match tree.valueWith table with
      | .error error => some error
      | .ok _ => none := by
  induction tree with
  | leaf label =>
    rw [postOrder, List.findSome?_singleton, rootError?, valueWith]
    cases Numeral.read? label with
    | none => rfl
    | some value => rfl
  | branch label left right leftError rightError =>
    rw [postOrder, List.findSome?_append, List.findSome?_append, leftError, rightError, valueWith]
    cases left.valueWith table with
    | error error => rfl
    | ok first =>
      cases right.valueWith table with
      | error error => rfl
      | ok second =>
        rw [List.findSome?_singleton, rootError?]
        cases table label with
        | none => rfl
        | some operation => rfl

end Tree

namespace StackMachine

/-- The operations of a table, none of which fails. -/
def ofTable (table : OperatorTable) : Operations := fun label =>
  (table label).map fun operation x y => .ok (operation x y)

/-- Why a tree has no value. -/
def fault? (operations : Operations) (tree : Tree) : Option Fault :=
  match value operations tree with
  | .error fault => some fault
  | .ok _ => none

/-- The first subtree in post-order without a value is the reason for which the tree has none. -/
theorem findSome?_fault? (operations : Operations) (tree : Tree) :
    tree.postOrder.findSome? (fault? operations) = fault? operations tree := by
  induction tree with
  | leaf label => rw [Tree.postOrder, List.findSome?_singleton]
  | branch label left right leftFault rightFault =>
    rw [Tree.postOrder, List.findSome?_append, List.findSome?_append, leftFault, rightFault,
      List.findSome?_singleton]
    -- A subtree without a value leaves the tree without one, for the same reason.
    simp only [fault?, value]
    cases value operations left with
    | error fault => rfl
    | ok first =>
      cases value operations right with
      | error fault => rfl
      | ok second => rfl

/-- The application of an operation to its two values does not fail for want of values. -/
theorem apply_ne_emptyStack (operations : Operations) (label : String) (first second : Double) :
    apply operations label first second ≠ .error .emptyStack := by
  rw [apply]
  cases operations label with
  | none => simp
  | some operation =>
    show (operation first second).mapError Fault.arithmetic ≠ .error .emptyStack
    intro same
    cases found : operation first second with
    | error failure =>
      rw [found] at same
      cases same
    | ok result =>
      rw [found] at same
      cases same

/-- The recursion knows no stack, and so no stack with too few values. -/
theorem value_ne_emptyStack (operations : Operations) (tree : Tree) :
    value operations tree ≠ .error .emptyStack := by
  induction tree with
  | leaf label =>
    rw [value, load]
    cases Numeral.read? label with
    | none => simp
    | some found => simp
  | branch label left right leftValue rightValue =>
    rw [value]
    cases foundLeft : value operations left with
    | error fault => simpa [foundLeft] using leftValue
    | ok first =>
      cases foundRight : value operations right with
      | error fault => simpa [foundRight] using rightValue
      | ok second =>
        exact apply_ne_emptyStack operations label first second

/-- What may be evaluated. -/
inductive Subject where
  /-- A tree. -/
  | node (tree : Tree)
  /-- The parse of a whole source, by the root of its tree. -/
  | parsed (root : Tree)

/-- The tree that is evaluated. -/
def Subject.root : Subject → Tree
  | node tree => tree
  | parsed root => root

/-- Takes the value on top of the stack. -/
def pop : List Double → Except Fault Double
  | [] => .error .emptyStack
  | value :: _ => .ok value

/-- Runs the machine on the tree of a subject, and takes the value that it ends with. -/
def evaluate (operations : Operations) (subject : Subject) : Except Fault Double :=
  (run operations [⟨subject.root, false⟩] []).bind pop

/-- The value that is taken in the end is that of the recursion. -/
theorem evaluate_eq (operations : Operations) (subject : Subject) :
    evaluate operations subject = value operations subject.root := by
  rw [evaluate, run_eq]
  cases value operations subject.root with
  | error fault => rfl
  | ok found => rfl

end StackMachine

/-- For every table of operators the walk through a tree gives what the recursion gives. If the tree
has no value, the error is that of the first root in post-order which has one. The machine ends with
the value of the tree and no other one on its stack, or with that error. With operations that may
fail it ends with the one value of the recursion or with its fault, which is that of the first
subtree in post-order that has a fault; too few values on the stack are never the fault. The value
that is taken from the stack in the end is that of the recursion, for a tree and for a parse. -/
theorem walk_agrees_with_recursion :
    (∀ table tree, Tree.evaluateWith table tree = tree.valueWith table) ∧
    (∀ tree, Tree.evaluate tree = tree.valueWith operators) ∧
    (∀ table tree error, Tree.evaluateWith table tree = .error error ↔
      tree.postOrder.findSome? (Tree.rootError? table) = some error) ∧
    (∀ table tree, StackMachine.run (StackMachine.ofTable table) [⟨tree, false⟩] [] =
      match Tree.evaluateWith table tree with
      | .error error => .error (.evaluation error)
      | .ok value => .ok [value]) ∧
    ∀ operations tree,
      StackMachine.run operations [⟨tree, false⟩] [] =
        (StackMachine.value operations tree).map (fun value => [value]) ∧
      (∀ fault, StackMachine.run operations [⟨tree, false⟩] [] = .error fault ↔
        tree.postOrder.findSome? (StackMachine.fault? operations) = some fault) ∧
      StackMachine.run operations [⟨tree, false⟩] [] ≠ .error .emptyStack ∧
      StackMachine.evaluate operations (.node tree) = StackMachine.value operations tree ∧
      StackMachine.evaluate operations (.parsed tree) = StackMachine.value operations tree := by
  refine ⟨Tree.evaluateWith_eq, Tree.evaluateWith_eq operators, ?firstError, ?machine, ?faults⟩
  case firstError =>
    intro table tree error
    rw [Tree.evaluateWith_eq, Tree.findSome?_rootError?]
    cases tree.valueWith table with
    | error found => simp
    | ok value => simp
  case machine =>
    intro table tree
    have total := @StackMachine.value_of_total (StackMachine.ofTable table) table fun _ => rfl
    rw [StackMachine.run_eq, total, Tree.evaluateWith_eq]
    cases tree.valueWith table with
    | error error => rfl
    | ok value => rfl
  case faults =>
    intro operations tree
    have taken := StackMachine.evaluate_eq operations
    have notEmpty := StackMachine.value_ne_emptyStack operations tree
    rw [StackMachine.run_eq, StackMachine.findSome?_fault?, StackMachine.fault?]
    refine ⟨rfl, ?_, ?_, taken (.node tree), taken (.parsed tree)⟩
    · cases StackMachine.value operations tree with
      | error fault => simp [Except.map]
      | ok value => simp [Except.map]
    · cases found : StackMachine.value operations tree with
      | error fault =>
        rw [found] at notEmpty
        simpa [Except.map] using notEmpty
      | ok value => simp [Except.map]

end Calculator
