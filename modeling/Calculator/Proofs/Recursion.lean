import Calculator.Evaluation

/-!
# Evaluation by recursion

The walk through a tree, which keeps its branches in a list, gives what the plain recursion over
the tree gives, whatever the table of operators. From that it follows that a subtree matters to the
value of a tree by its own value only.
-/

namespace Calculator

namespace Tree

/-- The value of a tree by recursion: the left subtree is evaluated first, then the right one, and
then the label is looked up. -/
def valueWith (table : OperatorTable) : Tree → Except EvaluationError Double
  | leaf label =>
    match Numeral.read? label with
    | none => .error (.notANumber label)
    | some value => .ok value
  | branch label left right =>
    match left.valueWith table with
    | .error error => .error error
    | .ok first =>
      match right.valueWith table with
      | .error error => .error error
      | .ok second =>
        match table label with
        | none => .error (.unknownOperator label)
        | some operation => .ok (operation first second)

end Tree

namespace Evaluation

/-- In front of a tree the walk evaluates the tree and goes on behind it with its value. -/
theorem walk_before (table : OperatorTable) (tree : Tree) (frames : List Frame) :
    walk table (.before tree) frames =
      match tree.valueWith table with
      | .error error => .error error
      | .ok value => walk table (.behind value) frames := by
  induction tree generalizing frames with
  | leaf label =>
    rw [walk, Tree.valueWith]
    cases Numeral.read? label with
    | none => rfl
    | some value => rfl
  | branch label left right leftWalk rightWalk =>
    rw [walk, leftWalk, Tree.valueWith]
    cases left.valueWith table with
    | error error => rfl
    | ok first =>
      simp only [walk, rightWalk]
      cases right.valueWith table with
      | error error => rfl
      | ok second =>
        simp only
        cases table label with
        | none => rfl
        | some operation => rfl

end Evaluation

namespace Tree

/-- The walk through a tree and the recursion give the same. -/
theorem evaluateWith_eq (table : OperatorTable) (tree : Tree) :
    tree.evaluateWith table = tree.valueWith table := by
  rw [evaluateWith, Evaluation.walk_before]
  cases tree.valueWith table with
  | error error => rfl
  | ok value => simp only [Evaluation.walk]

/-- A tree in which one subtree is left out. -/
inductive Context where
  /-- The whole tree is left out. -/
  | hole
  /-- A part of the left subtree of a branch is left out. -/
  | left (label : String) (context : Context) (sibling : Tree)
  /-- A part of the right subtree of a branch is left out. -/
  | right (label : String) (sibling : Tree) (context : Context)

/-- The tree with a subtree in the place that was left out. -/
def Context.fill (tree : Tree) : Context → Tree
  | hole => tree
  | left label context sibling => branch label (context.fill tree) sibling
  | right label sibling context => branch label sibling (context.fill tree)

/-- A subtree matters to the value of a tree by its own value only. -/
theorem evaluateWith_fill {table : OperatorTable} {tree other : Tree}
    (same : tree.evaluateWith table = other.evaluateWith table) (context : Context) :
    (context.fill tree).evaluateWith table = (context.fill other).evaluateWith table := by
  simp only [evaluateWith_eq] at same ⊢
  induction context with
  | hole => exact same
  | left label context sibling ih => simp only [Context.fill, valueWith, ih]
  | right label sibling context ih => simp only [Context.fill, valueWith, ih]

end Tree

end Calculator
