import Calculator.Tree

/-!
# The outline of a tree

An outline has one line for each node, the label indented by one tab for each level. A node comes
before its subtrees, and the left subtree before the right one. The trees that are still to be
written wait in a list, so that a deep tree needs no deep recursion.
-/

namespace Calculator.Tree

/-- The line of a node at a level. -/
def outlineLine (level : Nat) (label : String) : String := "".pushn '\t' level ++ label ++ "\n"

/-- The number of nodes of waiting trees. -/
def waitingSize : List (Nat × Tree) → Nat
  | [] => 0
  | (_, tree) :: waiting => tree.size + waitingSize waiting

/-- Writes the outlines of waiting trees, each at its own level, behind a text. -/
def outlineOnto (text : String) : List (Nat × Tree) → String
  | [] => text
  | (level, leaf label) :: waiting => outlineOnto (text ++ outlineLine level label) waiting
  | (level, branch label left right) :: waiting =>
    outlineOnto (text ++ outlineLine level label)
      ((level + 1, left) :: (level + 1, right) :: waiting)
termination_by waiting => waitingSize waiting
decreasing_by
  all_goals simp only [waitingSize, size]; omega

/-- The outline of a tree. -/
def outline (tree : Tree) : String := outlineOnto "" [(0, tree)]

end Calculator.Tree
