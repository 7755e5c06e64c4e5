import Calculator.Text.Quoted
import Calculator.Tree

/-!
# Trees as records

The text of a tree as nested records on one line. The labels are quoted, and a leaf has no
subtrees.
-/

namespace Calculator.Tree

/-- The record of a node with the given texts in the place of its subtrees. -/
def nodeRecord (label left right : String) : String :=
  "TreeNode(symbol=" ++ Text.quoted label ++ ", left=" ++ left ++ ", right=" ++ right ++ ")"

/-- The record of a tree. -/
def record : Tree → String
  | leaf label => nodeRecord label "None" "None"
  | branch label left right => nodeRecord label left.record right.record

/-- The record of a whole parsed expression. -/
def parsedRecord (tree : Tree) : String := "ParseTree(" ++ tree.record ++ ")"

end Calculator.Tree
