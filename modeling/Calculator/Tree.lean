/-!
# Expression trees

A tree is a leaf, which carries a label, or a branch, which carries a label and has two subtrees.
Labels are texts without any further condition; a parsed expression has numbers at its leaves and
operators at its branches.
-/

namespace Calculator

/-- An expression as a tree of labels. -/
inductive Tree where
  | leaf (label : String)
  | branch (label : String) (left right : Tree)
deriving DecidableEq

namespace Tree

/-- The number of nodes. -/
def size : Tree → Nat
  | leaf _ => 1
  | branch _ left right => left.size + right.size + 1

/-- The tree is a leaf. -/
def isLeaf : Tree → Bool
  | leaf _ => true
  | branch .. => false

/-- Why parts do not form a tree: the node of this label has one subtree. -/
structure ShapeError where
  /-- The label of the node. -/
  label : String

/-- The wording of the error. -/
def ShapeError.message (error : ShapeError) : String :=
  "Node '" ++ error.label ++ "' must have zero or two children"

/-- The tree of a label and the subtrees that are there: both or none. -/
def ofParts (label : String) : (left right : Option Tree) → Except ShapeError Tree
  | none, none => .ok (leaf label)
  | some left, some right => .ok (branch label left right)
  | _, _ => .error ⟨label⟩

end Tree

end Calculator
