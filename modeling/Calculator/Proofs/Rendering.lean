import Calculator.Proofs.Literals
import Calculator.Proofs.Parsing
import Calculator.Proofs.Phrases

/-!
# Writing trees as expressions

A tree is written with each leaf as a literal and with parentheses around exactly those operands
that would otherwise be read differently. Parsing what is written gives the tree back. Read in
order, the nodes of any parsed tree are the numbers and operators of its source.
-/

namespace Calculator

namespace Tree

/-- How tight the root of a tree binds: a leaf is an operand, and a branch has the level of its
operator. A label that is no operator counts as the loosest one. -/
def level : Tree → Level
  | leaf _ => .operands
  | branch label _ _ => ((Symbol.ofText? label.toList).bind Symbol.level?).getD .maxima

/-- The labels of a tree from left to right, those of the leaves apart from those of the
branches. -/
def inOrder : Tree → List (String ⊕ String)
  | leaf label => [.inl label]
  | branch label left right => left.inOrder ++ .inr label :: right.inOrder

/-- The text of an operand, in parentheses if its root binds looser than its place needs. -/
def operandText (needed : Level) (operand : Tree) (text : String) : String :=
  if needed.rank ≤ operand.level.rank then text else Text.enclosed text

end Tree

/-- The tree has operators at its branches, and at its leaves the texts of finite numbers that are
not negative. -/
inductive Tree.IsExpression : Tree → Prop where
  /-- A number is a leaf. -/
  | leaf (magnitude : Magnitude) : IsExpression (.leaf (Double.finite false magnitude).text)
  /-- An operator is a branch. -/
  | branch {level : Level} {s : Symbol} {left right : Tree} (operator : s.level? = some level)
      (leftExpression : IsExpression left) (rightExpression : IsExpression right) :
      IsExpression (.branch s.text left right)

/-- The tree may be written as the text. -/
inductive Written : Tree → String → Prop where
  /-- A leaf is written as any literal of its number. -/
  | literal {piece : String} {value : Double}
      (isNumber : Token.ofPiece piece = .ok (.number value)) :
      Written (.leaf value.text) piece
  /-- A branch is written as its operands with its operator between them. -/
  | operation {level : Level} {s : Symbol} {left right : Tree} {leftText rightText : String}
      (operator : s.level? = some level) (leftWritten : Written left leftText)
      (rightWritten : Written right rightText) :
      Written (.branch s.text left right)
        (left.operandText level.leftOperand leftText ++ s.text ++
          right.operandText level.rightOperand rightText)

/-- Exactly the trees of operators and finite numbers that are not negative may be written. -/
theorem exists_written_iff (tree : Tree) : (∃ text, Written tree text) ↔ tree.IsExpression := by
  constructor
  · rintro ⟨text, written⟩
    induction written with
    | literal isNumber =>
      obtain ⟨_, magnitude, _, _, rfl⟩ := Token.literal_of_ofPiece isNumber
      exact .leaf magnitude
    | operation operator _ _ leftExpression rightExpression =>
      exact .branch operator leftExpression rightExpression
  · intro expression
    induction expression with
    | leaf magnitude => exact ⟨_, .literal magnitude.ofPiece_exactLiteral⟩
    | branch operator _ _ leftExists rightExists =>
      obtain ⟨leftText, leftWritten⟩ := leftExists
      obtain ⟨rightText, rightWritten⟩ := rightExists
      exact ⟨_, .operation operator leftWritten rightWritten⟩

namespace Tree

/-- A branch with an operator has the level of the operator. -/
theorem level_branch {level : Level} {s : Symbol} (operator : s.level? = some level)
    (left right : Tree) : (branch s.text left right).level = level := by
  rw [Tree.level, Symbol.ofText?_text, Option.bind_some, operator, Option.getD_some]

end Tree

namespace Phrase

/-- Every phrase is an expression. -/
theorem expression {level : Level} {text : String} {tree : Tree} (phrase : Phrase level text tree) :
    Phrase .maxima text tree := by
  have loosest : Level.maxima.rank ≤ level.rank := by
    cases level <;> decide
  exact phrase.loosen loosest

/-- An operand is a phrase of the level that its place needs. -/
theorem operandText {needed : Level} {tree : Tree} {text : String}
    (phrase : Phrase tree.level text tree) : Phrase needed (tree.operandText needed text) tree := by
  unfold Tree.operandText
  split
  · next tight => exact phrase.loosen tight
  · have tightest : needed.rank ≤ Level.operands.rank := by
      cases needed <;> decide
    exact phrase.expression.enclosed.loosen tightest

/-- What a tree is written as is a phrase of the level of its root. -/
theorem of_written {tree : Tree} {text : String} (written : Written tree text) :
    Phrase tree.level text tree := by
  induction written with
  | literal isNumber => exact literal isNumber
  | @operation level s left right leftText rightText operator _ _ leftPhrase rightPhrase =>
    rw [Tree.level_branch operator]
    exact branch operator leftPhrase.operandText rightPhrase.operandText

end Phrase

/-- The node that a token leads to; parentheses and the end of the input leave none. -/
def Token.node? : Token → Option (String ⊕ String)
  | number value => some (.inl value.text)
  | symbol s => if s.level?.isSome then some (.inr s.text) else none
  | endOfInput => none

/-- An operator leads to a node. -/
theorem Token.node?_operator {level : Level} {s : Symbol} (operator : s.level? = some level) :
    (symbol s).node? = some (.inr s.text) := by
  simp [node?, operator]

/-- The nodes of a tree in order are the numbers and operators of its phrase. -/
theorem Derives.filterMap_node? {level : Level} {tokens : List Token} {tree : Tree}
    (phrase : Derives level tokens tree) : tokens.filterMap Token.node? = tree.inOrder := by
  induction phrase with
  | number value => rfl
  | enclosed _ ih => simpa [Token.node?, Symbol.level?] using ih
  | alone _ _ ih => exact ih
  | left operator _ _ _ leftNodes rightNodes =>
    have node := Token.node?_operator operator
    rw [List.filterMap_append, leftNodes, List.filterMap_cons_some node, rightNodes]
    rfl
  | right _ _ leftNodes rightNodes =>
    have node := Token.node?_operator (show Symbol.power.level? = some .powers from rfl)
    rw [List.filterMap_append, leftNodes, List.filterMap_cons_some node, rightNodes]
    rfl

/-- Every tree of operators and finite numbers that are not negative may be written, and parsing
what it is written as gives the tree, if the text keeps to the guaranteed nesting. Conversely, if a
source is parsed, then the numbers and operators among its tokens are the nodes of its tree in
order. -/
theorem parse_of_written_and_inOrder :
    (∀ tree : Tree, tree.IsExpression →
      (∃ text, Written tree text) ∧
        ∀ text, Written tree text → Text.NestsWithin Parser.guaranteedNesting text →
          parse text = .ok tree) ∧
    ∀ text tree, parse text = .ok tree →
      ∃ tokens, Token.ofSource text = (tokens ++ [.endOfInput], none) ∧
        tokens.filterMap Token.node? = tree.inOrder := by
  constructor
  · intro tree expression
    refine ⟨(exists_written_iff tree).mpr expression, fun text written nests => ?_⟩
    obtain ⟨tokens, read, derived⟩ := (Phrase.of_written written).expression
    exact Parser.parse_of_derives nests read derived
  · intro text tree parsed
    obtain ⟨tokens, read, derived⟩ := Parser.derives_of_parse parsed
    exact ⟨tokens, read, derived.filterMap_node?⟩

/-- A maximum in front of a power is written in parentheses, and parsing the text gives the tree. -/
theorem parse_of_written_and_inOrder_power :
    parse "(1#1.)^1" = .ok (.branch Symbol.power.text
        (.branch Symbol.maximum.text (.leaf Double.one.text) (.leaf Double.one.text))
        (.leaf Double.one.text)) ∧
      ∃ tokens, Token.ofSource "(1#1.)^1" = (tokens ++ [.endOfInput], none) ∧
        tokens.filterMap Token.node? =
          [.inl Double.one.text, .inr Symbol.maximum.text, .inl Double.one.text,
            .inr Symbol.power.text, .inl Double.one.text] := by
  have one : Written (.leaf Double.one.text) "1" := .literal (by decide +kernel)
  have otherOne : Written (.leaf Double.one.text) "1." := .literal (by decide +kernel)
  have nests : Text.NestsWithin Parser.guaranteedNesting "(1#1.)^1" := by decide
  have isMaximum : Symbol.maximum.level? = some .maxima := rfl
  have isPower : Symbol.power.level? = some .powers := rfl
  have written := Written.operation isPower (.operation isMaximum one otherOne) one
  have expression := (exists_written_iff _).mp ⟨_, written⟩
  have parsed := (parse_of_written_and_inOrder.1 _ expression).2 "(1#1.)^1" written nests
  exact ⟨parsed, parse_of_written_and_inOrder.2 _ _ parsed⟩

end Calculator
