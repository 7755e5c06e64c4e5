import Calculator.Proofs.Grammar
import Calculator.Proofs.Pieces
import Calculator.Token.Stream
import Mathlib.Logic.Function.Iterate

/-!
# Phrases of a source text

A text is a phrase of a level if all its pieces but the blanks are tokens and the grammar derives a
tree from them. A symbol between two texts is never taken for a part of one of them, so that
phrases are put together in texts as they are in lists of tokens.
-/

namespace Calculator

/-- A text in parentheses. -/
def Text.enclosed (text : String) : String := "(" ++ text ++ ")"

/-- Parentheses are symbols. -/
theorem Text.enclosed_eq (text : String) :
    Text.enclosed text = Symbol.openParen.text ++ text ++ Symbol.closeParen.text := rfl

/-- The tokens in parentheses. -/
def Token.enclosed (tokens : List Token) : List Token :=
  .symbol .openParen :: (tokens ++ [.symbol .closeParen])

/-- The pieces of a text in parentheses are those of the text and the two parentheses. -/
theorem Piece.split_enclosed (text : String) :
    split (Text.enclosed text) =
      Symbol.openParen.text :: (split text ++ [Symbol.closeParen.text]) := by
  have apart : Text.enclosed text =
      "" ++ Symbol.openParen.text ++ (text ++ Symbol.closeParen.text ++ "") := by
    rw [Text.enclosed_eq, String.empty_append, String.append_empty, String.append_assoc]
  rw [apart, split_around, split_around]
  rfl

/-- A text in parentheses is cut from what surrounds it. -/
theorem Piece.split_append_enclosed (front text back : String) :
    split (front ++ Text.enclosed text ++ back) =
      split front ++ split (Text.enclosed text) ++ split back := by
  have apart : front ++ Text.enclosed text ++ back =
      front ++ Symbol.openParen.text ++ (text ++ Symbol.closeParen.text ++ back) := by
    rw [Text.enclosed_eq]
    simp only [String.append_assoc]
  rw [apart, split_around, split_around, split_enclosed]
  simp

namespace Token

/-- The first piece of a source without bad pieces is a blank or its first token. -/
theorem ofPieces_cons_cases {piece : String} {rest : List String} {tokens : List Token}
    (read : ofPieces (piece :: rest) = (tokens ++ [endOfInput], none)) :
    (Piece.isBlank piece = true ∧ ofPieces rest = (tokens ++ [endOfInput], none)) ∨
      ∃ token others, Piece.isBlank piece = false ∧ ofPiece piece = .ok token ∧
        tokens = token :: others ∧ ofPieces rest = (others ++ [endOfInput], none) := by
  rw [ofPieces] at read
  split at read
  · next blank => exact .inl ⟨blank, read⟩
  · next notBlank =>
    rw [Bool.not_eq_true] at notBlank
    refine .inr ?_
    cases classified : ofPiece piece with
    | error error => simp [classified] at read
    | ok token =>
      simp only [classified, Prod.mk.injEq] at read
      cases tokens with
      | nil =>
        obtain ⟨isEnd, _⟩ := List.cons.inj read.1
        exact absurd (isEnd ▸ classified) (ofPiece_ne_endOfInput piece)
      | cons first others =>
        obtain ⟨rfl, same⟩ := List.cons.inj read.1
        exact ⟨token, others, notBlank, rfl, rfl, Prod.ext same read.2⟩

/-- The tokens of pieces follow those of the pieces before them. -/
theorem ofPieces_append {front : List String} {tokens : List Token} (back : List String)
    (read : ofPieces front = (tokens ++ [endOfInput], none)) :
    ofPieces (front ++ back) = (tokens ++ (ofPieces back).1, (ofPieces back).2) := by
  induction front generalizing tokens with
  | nil =>
    obtain rfl : tokens = [] := by simpa [ofPieces] using read
    rfl
  | cons piece rest ih =>
    rw [List.cons_append, ofPieces]
    obtain ⟨blank, further⟩ | ⟨token, others, noBlank, classified, rfl, further⟩ :=
      ofPieces_cons_cases read
    · rw [if_pos blank, ih further]
    · simp [noBlank, classified, ih further]

/-- The tokens of pieces are those of their first and of their other pieces. -/
theorem exists_of_ofPieces_append {front back : List String} {tokens : List Token}
    (read : ofPieces (front ++ back) = (tokens ++ [endOfInput], none)) :
    ∃ first second, tokens = first ++ second ∧ ofPieces front = (first ++ [endOfInput], none) ∧
      ofPieces back = (second ++ [endOfInput], none) := by
  induction front generalizing tokens with
  | nil => exact ⟨[], tokens, rfl, rfl, read⟩
  | cons piece rest ih =>
    obtain ⟨blank, further⟩ | ⟨token, others, noBlank, classified, rfl, further⟩ :=
      ofPieces_cons_cases read
    · obtain ⟨first, second, same, readFirst, readSecond⟩ := ih further
      exact ⟨first, second, same, by rw [ofPieces, if_pos blank, readFirst], readSecond⟩
    · obtain ⟨first, second, rfl, readFirst, readSecond⟩ := ih further
      exact ⟨token :: first, second, rfl, by simp [ofPieces, noBlank, classified, readFirst],
        readSecond⟩

/-- A symbol by itself is read as such. -/
theorem ofPieces_symbol (s : Symbol) (rest : List String) :
    ofPieces (s.text :: rest) = (.symbol s :: (ofPieces rest).1, (ofPieces rest).2) := by
  simp [ofPieces, Piece.isBlank_text, ofPiece_eq_symbol_iff.mpr rfl]

/-- A symbol between two texts is a token between theirs. -/
theorem ofSource_around {front : String} {tokens : List Token} (s : Symbol) (back : String)
    (read : ofSource front = (tokens ++ [endOfInput], none)) :
    ofSource (front ++ s.text ++ back) =
      (tokens ++ .symbol s :: (ofSource back).1, (ofSource back).2) := by
  rw [ofSource, Piece.split_around, ofPieces_append _ read, ofPieces_symbol]
  rfl

/-- The tokens of a text in parentheses are those of the text in parentheses. -/
theorem ofSource_enclosed {text : String} {tokens : List Token}
    (read : ofSource text = (tokens ++ [endOfInput], none)) :
    ofSource (Text.enclosed text) = (enclosed tokens ++ [endOfInput], none) := by
  have closing : ofPieces [Symbol.closeParen.text] = ([.symbol .closeParen, endOfInput], none) := by
    rw [ofPieces_symbol]
    rfl
  rw [ofSource, Piece.split_enclosed, ofPieces_symbol, ofPieces_append _ read, closing]
  simp [enclosed]

end Token

/-- The text is a phrase of the level, and the tree is what it stands for. -/
def Phrase (level : Level) (text : String) (tree : Tree) : Prop :=
  ∃ tokens, Token.ofSource text = (tokens ++ [.endOfInput], none) ∧ Derives level tokens tree

namespace Phrase

/-- A phrase is a phrase of every looser level. -/
theorem loosen {level other : Level} {text : String} {tree : Tree}
    (phrase : Phrase other text tree) (looser : level.rank ≤ other.rank) :
    Phrase level text tree := by
  obtain ⟨tokens, read, derived⟩ := phrase
  exact ⟨tokens, read, derived.loosen looser⟩

/-- A literal is an operand. -/
theorem literal {piece : String} {value : Double}
    (isNumber : Token.ofPiece piece = .ok (.number value)) :
    Phrase .operands piece (.leaf value.text) := by
  obtain ⟨decimal, magnitude, literal, _, _⟩ := Token.literal_of_ofPiece isNumber
  obtain ⟨nonempty, numeric⟩ := Decimal.characters_of_ofLiteral? literal
  have noDelimiter : ∀ c ∈ piece.toList, Piece.isDelimiter c = false :=
    fun c among => Piece.isDelimiter_eq_false (numeric c among)
  have noBlank : Piece.isBlank piece = false := by
    rw [Piece.isBlank]
    split
    · next c alone =>
      have free := noDelimiter c (by simp [alone])
      rw [Piece.isDelimiter, Bool.or_eq_false_iff] at free
      exact free.1
    · rfl
  refine ⟨[.number value], ?_, .number value⟩
  rw [Token.ofSource, Piece.split_run nonempty noDelimiter]
  simp [Token.ofPieces, noBlank, isNumber]

/-- An expression in parentheses is an operand. -/
theorem enclosed {text : String} {tree : Tree} (expression : Phrase .maxima text tree) :
    Phrase .operands (Text.enclosed text) tree := by
  obtain ⟨tokens, read, derived⟩ := expression
  exact ⟨Token.enclosed tokens, Token.ofSource_enclosed read, .enclosed derived⟩

/-- An expression in any number of parentheses is an expression with the same tree. -/
theorem iterate_enclosed {text : String} {tree : Tree} (expression : Phrase .maxima text tree)
    (depth : Nat) : Phrase .maxima (Text.enclosed^[depth] text) tree := by
  induction depth with
  | zero => exact expression
  | succ depth ih =>
    rw [Function.iterate_succ_apply']
    exact ih.enclosed.loosen (by decide)

/-- Operands of an operator and the operator between them are a phrase of its level. -/
theorem branch {level : Level} {s : Symbol} {front back : String} {first second : Tree}
    (operator : s.level? = some level) (leftPhrase : Phrase level.leftOperand front first)
    (rightPhrase : Phrase level.rightOperand back second) :
    Phrase level (front ++ s.text ++ back) (.branch s.text first second) := by
  obtain ⟨before, readBefore, derivedBefore⟩ := leftPhrase
  obtain ⟨after, readAfter, derivedAfter⟩ := rightPhrase
  refine ⟨_, ?_, .branch operator derivedBefore derivedAfter⟩
  rw [Token.ofSource_around s back readBefore, readAfter]
  simp

end Phrase

end Calculator
