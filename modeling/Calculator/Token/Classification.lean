import Calculator.Decimal.Literal
import Calculator.SyntaxError

/-!
# Classification of pieces

A piece is a symbol, a number that a double can hold, or no token at all. The question is asked of
any text, not only of pieces that cutting a source produces.
-/

namespace Calculator.Token

/-- The token of a piece. A literal stands for the double nearest to it; one whose nearest double
would be infinite is refused, and so is every other text. -/
def ofPiece (piece : String) : Except LexError Token :=
  let text := piece.toList
  match Symbol.ofText? text with
  | some s => .ok (symbol s)
  | none =>
    match Decimal.ofLiteral? text with
    | some decimal =>
      match decimal.nearest? with
      | some magnitude => .ok (number (.finite false magnitude))
      | none => .error .numberOutOfRange
    | none =>
      if !text.isEmpty && text.all (fun c => c.isDigit || c == '.') then .error .malformedNumber
      else .error (.illegalCharacter piece)

end Calculator.Token
