import Calculator.Token.Classification
import Calculator.Token.Piece

/-!
# The lexer: one token of look-ahead

A lexer holds the current token and the pieces that are still unread. Its one move is to advance
to the next token. A piece that is no token is an error; it counts as read, and the current token
stays what it was. The journal keeps what each advance met.
-/

namespace Calculator

/-- The state of reading an expression token by token. -/
structure Lexer where
  /-- The token that was read last. -/
  current : Token
  /-- The pieces that follow it. -/
  unread : List String
  /-- What each advance met, the latest first: a token, or a piece that is none. -/
  journal : List (Except LexError Token)

namespace Lexer

/-- A lexer that has read nothing of a source yet. -/
def ofSource (source : String) : Lexer := ⟨.endOfInput, Piece.split source, []⟩

/-- Reads the next piece that is not blank. At the end of the source the current token becomes the
end of the input, however often one advances there. -/
def advance : EStateM SyntaxError Lexer Unit := fun lexer =>
  match lexer.unread.dropWhile Piece.isBlank with
  | [] => .ok () ⟨.endOfInput, [], .ok .endOfInput :: lexer.journal⟩
  | piece :: unread =>
    match Token.ofPiece piece with
    | .ok token => .ok () ⟨token, unread, .ok token :: lexer.journal⟩
    | .error error => .error (.lex error) ⟨lexer.current, unread, .error error :: lexer.journal⟩

end Lexer

end Calculator
