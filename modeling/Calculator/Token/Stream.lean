import Calculator.Token.Classification
import Calculator.Token.Piece

/-!
# The tokens of a source

The tokens that the pieces of a source stand for, in order and up to the end of the input, or up
to the first piece that is no token.
-/

namespace Calculator.Token

/-- The tokens of the pieces that are no blanks, and what is wrong with the first piece that is no
token. The end of the input follows the last piece. -/
def ofPieces : List String → List Token × Option LexError
  | [] => ([endOfInput], none)
  | piece :: rest =>
    if Piece.isBlank piece then ofPieces rest
    else
      match ofPiece piece with
      | .error error => ([], some error)
      | .ok token =>
        let (tokens, error) := ofPieces rest
        (token :: tokens, error)

/-- The tokens of a source. -/
def ofSource (source : String) : List Token × Option LexError := ofPieces (Piece.split source)

end Calculator.Token
