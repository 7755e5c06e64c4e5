import Calculator.Token

/-!
# Pieces of a source text

A source text is cut at its delimiters, which are the blanks and the symbols. Each delimiter is a
piece by itself, and so is each run of other characters between two delimiters.
-/

namespace Calculator.Piece

/-- The character separates tokens and has no other meaning. -/
def isBlankChar (c : Char) : Bool := c == '\t' || c == '\n' || c == '\r' || c == ' '

/-- The character is a piece by itself. -/
def isDelimiter (c : Char) : Bool := isBlankChar c || (Symbol.ofChar? c).isSome

/-- The pieces of a text with one more character in front: the character joins a run that starts
the text and is a new piece otherwise. -/
def cons (c : Char) : List (List Char) → List (List Char)
  | [] => [[c]]
  | first :: rest =>
    if isDelimiter c || first.head?.any isDelimiter then [c] :: first :: rest
    else (c :: first) :: rest

/-- The pieces of a text as lists of characters. -/
def splitChars (text : List Char) : List (List Char) := text.foldr cons []

/-- The pieces of a text in order, the blanks among them. -/
def split (text : String) : List String := (splitChars text.toList).map String.ofList

/-- The piece is a blank. -/
def isBlank (piece : String) : Bool :=
  match piece.toList with
  | [c] => isBlankChar c
  | _ => false

end Calculator.Piece
