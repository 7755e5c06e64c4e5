import Calculator.Token

/-!
# Errors in expressions

The causes for which an expression is refused, and the one wording of each.
-/

namespace Calculator

/-- Why a piece of text is no token. -/
inductive LexError where
  /-- A literal whose nearest double would be infinite. -/
  | numberOutOfRange
  /-- Digits and points that do not form a literal. -/
  | malformedNumber
  /-- Any other piece. -/
  | illegalCharacter (piece : String)
deriving DecidableEq

/-- Why a sequence of tokens is no expression. -/
inductive ParseError where
  /-- A token of this kind had to come next. -/
  | expected (kind : TokenKind)
  /-- A number or an opening parenthesis had to come next. -/
  | expectedOperand
  /-- More parentheses are open than the parser follows. -/
  | nestedTooDeeply
deriving DecidableEq

/-- Why a text is no expression. -/
inductive SyntaxError where
  | lex (error : LexError)
  | parse (error : ParseError)
deriving DecidableEq

/-- The wording of the error. -/
def LexError.message : LexError → String
  | numberOutOfRange => "Lexer error: Number out of range"
  | malformedNumber => "Lexer error: Illegal format for a number"
  | illegalCharacter piece => "Lexer error: Illegal character in '" ++ piece ++ "'"

/-- The wording of the error. -/
def ParseError.message : ParseError → String
  | expected .endOfInput => "Unexpected text after the expression."
  | expected .number => "Parse error: Expected a number."
  | expected (.symbol symbol) => "Parse error: Expected a " ++ symbol.text ++ "."
  | expectedOperand => "Parse Error: Expected a number or a parenthesis."
  | nestedTooDeeply => "Parse error: Expression nested too deeply."

/-- The wording of the error. -/
def SyntaxError.message : SyntaxError → String
  | lex error => error.message
  | parse error => error.message

end Calculator
