import Calculator.Double.Basic

/-!
# Tokens

An expression is made of numbers and of eight symbols: six operators and two parentheses. The end
of the input counts as a token of its own, so that there is always a current one.
-/

namespace Calculator

/-- A character that stands for itself in an expression. -/
inductive Symbol where
  | maximum
  | plus
  | minus
  | times
  | divide
  | power
  | openParen
  | closeParen
deriving DecidableEq

namespace Symbol

/-- The character of a symbol. -/
def char : Symbol → Char
  | maximum => '#'
  | plus => '+'
  | minus => '-'
  | times => '*'
  | divide => '/'
  | power => '^'
  | openParen => '('
  | closeParen => ')'

/-- The symbol as a text of one character. -/
def text (symbol : Symbol) : String := String.singleton symbol.char

/-- The symbol of a character. -/
def ofChar? : Char → Option Symbol
  | '#' => some maximum
  | '+' => some plus
  | '-' => some minus
  | '*' => some times
  | '/' => some divide
  | '^' => some power
  | '(' => some openParen
  | ')' => some closeParen
  | _ => none

/-- The symbol that a text consists of. -/
def ofText? : List Char → Option Symbol
  | [c] => ofChar? c
  | _ => none

/-- Reading the character of a symbol gives the symbol. -/
theorem ofChar?_char (symbol : Symbol) : ofChar? symbol.char = some symbol := by
  cases symbol <;> rfl

/-- The symbol is the operator that binds loosest. -/
def isMaximum : Symbol → Bool
  | maximum => true
  | _ => false

/-- The symbol is an operator of a sum. -/
def isSum : Symbol → Bool
  | plus | minus => true
  | _ => false

/-- The symbol is an operator of a product. -/
def isProduct : Symbol → Bool
  | times | divide => true
  | _ => false

end Symbol

/-- The smallest unit of an expression that has a meaning of its own. -/
inductive Token where
  /-- A number that is written in the expression. -/
  | number (value : Double)
  /-- An operator or a parenthesis. -/
  | symbol (symbol : Symbol)
  /-- The end of the expression. -/
  | endOfInput
deriving DecidableEq

/-- What a token is, the value of a number left aside. -/
inductive TokenKind where
  | number
  | symbol (symbol : Symbol)
  | endOfInput
deriving DecidableEq

/-- The kind of a token. -/
def Token.kind : Token → TokenKind
  | number _ => .number
  | symbol s => .symbol s
  | endOfInput => .endOfInput

end Calculator
