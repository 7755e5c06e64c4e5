import Calculator.Lexer
import Calculator.Text.Quoted
import Calculator.Token.Entry

/-!
# The log

The log tells in one line each what the program does: every token that is read, every time the end
of the input is reached, every expression that is parsed, and how many expressions failed. A piece
that is no token has no line; its error message stands in the place of one.
-/

namespace Calculator.CommandLine.Log

/-- A line of the log from one part of the program. -/
def line (origin message : String) : String := "DEBUG " ++ origin ++ ": " ++ message ++ "\n"

/-- The line for what an advance of the lexer met. -/
def ofAdvance : Except LexError Token → String
  | .error _ => ""
  | .ok .endOfInput => line "maxcalc.frontend.lexer" "end of input"
  | .ok token => line "maxcalc.frontend.lexer" ("next token = " ++ token.entry.pairText)

/-- The lines for all that a lexer has met. -/
def ofLexer (lexer : Lexer) : String := String.join (lexer.journal.reverse.map ofAdvance)

/-- The line for a source that was parsed. -/
def ofParsed (source : String) : String :=
  line "maxcalc.frontend.parser" ("parsed " ++ Text.quoted source)

/-- The line for expressions of which some failed. -/
def ofFailures (failures total : Nat) : String :=
  line "mcalc" (failures.repr ++ " of " ++ total.repr ++ " expressions failed")

end Calculator.CommandLine.Log
