import Calculator.Decimal.Layout
import Calculator.Lexer
import Calculator.Tree

/-!
# The parser

The grammar of expressions has four levels of operators. From the loosest to the tightest they are
the maximum `#`, the sum `+` and `-`, the product `*` and `/`, and the power `^`. Operators of the
first three levels group to the left, powers to the right. An operand is a number or an expression
in parentheses.

Each level is a parser that is built from the parser of the next one, and the innermost one is
built from the parser of what stands in parentheses. The nesting of parentheses is counted down
and limited: each of them takes calls from a stock that the rest of the program draws on as well,
and the log draws on it where the parentheses are deepest. A loop over operators takes at most one
turn for each piece that was unread before its first operand. Each operator that the loop meets is
one of these pieces, so that the turns are always enough.
-/

namespace Calculator

/-- A parser moves a lexer forward and gives a value or an error. The lexer is kept on an error
too, with all that was read up to then. -/
abbrev Parser := EStateM SyntaxError Lexer

namespace Parser

/-- The number of calls that may be open at once. -/
def callLimit : Nat := 1000

/-- The calls of an expression in parentheses: one for each of the four levels of operators, and
one for the operand. -/
def callsPerNesting : Nat := 5

/-- The calls that are open at most while an expression without parentheses is parsed: those that
lead from the program to the parser, those of the expression itself, and those in which a token is
stepped over and the next one is read. To tell the log of the next one takes more of these. -/
def callsOfFlat (logged : Bool) : Nat := 5 + callsPerNesting + if logged then 17 else 5

/-- The number of parentheses that may be open at once. Calls that the log takes for itself are not
left for parentheses. -/
def nestingLimit (logged : Bool) : Nat := (callLimit - callsOfFlat logged) / callsPerNesting

/-- The current token. -/
def current : Parser Token := return (← get).current

/-- The kind of the current token. -/
def look : Parser TokenKind := return (← current).kind

/-- Steps over the current token, which has to be of the given kind, and gives it back. -/
def expect (kind : TokenKind) : Parser Token := do
  let token ← current
  if token.kind = kind then
    Lexer.advance
    return token
  else throw (.parse (.expected kind))

/-- The symbol that is the current token, if it satisfies a condition. -/
def symbolWhere? (condition : Symbol → Bool) : Parser (Option Symbol) := do
  match ← current with
  | .symbol symbol => return if condition symbol then some symbol else none
  | _ => return none

/-- An operand: a number, or parentheses around what `inner` parses, which leave no node. -/
def operand (inner : Parser Tree) : Parser Tree := do
  match ← current with
  | .symbol .openParen =>
    Lexer.advance
    let tree ← inner
    let _ ← expect (.symbol .closeParen)
    return tree
  | .number value =>
    Lexer.advance
    return .leaf value.text
  | _ => throw (.parse .expectedOperand)

/-- Extends a tree to the right by operators that satisfy the condition and by their operands, for
at most the given turns. -/
def extendLeft (condition : Symbol → Bool) (next : Parser Tree) :
    (turns : List String) → (tree : Tree) → Parser Tree
  | [], tree => return tree
  | _ :: turns, tree => do
    match ← symbolWhere? condition with
    | none => return tree
    | some symbol =>
      Lexer.advance
      let right ← next
      extendLeft condition next turns (.branch symbol.text tree right)

/-- Operands with operators between them that satisfy the condition, grouped to the left. -/
def leftAssociative (condition : Symbol → Bool) (next : Parser Tree) : Parser Tree := do
  let turns := (← get).unread
  let first ← next
  extendLeft condition next turns first

/-- Groups operands to the right by powers, given the last operand and the earlier ones from the
second to last back to the first. -/
def groupPowers (last : Tree) (earlier : List Tree) : Tree :=
  earlier.foldl (fun right left => .branch Symbol.power.text left right) last

/-- Collects operands with powers between them, for at most the given turns, and groups them. -/
def collectPowers (next : Parser Tree) :
    (turns : List String) → (last : Tree) → (earlier : List Tree) → Parser Tree
  | [], last, earlier => return groupPowers last earlier
  | _ :: turns, last, earlier => do
    if (← current) = .symbol .power then
      Lexer.advance
      let right ← next
      collectPowers next turns right (last :: earlier)
    else return groupPowers last earlier

/-- Operands with powers between them, grouped to the right. -/
def powers (inner : Parser Tree) : Parser Tree := do
  let turns := (← get).unread
  let first ← operand inner
  collectPowers (operand inner) turns first []

/-- Powers with the operators of a product between them. -/
def products (inner : Parser Tree) : Parser Tree := leftAssociative Symbol.isProduct (powers inner)

/-- Products with the operators of a sum between them. -/
def sums (inner : Parser Tree) : Parser Tree := leftAssociative Symbol.isSum (products inner)

/-- Sums with the maximum operator between them. -/
def maxima (inner : Parser Tree) : Parser Tree := leftAssociative Symbol.isMaximum (sums inner)

/-- An expression inside as many open parentheses as still leave the given number of levels. -/
def expression : (levels : Nat) → Parser Tree
  | 0 => throw (.parse .nestedTooDeeply)
  | levels + 1 => maxima (expression levels)

/-- What stands inside the outermost parentheses, where no log is kept. -/
def nested : Parser Tree := expression (nestingLimit false)

/-- An expression that no parentheses enclose, where no log is kept. -/
def outermost : Parser Tree := maxima nested

/-- A whole source: an expression, with so many parentheses open at once as the limit says, and the
end of the input. -/
def source (limit : Nat) : Parser Tree := do
  Lexer.advance
  let tree ← maxima (expression limit)
  let _ ← expect .endOfInput
  return tree

/-- Parses a source within a limit and gives the outcome together with the lexer that is left. -/
def runOn (limit : Nat) (text : String) : EStateM.Result SyntaxError Lexer Tree :=
  (source limit).run (Lexer.ofSource text)

end Parser

/-- The tree of an expression, or the first problem in its text, where so many parentheses may be
open at once as the limit says. -/
def parseWithin (limit : Nat) (text : String) : Except SyntaxError Tree :=
  match Parser.runOn limit text with
  | .ok tree _ => .ok tree
  | .error error _ => .error error

/-- The tree of an expression, or the first problem in its text, where no log is kept. -/
def parse (text : String) : Except SyntaxError Tree := parseWithin (Parser.nestingLimit false) text

end Calculator
