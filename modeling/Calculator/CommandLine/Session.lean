import Calculator.CommandLine.Log
import Calculator.CommandLine.Output
import Calculator.CommandLine.Request
import Calculator.Evaluation
import Calculator.Text.Lines
import Calculator.Tree.Outline

/-!
# Running the program

A command line with expressions has them evaluated one after the other, whatever becomes of the
ones before, and the status tells whether one of them failed. Without expressions the lines of the
input are evaluated in a session: each line is asked for by a prompt, and an empty line or the end
of the input ends the session.
-/

namespace Calculator.CommandLine

/-- What the evaluation of one expression leaves. -/
structure Reply where
  /-- What it writes. -/
  output : Output
  /-- The expression has no value. -/
  failed : Bool

/-- Evaluates one expression, where so many parentheses may be open at once as the limit says. An
error message follows what the log tells up to the error. -/
def replyWithin (limit : Nat) (flags : Flags) (source : String) : Reply :=
  match Parser.runOn limit source with
  | .error error lexer =>
    let log := if flags.verbose then Log.ofLexer lexer else ""
    ⟨⟨"", log ++ error.message ++ "\n"⟩, true⟩
  | .ok tree lexer =>
    let log := if flags.verbose then Log.ofLexer lexer ++ Log.ofParsed source else ""
    let outline := if flags.tree then tree.outline else ""
    match tree.evaluate with
    | .error error => ⟨⟨outline, log ++ error.message ++ "\n"⟩, true⟩
    | .ok value => ⟨⟨outline ++ value.text ++ "\n", log⟩, false⟩

/-- Evaluates one expression. Fewer parentheses may be open at once where the log is kept. -/
def reply (flags : Flags) (source : String) : Reply :=
  replyWithin (Parser.nestingLimit flags.verbose) flags source

/-- What a run of the program leaves: the exit status and what was written. -/
structure Outcome where
  /-- Zero if all went well. -/
  status : Nat
  /-- What the run wrote. -/
  output : Output

/-- Evaluates expressions in order. The status is one if any of them failed. -/
def evaluateAll (flags : Flags) (sources : List String) : Outcome :=
  let replies := sources.map (reply flags)
  let failures := replies.countP Reply.failed
  let summary :=
    if flags.verbose && failures != 0 then Log.ofFailures failures sources.length else ""
  ⟨if failures = 0 then 0 else 1, Output.join (replies.map Reply.output) ++ ⟨"", summary⟩⟩

/-- The text that asks for the next expression of a session. -/
def prompt : Output := ⟨"expr: ", ""⟩

/-- What a session writes for the lines of its input. -/
def session (flags : Flags) (lines : List String) : Output :=
  let answered := lines.takeWhile (· != "")
  Output.join (answered.map fun line => prompt ++ (reply flags line).output) ++ prompt

/-- The line that shows how the program is called. -/
def usage : String := "usage: mcalc [-h] [-t] [-v] [EXPR ...]\n"

/-- The text that the help switch asks for. -/
def helpText : String :=
  usage ++ "\n" ++
    "Evaluates arithmetic expressions with + - * / ^ and the # (maximum) operator\n" ++
    "\n" ++
    "positional arguments:\n" ++
    "  EXPR           expressions to evaluate; reads from stdin when omitted\n" ++
    "\n" ++
    "options:\n" ++
    "  -h, --help     show this help message and exit\n" ++
    "  -t, --tree     print the parse tree before each result\n" ++
    "  -v, --verbose  log the token stream and parser progress\n" ++
    "\n" ++
    "Version 0.1.0\n"

/-- Runs the program on the arguments of a command line and the text of its input. -/
def run (arguments : List String) (input : String) : Outcome :=
  match Request.ofTexts arguments with
  | .error error => ⟨2, ⟨"", usage ++ "mcalc: error: " ++ error.message ++ "\n"⟩⟩
  | .ok .help => ⟨0, ⟨helpText, ""⟩⟩
  | .ok (.evaluate flags []) => ⟨0, session flags (Text.lines input)⟩
  | .ok (.evaluate flags sources) => evaluateAll flags sources

end Calculator.CommandLine
