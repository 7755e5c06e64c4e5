import Calculator.CommandLine.Session

/-!
# The program

The command line program around the pure functions. A session is held line by line, so that each
reply appears before the next line is asked for; everything else is written at the end.
-/

namespace Calculator.CommandLine

/-- Writes what a function of the library left to be written. -/
def Output.write (output : Output) : IO Unit := do
  let standard ← IO.getStdout
  standard.putStr output.standard
  standard.flush
  (← IO.getStderr).putStr output.error

/-- Holds a session on the standard input. The lines that have been read wait in a list, since
text up to one line feed may hold several lines. -/
partial def converse (flags : Flags) : (waiting : List String) → IO Unit
  | [] => do
    let text ← (← IO.getStdin).getLine
    if !text.isEmpty then converse flags (Text.lines text)
  | line :: waiting => do
    if line != "" then
      (reply flags line).output.write
      prompt.write
      converse flags waiting

end Calculator.CommandLine

open Calculator.CommandLine in
/-- Runs the program on the arguments of the process. -/
def main (arguments : List String) : IO UInt32 := do
  match Request.ofTexts arguments with
  | .ok (.evaluate flags []) =>
    prompt.write
    converse flags []
    return 0
  | _ =>
    let outcome := run arguments ""
    outcome.output.write
    return outcome.status.toUInt32
