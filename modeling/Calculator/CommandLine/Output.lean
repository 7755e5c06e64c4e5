/-!
# Output

A program writes to two outputs: values and prompts go to the first, error messages and the log to
the second. Within each of them everything stays in the order in which it happens.
-/

namespace Calculator.CommandLine

/-- What is written to the two outputs. -/
structure Output where
  /-- The text on the standard output. -/
  standard : String
  /-- The text on the error output. -/
  error : String
deriving DecidableEq

namespace Output

/-- The second output follows the first. -/
def append (first second : Output) : Output :=
  ⟨first.standard ++ second.standard, first.error ++ second.error⟩

instance : Append Output := ⟨append⟩

/-- The outputs one after the other. -/
def join (outputs : List Output) : Output :=
  ⟨String.join (outputs.map Output.standard), String.join (outputs.map Output.error)⟩

end Output

end Calculator.CommandLine
