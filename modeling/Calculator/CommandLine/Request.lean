import Calculator.CommandLine.Argument

/-!
# Requests

What a command line asks for: help, or the evaluation of its expressions. The expressions are one
group of neighbours; expressions after a switch that follows the group are not recognized, and
neither are unknown options. Such arguments are reported together, after all switches have been
read, whereas help is given as soon as its switch is read.
-/

namespace Calculator.CommandLine

/-- What is shown besides the values. -/
structure Flags where
  /-- The tree of each expression is shown. -/
  tree : Bool
  /-- The log is shown. -/
  verbose : Bool
deriving DecidableEq

/-- The flags with a switch turned on. -/
def Flags.turnOn (flags : Flags) : Switch → Flags
  | .help => flags
  | .tree => { flags with tree := true }
  | .verbose => { flags with verbose := true }

/-- What a command line asks for. -/
inductive Request where
  | help
  | evaluate (flags : Flags) (expressions : List String)
deriving DecidableEq

namespace Request

/-- What has been read of a command line. -/
structure Reading where
  /-- The switches that are on. -/
  flags : Flags
  /-- The expressions of the group, in order. -/
  expressions : List String
  /-- A switch or an unknown option has ended the group. -/
  closed : Bool
  /-- The arguments that are not recognized, in order. -/
  unrecognized : List String

namespace Reading

/-- Nothing has been read. -/
def empty : Reading := ⟨⟨false, false⟩, [], false, []⟩

/-- Reads an argument that belongs to the group of expressions unless the group is closed. -/
def member (reading : Reading) (text : String) (expressions : List String) : Reading :=
  if reading.closed then { reading with unrecognized := reading.unrecognized ++ [text] }
  else { reading with expressions := reading.expressions ++ expressions }

/-- Ends the group of expressions if it has begun. -/
def close (reading : Reading) : Reading :=
  { reading with closed := reading.closed || !reading.expressions.isEmpty }

end Reading

/-- Reads the arguments that are left. -/
def ofArguments (reading : Reading) : List Argument → Except UsageError Request
  | [] =>
    if reading.unrecognized.isEmpty then .ok (evaluate reading.flags reading.expressions)
    else .error (.unrecognized reading.unrecognized)
  | .expression text :: rest => ofArguments (reading.member text [text]) rest
  | .separator :: rest => ofArguments (reading.member "--" []) rest
  | .unknown text :: rest =>
    ofArguments { reading.close with unrecognized := reading.unrecognized ++ [text] } rest
  | .switches (.error error) :: _ => .error error
  | .switches (.ok switches) :: rest =>
    if switches.contains .help then .ok help
    else ofArguments { reading.close with flags := switches.foldl Flags.turnOn reading.flags } rest

/-- What a command line asks for, or why it is refused. -/
def ofTexts (texts : List String) : Except UsageError Request := do
  ofArguments .empty (← Argument.ofTexts texts)

end Request

end Calculator.CommandLine
