import Calculator.Text.Digit
import Calculator.Text.Quoted

/-!
# Arguments of the command line

An argument is an expression, a switch, the separator `--`, or an unknown option. Switches have a
letter and a name. Letters may be joined behind one dash, and a name may be cut short as long as
only one name starts that way. What follows the separator is an expression, whatever it looks like;
before it a text with a dash in front is one only if it is a lone dash, looks like a negative
number, or holds a space.
-/

namespace Calculator.CommandLine

/-- What the command line can switch on. -/
inductive Switch where
  | help
  | tree
  | verbose
deriving DecidableEq

namespace Switch

/-- Every switch. -/
def all : List Switch := [help, tree, verbose]

/-- The letter of a switch, written behind one dash. -/
def letter : Switch → Char
  | help => 'h'
  | tree => 't'
  | verbose => 'v'

/-- The name of a switch, written behind two dashes. -/
def name : Switch → String
  | help => "help"
  | tree => "tree"
  | verbose => "verbose"

/-- Both spellings of a switch. -/
def spellings (switch : Switch) : String :=
  "-" ++ String.singleton switch.letter ++ "/--" ++ switch.name

/-- The switch of a letter. -/
def ofLetter? (c : Char) : Option Switch := all.find? (·.letter == c)

end Switch

/-- Why a command line is refused. -/
inductive UsageError where
  /-- A shortened name that several names start with. -/
  | ambiguous (argument : String) (candidates : List Switch)
  /-- A value given to a switch, which takes none. -/
  | unexpectedValue (switch : Switch) (value : String)
  /-- Arguments that have no meaning where they stand. -/
  | unrecognized (arguments : List String)
deriving DecidableEq

/-- The wording of the error. -/
def UsageError.message : UsageError → String
  | ambiguous argument candidates =>
    "ambiguous option: " ++ argument ++ " could match " ++
      ", ".intercalate (candidates.map fun candidate => "--" ++ candidate.name)
  | unexpectedValue switch value =>
    "argument " ++ switch.spellings ++ ": ignored explicit argument " ++ Text.quoted value
  | unrecognized arguments => "unrecognized arguments: " ++ " ".intercalate arguments

/-- An argument by what it means. -/
inductive Argument where
  | expression (text : String)
  | separator
  /-- Switches in one argument, or what is wrong with it. The error counts only when the turn of
  this argument comes. -/
  | switches (outcome : Except UsageError (List Switch))
  /-- An option that there is not. -/
  | unknown (text : String)

namespace Argument

/-- The text behind a dash is that of a number: digits, or digits or none, a point and digits. The
digits may be those of any script, and one line feed may follow them. -/
def isNumber (text : List Char) : Bool :=
  let body := if text.getLast? = some '\n' then text.dropLast else text
  let whole := body.takeWhile Text.isDecimalDigit
  match body.dropWhile Text.isDecimalDigit with
  | [] => !whole.isEmpty
  | '.' :: fraction => !fraction.isEmpty && fraction.all Text.isDecimalDigit
  | _ => false

/-- The meaning of a text with a dash in front that names no switch. -/
def ofOther (text : String) : Argument :=
  if isNumber (text.toList.drop 1) || text.toList.contains ' ' then expression text
  else unknown text

/-- The switches of a letter and of the text that is joined to it, which has to consist of letters
of switches. From the first character that is none, the text is a value of the switch before it and
is refused as such; it is no argument of its own, and help is not given, even where the letter of
help stands before it. -/
def joined (switch : Switch) : List Char → Except UsageError (List Switch)
  | [] => .error (.unexpectedValue switch "")
  | c :: rest =>
    match Switch.ofLetter? c with
    | none => .error (.unexpectedValue switch (String.ofList (c :: rest)))
    | some next =>
      if rest.isEmpty then .ok [switch, next] else (joined next rest).map (switch :: ·)

/-- The meaning of a text with one dash in front, given what follows the dash. A text joined to
the letter of a switch may have an equals sign before it, which is skipped: letters of switches
behind it are switches, and anything else is a value that the switch does not take. -/
def ofLetters (text : String) : List Char → Argument
  | [] => expression text
  | c :: rest =>
    match Switch.ofLetter? c with
    | none => ofOther text
    | some switch =>
      match rest with
      | [] => switches (.ok [switch])
      | '=' :: value => switches (joined switch value)
      | letters => switches (joined switch letters)

/-- The meaning of a text with two dashes in front, given what follows the dashes: the start of a
name and perhaps an equals sign and a value. -/
def ofName (text : String) (rest : List Char) : Except UsageError Argument :=
  let start := rest.takeWhile (· != '=')
  match Switch.all.filter fun switch => start.isPrefixOf switch.name.toList with
  | [] => .ok (ofOther text)
  | [switch] =>
    match rest.dropWhile (· != '=') with
    | [] => .ok (switches (.ok [switch]))
    | _ :: value => .ok (switches (.error (.unexpectedValue switch (String.ofList value))))
  | candidates => .error (.ambiguous text candidates)

/-- The meaning of a text in front of the separator. -/
def ofText (text : String) : Except UsageError Argument :=
  match text.toList with
  | '-' :: '-' :: rest => ofName text rest
  | '-' :: rest => .ok (ofLetters text rest)
  | _ => .ok (expression text)

/-- The meanings of the arguments of a command line in order. -/
def ofTexts : List String → Except UsageError (List Argument)
  | [] => .ok []
  | text :: rest =>
    if text = "--" then .ok (separator :: rest.map expression)
    else do
      let argument ← ofText text
      let arguments ← ofTexts rest
      return argument :: arguments

end Argument

end Calculator.CommandLine
