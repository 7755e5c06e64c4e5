import Calculator.Decimal.Literal
import Calculator.Text.Digit

/-!
# Numerals

A numeral is the general written form of a double: a sign, then a decimal literal with or without
an exponent, or the name of an infinity or of what is not a number in any case of letters. Blanks
around it are ignored, digits of any script count, and one underscore may stand between two digits.
-/

namespace Calculator.Numeral

/-- The character is white space that may surround a numeral. -/
def isBlank (c : Char) : Bool :=
  c == ' ' || (0x09 ≤ c.toNat && c.toNat ≤ 0x0d) || c.toNat == 0x85 || c.toNat == 0xa0 ||
    c.toNat == 0x1680 || (0x2000 ≤ c.toNat && c.toNat ≤ 0x200a) || c.toNat == 0x2028 ||
    c.toNat == 0x2029 || c.toNat == 0x202f || c.toNat == 0x205f || c.toNat == 0x3000

/-- The text without the blanks around it. -/
def trim (text : List Char) : List Char :=
  ((text.dropWhile isBlank).reverse.dropWhile isBlank).reverse

/-- A decimal digit of any script as the ASCII digit of its value; other characters stay. -/
def asciiDigit (c : Char) : Char :=
  match Text.digitValue? c with
  | some value => value.digitChar
  | none => c

/-- The text without the underscores between digits, given the character before it; none if an
underscore stands elsewhere. -/
def joinDigitGroups? (before : Char) : List Char → Option (List Char)
  | [] => some []
  | c :: rest =>
    if c = '_' then
      if before.isDigit && rest.head?.any Char.isDigit then joinDigitGroups? c rest else none
    else (joinDigitGroups? c rest).map (c :: ·)

/-- The flag and the rest of a text that starts with a sign or with none. -/
def splitSign : List Char → Bool × List Char
  | '-' :: rest => (true, rest)
  | '+' :: rest => (false, rest)
  | text => (false, text)

/-- The value of an exponent: a sign or none, and at least one digit. -/
def readExponent? (text : List Char) : Option Int :=
  let (negative, digits) := splitSign text
  if digits.isEmpty || !digits.all Char.isDigit then none
  else
    let value := Nat.ofDigitChars 10 digits 0
    some (if negative then -(value : Int) else value)

/-- The value of a numeral without blanks, sign and underscores, given the sign that it has. -/
def readUnsigned? (negative : Bool) (text : List Char) : Option Double :=
  let name := text.map Char.toLower
  if name = "inf".toList ∨ name = "infinity".toList then some (.infinite negative)
  else if name = "nan".toList then some .nan
  else
    let isMark := fun c => c == 'e' || c == 'E'
    match Decimal.ofLiteral? (text.takeWhile fun c => !isMark c), text.dropWhile (!isMark ·) with
    | none, _ => none
    | some decimal, [] => some (.ofMagnitude? negative decimal.nearest?)
    | some decimal, _ :: exponent =>
      (readExponent? exponent).map fun power =>
        .ofMagnitude? negative (decimal.nearestScaled? power)

/-- The double that a numeral names, correctly rounded; none if the text is no numeral. -/
def read? (text : String) : Option Double :=
  match joinDigitGroups? ' ' ((trim text.toList).map asciiDigit) with
  | none => none
  | some numeral =>
    let (negative, unsigned) := splitSign numeral
    readUnsigned? negative unsigned

end Calculator.Numeral
