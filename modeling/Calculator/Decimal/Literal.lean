import Calculator.Decimal.Basic

/-!
# Decimal literals

A literal is a run of decimal digits, which may hold one point anywhere but which has at least one
digit: `12`, `12.`, `12.5` and `.5`. The digits are the ten ASCII ones.
-/

namespace Calculator.Decimal

/-- The literal's value, if the text is a literal. -/
def ofLiteral? (text : List Char) : Option Decimal :=
  let whole := text.takeWhile Char.isDigit
  match text.dropWhile Char.isDigit with
  | [] => if whole.isEmpty then none else some ⟨Nat.ofDigitChars 10 whole 0, 0⟩
  | '.' :: fraction =>
    if fraction.all Char.isDigit && !(whole.isEmpty && fraction.isEmpty) then
      some ⟨Nat.ofDigitChars 10 (whole ++ fraction) 0, -(fraction.length : Int)⟩
    else none
  | _ => none

end Calculator.Decimal
