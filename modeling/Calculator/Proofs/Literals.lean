import Calculator.Proofs.Pieces
import Mathlib.Algebra.Order.Ring.Nat

/-!
# Literals of magnitudes

The exact value of a magnitude is nearest to that magnitude, whatever the fraction is that it is
written as. Since a unit is a decimal with 1074 digits behind the point, every magnitude has an
exact literal, and reading that literal gives the magnitude back.
-/

namespace Calculator

namespace Magnitude

/-- There are units in the number one. -/
theorem unitsPerOne_pos : 0 < unitsPerOne := by
  have power : ∀ count, 0 < Nat.pow 2 count := fun count => Nat.pow_pos (by decide)
  unfold unitsPerOne
  exact power 1074

/-- Magnitudes with the same place are the same. -/
theorem eq_of_index_eq {first second : Magnitude} (same : first.index = second.index) :
    first = second := by
  cases first
  cases second
  cases same
  rfl

/-- A multiple of the divisor is divided without rounding. -/
theorem divideEven_mul (quotient : Nat) {divisor : Nat} (positive : 0 < divisor) :
    divideEven (quotient * divisor) divisor = quotient := by
  have below : quotient * divisor / divisor = quotient := Nat.mul_div_cancel quotient positive
  have rest : quotient * divisor % divisor = 0 := Nat.mul_mod_left quotient divisor
  have small : 2 * 0 < divisor := by omega
  unfold divideEven
  simp only [below, rest]
  rw [if_pos (.inl small)]

/-- The first row of magnitudes has no excess bits. -/
theorem excessBits_of_lt {units : Nat} (small : units < 2 ^ 52) : excessBits units = 0 := by
  unfold excessBits
  by_cases zero : units = 0
  · rw [zero]
    rfl
  · have bits := (Nat.log2_lt zero).mpr small
    omega

/-- A significand of 53 bits has as many excess bits as it is shifted by. -/
theorem excessBits_shifted {fraction : Nat} (small : fraction < 2 ^ 52) (shift : Nat) :
    excessBits ((2 ^ 52 + fraction) * 2 ^ shift) = shift := by
  have atLeast : 2 ^ (52 + shift) ≤ (2 ^ 52 + fraction) * 2 ^ shift := by
    rw [Nat.pow_add]
    exact Nat.mul_le_mul_right _ (Nat.le_add_right _ _)
  have below : (2 ^ 52 + fraction) * 2 ^ shift < 2 ^ (52 + shift + 1) := by
    have doubled : 2 ^ (52 + shift + 1) = 2 ^ 53 * 2 ^ shift := by
      rw [← Nat.pow_add]
      congr 1
      omega
    rw [doubled]
    exact Nat.mul_lt_mul_of_pos_right (by omega) (Nat.two_pow_pos shift)
  have positive : (2 ^ 52 + fraction) * 2 ^ shift ≠ 0 := by
    have power := Nat.two_pow_pos (52 + shift)
    omega
  have bits := (Nat.log2_eq_iff positive).mpr ⟨atLeast, below⟩
  unfold excessBits
  omega

/-- The exact value of a magnitude, as a fraction of any denominator, is nearest to its place. -/
theorem nearestIndex_unitsAt (index : Nat) {denominator : Nat} (positive : 0 < denominator) :
    nearestIndex (unitsAt index * denominator) denominator = index := by
  have quotient : unitsAt index * denominator / denominator = unitsAt index :=
    Nat.mul_div_cancel _ positive
  unfold nearestIndex
  simp only [quotient, Nat.pow_eq]
  by_cases small : index < 2 ^ 52
  · have exactUnits : unitsAt index = index := if_pos small
    rw [exactUnits, excessBits_of_lt small, Nat.pow_zero, Nat.mul_one, divideEven_mul _ positive]
    omega
  · have exactUnits : unitsAt index =
        (2 ^ 52 + index % 2 ^ 52) * 2 ^ (index / 2 ^ 52 - 1) := if_neg small
    have fraction : index % 2 ^ 52 < 2 ^ 52 := Nat.mod_lt _ (by decide)
    have shifted : 0 < denominator * 2 ^ (index / 2 ^ 52 - 1) :=
      Nat.mul_pos positive (Nat.two_pow_pos _)
    have regrouped : (2 ^ 52 + index % 2 ^ 52) * 2 ^ (index / 2 ^ 52 - 1) * denominator =
        (2 ^ 52 + index % 2 ^ 52) * (denominator * 2 ^ (index / 2 ^ 52 - 1)) := by
      rw [Nat.mul_assoc, Nat.mul_comm (2 ^ (index / 2 ^ 52 - 1))]
    rw [exactUnits, excessBits_shifted fraction, regrouped, divideEven_mul _ shifted]
    have split := Nat.div_add_mod index (2 ^ 52)
    have row : 1 ≤ index / 2 ^ 52 := (Nat.one_le_div_iff (by decide)).mpr (Nat.not_lt.mp small)
    omega

/-- The exact value of a magnitude is nearest to it. -/
theorem nearest?_units (magnitude : Magnitude) {denominator : Nat} (positive : 0 < denominator) :
    nearest? (magnitude.units * denominator) denominator = some magnitude := by
  have place : nearestIndex (magnitude.units * denominator) denominator = magnitude.index :=
    nearestIndex_unitsAt magnitude.index positive
  unfold nearest?
  simp only [place]
  rw [dif_pos magnitude.index_lt]

end Magnitude

namespace Token

/-- A literal is the finite double nearest to it. -/
theorem ofPiece_of_literal {piece : String} {decimal : Decimal} {magnitude : Magnitude}
    (literal : Decimal.ofLiteral? piece.toList = some decimal)
    (nearest : decimal.nearest? = some magnitude) :
    ofPiece piece = .ok (number (.finite false magnitude)) := by
  rw [ofPiece_eq, Piece.ofText?_of_numeric (Decimal.characters_of_ofLiteral? literal).2, literal]
  exact ofAnswers_number nearest

end Token

namespace Decimal

/-- Digits with a point among them are a literal. -/
theorem ofLiteral?_point {whole fraction : List Char} (someDigit : whole ++ fraction ≠ [])
    (wholeDigits : ∀ c ∈ whole, c.isDigit = true)
    (fractionDigits : ∀ c ∈ fraction, c.isDigit = true) :
    ofLiteral? (whole ++ '.' :: fraction) =
      some ⟨Nat.ofDigitChars 10 (whole ++ fraction) 0, -(fraction.length : Int)⟩ := by
  have taken : (whole ++ '.' :: fraction).takeWhile Char.isDigit = whole := by
    rw [List.takeWhile_append_of_pos wholeDigits, List.takeWhile_cons_of_neg (by decide),
      List.append_nil]
  have dropped : (whole ++ '.' :: fraction).dropWhile Char.isDigit = '.' :: fraction := by
    rw [List.dropWhile_append_of_pos wholeDigits, List.dropWhile_cons_of_neg (by decide)]
  have allDigits : fraction.all Char.isDigit = true := List.all_eq_true.mpr fractionDigits
  have counted : (whole.isEmpty && fraction.isEmpty) = false := by
    rw [Bool.eq_false_iff, ne_eq, Bool.and_eq_true, List.isEmpty_iff, List.isEmpty_iff,
      ← List.append_eq_nil_iff]
    exact someDigit
  unfold ofLiteral?
  simp only [taken, dropped, allDigits, counted]
  rfl

end Decimal

namespace Magnitude

/-- The number of decimal digits behind the point of a unit. -/
def unitDigits : Nat := 1074

/-- The exact value of a magnitude as a number of the last decimal digits of a unit. -/
def exactNumber (magnitude : Magnitude) : Nat := magnitude.units * Nat.pow 5 unitDigits

/-- The digits of a magnitude's exact value, with at least one in front of the point. -/
def exactDigits (magnitude : Magnitude) : List Char :=
  List.replicate unitDigits '0' ++ Nat.toDigits 10 magnitude.exactNumber

/-- The number of digits in front of the point. -/
def exactPoint (magnitude : Magnitude) : Nat := magnitude.exactDigits.length - unitDigits

/-- The literal of a magnitude's exact value. -/
def exactLiteral (magnitude : Magnitude) : String :=
  String.ofList (magnitude.exactDigits.take magnitude.exactPoint ++
    '.' :: magnitude.exactDigits.drop magnitude.exactPoint)

/-- There are digits on both sides of the point. -/
theorem length_exactDigits (magnitude : Magnitude) :
    magnitude.exactDigits.length = magnitude.exactPoint + unitDigits ∧
      0 < magnitude.exactPoint := by
  have written : 0 < (Nat.toDigits 10 magnitude.exactNumber).length := Nat.length_toDigits_pos
  unfold exactPoint exactDigits
  rw [List.length_append, List.length_replicate]
  omega

/-- The exact literal of a magnitude is a literal of its exact value. -/
theorem ofLiteral?_exactLiteral (magnitude : Magnitude) :
    Decimal.ofLiteral? magnitude.exactLiteral.toList =
      some ⟨magnitude.exactNumber, -(unitDigits : Int)⟩ := by
  obtain ⟨digitCount, positive⟩ := magnitude.length_exactDigits
  have allDigits : ∀ c ∈ magnitude.exactDigits, c.isDigit = true := by
    intro c among
    obtain zero | digit := List.mem_append.mp among
    · rw [List.eq_of_mem_replicate zero]
      rfl
    · exact Nat.isDigit_of_mem_toDigits (by decide) (by decide) digit
  have nonempty : magnitude.exactDigits.take magnitude.exactPoint ≠ [] := by
    rw [← List.length_pos_iff, List.length_take]
    omega
  have behind : (magnitude.exactDigits.drop magnitude.exactPoint).length = unitDigits := by
    rw [List.length_drop]
    omega
  have value : Nat.ofDigitChars 10 magnitude.exactDigits 0 = magnitude.exactNumber := by
    rw [exactDigits, Nat.ofDigitChars_append, Nat.ofDigitChars_replicate_zero, Nat.mul_zero,
      Nat.ofDigitChars_ten_toDigits]
  rw [exactLiteral, String.toList_ofList,
    Decimal.ofLiteral?_point (List.append_ne_nil_of_left_ne_nil nonempty _)
      (fun c among => allDigits c (List.mem_of_mem_take among))
      (fun c among => allDigits c (List.mem_of_mem_drop among)),
    List.take_append_drop, value, behind]

/-- The magnitude nearest to the exact value of a magnitude is that magnitude. -/
theorem nearest?_exactNumber (magnitude : Magnitude) :
    Decimal.nearest? ⟨magnitude.exactNumber, -(unitDigits : Int)⟩ = some magnitude := by
  have whole : Decimal.numerator ⟨magnitude.exactNumber, -(unitDigits : Int)⟩ =
      magnitude.units * 10 ^ unitDigits := by
    have noPower : (-(unitDigits : Int)).toNat = 0 := rfl
    have perOne : 5 ^ unitDigits * unitsPerOne = 10 ^ unitDigits := by decide +kernel
    unfold Decimal.numerator exactNumber
    simp only [noPower, Nat.pow_eq]
    rw [Nat.pow_zero, Nat.mul_one, Nat.mul_assoc, perOne]
  have parts : Decimal.denominator ⟨magnitude.exactNumber, -(unitDigits : Int)⟩ =
      10 ^ unitDigits := by
    have power : (-(-(unitDigits : Int))).toNat = unitDigits := by
      rw [Int.neg_neg, Int.toNat_natCast]
    unfold Decimal.denominator
    simp only [power, Nat.pow_eq]
  unfold Decimal.nearest?
  rw [whole, parts]
  exact magnitude.nearest?_units (Nat.pow_pos (by decide))

/-- The exact literal of a magnitude is read as the magnitude. -/
theorem ofPiece_exactLiteral (magnitude : Magnitude) :
    Token.ofPiece magnitude.exactLiteral = .ok (.number (.finite false magnitude)) :=
  Token.ofPiece_of_literal magnitude.ofLiteral?_exactLiteral magnitude.nearest?_exactNumber

end Magnitude

end Calculator
