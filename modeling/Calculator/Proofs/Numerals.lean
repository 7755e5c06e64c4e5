import Calculator.Decimal.Layout
import Calculator.Decimal.Numeral
import Calculator.Proofs.Literals
import Mathlib.Data.List.TakeWhile

/-!
# Texts of doubles as numerals

A decimal literal is a numeral, and so is a literal with an exponent behind it. The text of a
finite double that is not negative has one of these two forms, so that reading it gives a double
again, whichever layout it has.
-/

namespace Calculator

namespace Numeral

/-- The character may stand in a numeral of ASCII digits: there is no name, no underscore and no
blank in it. -/
def isPlain (c : Char) : Bool := c.isDigit || c == '.' || c == 'e' || c == '+' || c == '-'

/-- A digit is the character of a number below ten. -/
theorem exists_digitChar {c : Char} (digit : c.isDigit = true) :
    ∃ value < 10, c = Nat.digitChar value := by
  have bounds : 48 ≤ c.toNat ∧ c.toNat ≤ 57 := Char.isDigit_iff_toNat.mp digit
  have small : c.toNat - 48 < 10 := by omega
  refine ⟨c.toNat - 48, small, ?_⟩
  apply Char.toNat_inj.mp
  rw [Nat.toNat_digitChar_of_lt_ten small]
  omega

/-- What holds of the ten digits and of the other plain characters holds of all of them. -/
theorem of_plain (holds : Char → Prop) (digits : ∀ value < 10, holds (Nat.digitChar value))
    (others : holds '.' ∧ holds 'e' ∧ holds '+' ∧ holds '-') {c : Char}
    (plain : isPlain c = true) : holds c := by
  obtain ⟨point, mark, plus, minus⟩ := others
  simp only [isPlain, Bool.or_eq_true, beq_iff_eq] at plain
  obtain (((digit | rfl) | rfl) | rfl) | rfl := plain
  · obtain ⟨value, small, rfl⟩ := exists_digitChar digit
    exact digits value small
  · exact point
  · exact mark
  · exact plus
  · exact minus

/-- Plain characters stay what they are when a numeral is made ready for reading. -/
theorem plain_stays {c : Char} (plain : isPlain c = true) :
    isBlank c = false ∧ asciiDigit c = c ∧ c ≠ '_' :=
  of_plain (fun c => isBlank c = false ∧ asciiDigit c = c ∧ c ≠ '_') (by decide) (by decide) plain

/-- Digits and points are plain characters, they are no letters, and no sign or mark is one. -/
theorem numeric_facts {c : Char} (numeric : c.isDigit = true ∨ c = '.') :
    isPlain c = true ∧ c.toLower = c ∧ c ∉ ['i', 'n', 'e', 'E', '+', '-'] := by
  obtain digit | rfl := numeric
  · have digits : ∀ value < 10, isPlain (Nat.digitChar value) = true ∧
        (Nat.digitChar value).toLower = Nat.digitChar value ∧
          Nat.digitChar value ∉ ['i', 'n', 'e', 'E', '+', '-'] := by
      decide
    obtain ⟨value, small, rfl⟩ := exists_digitChar digit
    exact digits value small
  · decide

/-- There are no blanks around plain characters. -/
theorem dropWhile_isBlank {text : List Char} (plain : ∀ c ∈ text, isPlain c = true) :
    text.dropWhile isBlank = text := by
  rw [List.dropWhile_eq_self_iff]
  intro nonempty
  have first := plain_stays (plain _ (List.getElem_mem nonempty))
  simp [first.1]

/-- Plain characters are not trimmed. -/
theorem trim_of_plain {text : List Char} (plain : ∀ c ∈ text, isPlain c = true) :
    trim text = text := by
  have backwards : ∀ c ∈ text.reverse, isPlain c = true := by
    intro c among
    exact plain c (List.mem_reverse.mp among)
  rw [trim, dropWhile_isBlank plain, dropWhile_isBlank backwards, List.reverse_reverse]

/-- Among plain characters no digit groups are to be joined. -/
theorem joinDigitGroups?_of_plain {text : List Char} (plain : ∀ c ∈ text, isPlain c = true)
    (before : Char) : joinDigitGroups? before text = some text := by
  induction text generalizing before with
  | nil => rfl
  | cons c rest ih =>
    have first := plain_stays (plain c List.mem_cons_self)
    have others := ih fun d among => plain d (List.mem_cons_of_mem c among)
    rw [joinDigitGroups?, if_neg first.2.2, others]
    rfl

/-- A plain text is read by its sign and what follows the sign. -/
theorem read?_of_plain {text : List Char} (plain : ∀ c ∈ text, isPlain c = true) :
    read? (String.ofList text) = readUnsigned? (splitSign text).1 (splitSign text).2 := by
  have ascii : text.map asciiDigit = text := by
    have same : text.map asciiDigit = text.map id :=
      List.map_congr_left fun c among => (plain_stays (plain c among)).2.1
    rw [same, List.map_id]
  rw [read?, String.toList_ofList, trim_of_plain plain, ascii, joinDigitGroups?_of_plain plain]

/-- A text that begins with a digit or a point has no sign. -/
theorem splitSign_of_numeric {c : Char} (numeric : c.isDigit = true ∨ c = '.')
    (rest : List Char) : splitSign (c :: rest) = (false, c :: rest) := by
  have noSign := (numeric_facts numeric).2.2
  simp only [List.mem_cons, List.not_mem_nil, not_or] at noSign
  unfold splitSign
  split
  · next isMinus => exact absurd (List.cons.inj isMinus).1 noSign.2.2.2.2.2.1
  · next isPlus => exact absurd (List.cons.inj isPlus).1 noSign.2.2.2.2.1
  · rfl

/-- A text that begins with a digit or a point is no name. -/
theorem ne_name_of_numeric {c : Char} (numeric : c.isDigit = true ∨ c = '.') (rest : List Char) :
    ¬((c :: rest).map Char.toLower = "inf".toList ∨
      (c :: rest).map Char.toLower = "infinity".toList) ∧
      (c :: rest).map Char.toLower ≠ "nan".toList := by
  obtain ⟨_, lower, noLetter⟩ := numeric_facts numeric
  simp only [List.mem_cons, List.not_mem_nil, not_or] at noLetter
  rw [List.map_cons, lower]
  refine ⟨?_, ?_⟩
  · rintro (name | name)
    · exact noLetter.1 (List.cons.inj name).1
    · exact noLetter.1 (List.cons.inj name).1
  · intro name
    exact noLetter.2.1 (List.cons.inj name).1

/-- A literal begins with a digit or a point, all its characters are plain, and none of them marks
an exponent. -/
theorem literal_cases {text : List Char} {decimal : Decimal}
    (literal : Decimal.ofLiteral? text = some decimal) :
    (∃ c rest, text = c :: rest ∧ (c.isDigit = true ∨ c = '.')) ∧
      (∀ c ∈ text, isPlain c = true) ∧ ∀ c ∈ text, (!(c == 'e' || c == 'E')) = true := by
  obtain ⟨nonempty, numeric⟩ := Decimal.characters_of_ofLiteral? literal
  refine ⟨?_, fun c among => (numeric_facts (numeric c among)).1, fun c among => ?_⟩
  · obtain ⟨c, rest, rfl⟩ := List.exists_cons_of_ne_nil nonempty
    exact ⟨c, rest, rfl, numeric c List.mem_cons_self⟩
  · have noMark := (numeric_facts (numeric c among)).2.2
    simp only [List.mem_cons, List.not_mem_nil, not_or] at noMark
    simp [noMark]

/-- A literal is a numeral, of the double nearest to it. -/
theorem read?_literal {text : List Char} {decimal : Decimal}
    (literal : Decimal.ofLiteral? text = some decimal) :
    read? (String.ofList text) = some (.ofMagnitude? false decimal.nearest?) := by
  obtain ⟨⟨c, rest, rfl, numeric⟩, plain, noMark⟩ := literal_cases literal
  obtain ⟨notInfinite, notNaN⟩ := ne_name_of_numeric numeric rest
  have mantissa : (c :: rest).takeWhile (fun d => !(d == 'e' || d == 'E')) = c :: rest :=
    List.takeWhile_eq_self_iff.mpr noMark
  have nothing : (c :: rest).dropWhile (fun d => !(d == 'e' || d == 'E')) = [] :=
    List.dropWhile_eq_nil_iff.mpr noMark
  rw [read?_of_plain plain, splitSign_of_numeric numeric]
  simp only [readUnsigned?, if_neg notInfinite, if_neg notNaN, mantissa, nothing, literal]

/-- A literal with an exponent is a numeral, of the double nearest to the literal times the power
of ten. -/
theorem read?_scientific {mantissa exponent : List Char} {decimal : Decimal} {power : Int}
    (literal : Decimal.ofLiteral? mantissa = some decimal)
    (plainExponent : ∀ c ∈ exponent, isPlain c = true)
    (readExponent : readExponent? exponent = some power) :
    read? (String.ofList (mantissa ++ 'e' :: exponent)) =
      some (.ofMagnitude? false (decimal.nearestScaled? power)) := by
  obtain ⟨⟨c, rest, rfl, numeric⟩, plainMantissa, noMark⟩ := literal_cases literal
  have plain : ∀ d ∈ (c :: rest) ++ 'e' :: exponent, isPlain d = true := by
    intro d among
    obtain front | rfl | back := by simpa only [List.mem_append, List.mem_cons] using among
    · exact plainMantissa d (List.mem_cons.mpr front)
    · rfl
    · exact plainExponent d back
  obtain ⟨notInfinite, notNaN⟩ := ne_name_of_numeric numeric (rest ++ 'e' :: exponent)
  have taken : ((c :: rest) ++ 'e' :: exponent).takeWhile (fun d => !(d == 'e' || d == 'E')) =
      c :: rest := by
    rw [List.takeWhile_append_of_pos noMark, List.takeWhile_cons_of_neg (by decide),
      List.append_nil]
  have dropped : ((c :: rest) ++ 'e' :: exponent).dropWhile (fun d => !(d == 'e' || d == 'E')) =
      'e' :: exponent := by
    rw [List.dropWhile_append_of_pos noMark, List.dropWhile_cons_of_neg (by decide)]
  rw [read?_of_plain plain, List.cons_append, splitSign_of_numeric numeric]
  rw [List.cons_append] at taken dropped
  simp only [readUnsigned?, if_neg notInfinite, if_neg notNaN, taken, dropped, literal,
    readExponent, Option.map_some]

end Numeral

/-! ## Layouts -/

namespace Decimal

/-- The digits of a positive number are digits, and there is one. -/
theorem significantDigits_facts (number : Nat) :
    (∀ c ∈ significantDigits number, c.isDigit = true) ∧
      (number ≠ 0 → significantDigits number ≠ []) := by
  have allDigits : ∀ c ∈ Nat.toDigits 10 number, c.isDigit = true := by
    intro c among
    exact Nat.isDigit_of_mem_toDigits (by decide) (by decide) among
  constructor
  · intro c among
    rw [significantDigits, List.mem_reverse] at among
    exact allDigits c (List.mem_reverse.mp ((List.dropWhile_sublist _).subset among))
  · intro positive nothing
    rw [significantDigits, List.reverse_eq_nil_iff, List.dropWhile_eq_nil_iff] at nothing
    have zeros : Nat.toDigits 10 number = List.replicate (Nat.toDigits 10 number).length '0' := by
      rw [List.eq_replicate_iff]
      refine ⟨rfl, fun c among => ?_⟩
      simpa using nothing c (List.mem_reverse.mpr among)
    have value : Nat.ofDigitChars 10 (Nat.toDigits 10 number) 0 = number :=
      Nat.ofDigitChars_ten_toDigits
    rw [zeros, Nat.ofDigitChars_replicate_zero, Nat.mul_zero] at value
    exact positive value.symm

/-- Digits without a point are a literal. -/
theorem ofLiteral?_digits {whole : List Char} (nonempty : whole ≠ [])
    (digits : ∀ c ∈ whole, c.isDigit = true) :
    ofLiteral? whole = some ⟨Nat.ofDigitChars 10 whole 0, 0⟩ := by
  have taken : whole.takeWhile Char.isDigit = whole := List.takeWhile_eq_self_iff.mpr digits
  have dropped : whole.dropWhile Char.isDigit = [] := List.dropWhile_eq_nil_iff.mpr digits
  have someDigit : whole.isEmpty = false := by
    simpa using nonempty
  unfold ofLiteral?
  simp only [taken, dropped, someDigit]
  rfl

/-- Digits written with a point are a literal, wherever the point is. -/
theorem exists_ofLiteral?_positionalText {digits : List Char}
    (allDigits : ∀ c ∈ digits, c.isDigit = true) (point : Int) :
    ∃ decimal, ofLiteral? (positionalText digits point) = some decimal := by
  have zeros : ∀ count, ∀ c ∈ List.replicate count '0', c.isDigit = true := by
    intro count c among
    rw [List.eq_of_mem_replicate among]
    rfl
  unfold positionalText
  split
  · have behind : ∀ c ∈ List.replicate (-point).toNat '0' ++ digits, c.isDigit = true := by
      intro c among
      obtain zero | digit := List.mem_append.mp among
      · exact zeros _ c zero
      · exact allDigits c digit
    exact ⟨_, ofLiteral?_point (show ['0'] ++ _ ≠ [] by simp) (by simp) behind⟩
  · next positive =>
    have front : ∀ c ∈ digits.take point.toNat ++
        List.replicate (point.toNat - digits.length) '0', c.isDigit = true := by
      intro c among
      obtain digit | zero := List.mem_append.mp among
      · exact allDigits c (List.mem_of_mem_take digit)
      · exact zeros _ c zero
    have nonempty : digits.take point.toNat ++
        List.replicate (point.toNat - digits.length) '0' ≠ [] := by
      rw [← List.length_pos_iff, List.length_append, List.length_take, List.length_replicate]
      omega
    have behind : ∀ c ∈ (if (digits.drop point.toNat).isEmpty then ['0']
        else digits.drop point.toNat), c.isDigit = true := by
      split
      · simp
      · exact fun c among => allDigits c (List.mem_of_mem_drop among)
    exact ⟨_, ofLiteral?_point (List.append_ne_nil_of_left_ne_nil nonempty _) front behind⟩

/-- The digits in front of an exponent are a literal. -/
theorem exists_ofLiteral?_mantissa {digits : List Char} (nonempty : digits ≠ [])
    (allDigits : ∀ c ∈ digits, c.isDigit = true) :
    ∃ decimal, ofLiteral? (digits.take 1 ++
      (if (digits.drop 1).isEmpty then [] else '.' :: digits.drop 1)) = some decimal := by
  have front : ∀ c ∈ digits.take 1, c.isDigit = true :=
    fun c among => allDigits c (List.mem_of_mem_take among)
  have first : digits.take 1 ≠ [] := by
    simpa using nonempty
  split
  · rw [List.append_nil]
    exact ⟨_, ofLiteral?_digits first front⟩
  · exact ⟨_, ofLiteral?_point (List.append_ne_nil_of_left_ne_nil first _) front
      fun c among => allDigits c (List.mem_of_mem_drop among)⟩

/-- The text of an exponent is plain, and reading it gives the exponent. -/
theorem readExponent?_exponentText (exponent : Int) :
    (∀ c ∈ exponentText exponent, Numeral.isPlain c = true) ∧
      Numeral.readExponent? (exponentText exponent) = some exponent := by
  -- One zero fills a single digit, and does not change the number.
  have padded : ∃ zeros, (if (Nat.toDigits 10 exponent.natAbs).length < 2 then
      '0' :: Nat.toDigits 10 exponent.natAbs else Nat.toDigits 10 exponent.natAbs) =
        List.replicate zeros '0' ++ Nat.toDigits 10 exponent.natAbs := by
    split
    · exact ⟨1, rfl⟩
    · exact ⟨0, rfl⟩
  obtain ⟨zeros, written⟩ := padded
  have allDigits : ∀ c ∈ List.replicate zeros '0' ++ Nat.toDigits 10 exponent.natAbs,
      c.isDigit = true := by
    intro c among
    obtain zero | digit := List.mem_append.mp among
    · rw [List.eq_of_mem_replicate zero]
      rfl
    · exact Nat.isDigit_of_mem_toDigits (by decide) (by decide) digit
  have value : Nat.ofDigitChars 10 (List.replicate zeros '0' ++
      Nat.toDigits 10 exponent.natAbs) 0 = exponent.natAbs := by
    rw [Nat.ofDigitChars_append, Nat.ofDigitChars_replicate_zero, Nat.mul_zero,
      Nat.ofDigitChars_ten_toDigits]
  have someDigit : (List.replicate zeros '0' ++
      Nat.toDigits 10 exponent.natAbs).isEmpty = false := by
    simp [Nat.toDigits_ne_nil]
  have areDigits : (List.replicate zeros '0' ++
      Nat.toDigits 10 exponent.natAbs).all Char.isDigit = true := List.all_eq_true.mpr allDigits
  simp only [exponentText, written]
  constructor
  · intro c among
    obtain rfl | digit := List.mem_cons.mp among
    · split <;> rfl
    · exact (Numeral.numeric_facts (.inl (allDigits c digit))).1
  · unfold Numeral.readExponent?
    by_cases negative : exponent < 0
    · have signed : -(exponent.natAbs : Int) = exponent := by omega
      simp only [if_pos negative, Numeral.splitSign, someDigit, areDigits, value]
      exact congrArg some signed
    · have unsigned : (exponent.natAbs : Int) = exponent := by omega
      simp only [if_neg negative, Numeral.splitSign, someDigit, areDigits, value]
      exact congrArg some unsigned

end Decimal

namespace Magnitude

/-- The place nearest to nothing is that of zero. -/
theorem nearestIndex_zero {denominator : Nat} (positive : 0 < denominator) :
    nearestIndex 0 denominator = 0 := by
  have nothing : unitsAt 0 = 0 := rfl
  have place := nearestIndex_unitsAt 0 positive
  rwa [nothing, Nat.zero_mul] at place

/-- A decimal that reads back as a positive magnitude is positive. -/
theorem digits_ne_zero_of_isReadFrom {magnitude : Magnitude} {decimal : Decimal}
    (positive : magnitude.index ≠ 0) (readBack : magnitude.isReadFrom decimal = true) :
    decimal.digits ≠ 0 := by
  intro zero
  have denominator : 0 < decimal.denominator := Nat.pow_pos (by decide)
  have numerator : decimal.numerator = 0 := by
    rw [Decimal.numerator, zero, Nat.zero_mul, Nat.zero_mul]
  rw [isReadFrom, beq_iff_eq, Decimal.nearestIndex, numerator, nearestIndex_zero denominator]
    at readBack
  exact positive readBack.symm

/-- Of two candidates only one that satisfies the condition is chosen. -/
theorem condition_of_choice {condition : Decimal → Bool} {first second chosen : Decimal}
    (found : (if condition first then some first
      else if condition second then some second else none) = some chosen) :
    condition chosen = true := by
  split at found
  · next holds =>
    obtain rfl := Option.some.inj found
    exact holds
  · split at found
    · next holds =>
      obtain rfl := Option.some.inj found
      exact holds
    · cases found

/-- What is found on a grid reads back. -/
theorem isReadFrom_of_onGrid? {magnitude : Magnitude} {exponent : Int} {decimal : Decimal}
    (found : magnitude.onGrid? exponent = some decimal) : magnitude.isReadFrom decimal = true :=
  condition_of_choice found

/-- The exact value of a positive magnitude is positive. -/
theorem units_ne_zero {magnitude : Magnitude} (positive : magnitude.index ≠ 0) :
    magnitude.units ≠ 0 := by
  intro zero
  have place := nearestIndex_unitsAt magnitude.index Nat.one_pos
  have nothing : unitsAt magnitude.index = 0 := zero
  rw [nothing, Nat.zero_mul, nearestIndex_zero Nat.one_pos] at place
  exact positive place.symm

/-- The shortest decimal of a positive magnitude is positive. -/
theorem shortestFrom_digits_ne_zero {magnitude : Magnitude} (positive : magnitude.index ≠ 0)
    (place : Nat) : (magnitude.shortestFrom place).digits ≠ 0 := by
  induction place with
  | zero =>
    have scaled : ∀ count, magnitude.units * Nat.pow 5 count ≠ 0 := by
      intro count
      have power : 0 < Nat.pow 5 count := Nat.pow_pos (by decide)
      exact Nat.mul_ne_zero (units_ne_zero positive) (Nat.ne_of_gt power)
    rw [shortestFrom]
    exact scaled 1074
  | succ place ih =>
    rw [shortestFrom]
    cases found : magnitude.onGrid? ((place + 1 : Nat) - 1074) with
    | none => exact ih
    | some decimal =>
      exact digits_ne_zero_of_isReadFrom positive (isReadFrom_of_onGrid? found)

end Magnitude

/-- The text of a positive decimal is a numeral. -/
theorem Decimal.exists_read?_text {decimal : Decimal} (positive : decimal.digits ≠ 0) :
    ∃ value, Numeral.read? (String.ofList decimal.text) = some value := by
  obtain ⟨allDigits, nonempty⟩ := significantDigits_facts decimal.digits
  simp only [text]
  split
  · obtain ⟨literal, isLiteral⟩ := exists_ofLiteral?_positionalText allDigits
      ((Nat.toDigits 10 decimal.digits).length + decimal.exponent)
    exact ⟨_, Numeral.read?_literal isLiteral⟩
  · obtain ⟨literal, isLiteral⟩ := exists_ofLiteral?_mantissa (nonempty positive) allDigits
    obtain ⟨plain, readExponent⟩ := readExponent?_exponentText
      ((Nat.toDigits 10 decimal.digits).length + decimal.exponent - 1)
    exact ⟨_, Numeral.read?_scientific isLiteral plain readExponent⟩

/-- The text of a finite double that is not negative is a numeral. -/
theorem Double.exists_read?_text (magnitude : Magnitude) :
    ∃ value, Numeral.read? (finite false magnitude).text = some value := by
  change ∃ value, Numeral.read? (String.ofList magnitude.text) = some value
  unfold Magnitude.text
  split
  · have zero : ∀ c ∈ ['0'], c.isDigit = true := by simp
    have someDigit : ['0'] ++ ['0'] ≠ [] := by simp
    exact ⟨_, Numeral.read?_literal (Decimal.ofLiteral?_point someDigit zero zero)⟩
  · next positive =>
    exact Decimal.exists_read?_text (Magnitude.shortestFrom_digits_ne_zero positive _)

end Calculator
