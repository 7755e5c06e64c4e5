import Calculator.Proofs.Classification
import Calculator.Proofs.ShortestDecimals

/-!
# Layouts of decimals

A decimal is laid out positionally or with an exponent, by the power of ten that its first digit
counts. Whichever layout it has, reading the text gives the double nearest to the decimal, in one
rounding. So the text of a double is read as that double.
-/

namespace Calculator

namespace Decimal

/-! ## Scaling -/

/-- A decimal times a power of ten is rounded once, also where the power is far beyond the
doubles. -/
theorem nearestScaled?_eq (decimal : Decimal) (power : Int) :
    decimal.nearestScaled? power = nearest? ⟨decimal.digits, decimal.exponent + power⟩ := by
  have great : nearest? ⟨1, 400⟩ = none := by decide +kernel
  have small : nearest? ⟨1, -400⟩ = some .zero := by decide +kernel
  have ascends : ∀ {low high : Int}, low ≤ high → (10 : ℚ) ^ low ≤ 10 ^ high :=
    fun ordered => zpow_le_zpow_right₀ (by norm_num) ordered
  unfold nearestScaled?
  simp only
  generalize decimal.exponent + power = exponent
  split
  · next nothing =>
    rw [eq_comm, nearest?_eq_some_iff_rounds, value, nothing, Nat.cast_zero, zero_mul]
    exact Magnitude.rounds_zero
  · next someDigit =>
    have one : (1 : ℚ) ≤ decimal.digits := by exact_mod_cast Nat.one_le_iff_ne_zero.mpr someDigit
    split
    · next beyond =>
      rw [eq_comm, nearest?_eq_none_iff]
      rw [nearest?_eq_none_iff, value, Nat.cast_one, one_mul] at great
      calc Magnitude.overflow ≤ 10 ^ (400 : Int) := great
        _ ≤ 10 ^ exponent := ascends beyond.le
        _ ≤ decimal.digits * 10 ^ exponent :=
          le_mul_of_one_le_left (Magnitude.ten_zpow_pos exponent).le one
    · split
      · next below =>
        rw [eq_comm, nearest?_eq_some_iff_rounds]
        rw [nearest?_eq_some_iff_rounds, value, Nat.cast_one, one_mul] at small
        refine Magnitude.rounds_zero.between small ?_ ?_
        · exact mul_nonneg (Nat.cast_nonneg _) (Magnitude.ten_zpow_pos exponent).le
        · have bits : (decimal.digits : ℚ) ≤ 10 ^ (decimal.digits.log2 + 1) := by
            have less : decimal.digits < 2 ^ (decimal.digits.log2 + 1) := Nat.lt_log2_self
            have more : 2 ^ (decimal.digits.log2 + 1) ≤ 10 ^ (decimal.digits.log2 + 1) :=
              Nat.pow_le_pow_left (by decide) _
            exact_mod_cast (less.trans_le more).le
          calc (decimal.digits : ℚ) * 10 ^ exponent
              ≤ 10 ^ (decimal.digits.log2 + 1) * 10 ^ exponent :=
                mul_le_mul_of_nonneg_right bits (Magnitude.ten_zpow_pos exponent).le
            _ = 10 ^ ((decimal.digits.log2 + 1 : Nat) + exponent) := by
                rw [zpow_add₀ (by norm_num), zpow_natCast]
            _ ≤ 10 ^ (-400 : Int) := ascends (by omega)
      · rfl

/-! ## Digits -/

/-- Zeros in front of digits do not matter. -/
theorem digitsValue_zeros_append (zeros : Nat) (digits : List Char) :
    digitsValue (List.replicate zeros '0' ++ digits) = digitsValue digits := by
  rw [digitsValue, Nat.ofDigitChars_append, Nat.ofDigitChars_replicate_zero, Nat.mul_zero]
  rfl

/-- Every zero behind digits multiplies their value by ten. -/
theorem digitsValue_append_zeros (digits : List Char) (zeros : Nat) :
    digitsValue (digits ++ List.replicate zeros '0') = digitsValue digits * 10 ^ zeros := by
  rw [digitsValue, Nat.ofDigitChars_append, Nat.ofDigitChars_replicate_zero, Nat.cast_mul,
    Nat.cast_pow, Nat.cast_ofNat, mul_comm]
  rfl

/-- The zeros at the end of a number's digits are left out of the significant ones. -/
theorem exists_toDigits_eq (number : Nat) :
    ∃ zeros, Nat.toDigits 10 number = significantDigits number ++ List.replicate zeros '0' := by
  refine ⟨((Nat.toDigits 10 number).reverse.takeWhile (· == '0')).length, ?_⟩
  have apart : (Nat.toDigits 10 number).reverse.takeWhile (· == '0') ++
      (Nat.toDigits 10 number).reverse.dropWhile (· == '0') = (Nat.toDigits 10 number).reverse :=
    List.takeWhile_append_dropWhile
  have zeros : (Nat.toDigits 10 number).reverse.takeWhile (· == '0') =
      List.replicate ((Nat.toDigits 10 number).reverse.takeWhile (· == '0')).length '0' := by
    rw [List.eq_replicate_iff]
    refine ⟨rfl, fun c among => ?_⟩
    simpa using List.all_eq_true.mp List.all_takeWhile c among
  rw [significantDigits, ← List.reverse_replicate, ← zeros, ← List.reverse_append, apart,
    List.reverse_reverse]

/-- The number `d.ddd * 10 ^ exponent` that digits stand for if the first of them counts the power
of ten. -/
def scientificValue (digits : List Char) (exponent : Int) : ℚ :=
  digitsValue digits * 10 ^ (exponent + 1 - digits.length)

/-- The power of ten that the first digit of a decimal counts. -/
def leadingExponent (decimal : Decimal) : Int :=
  (Nat.toDigits 10 decimal.digits).length + decimal.exponent - 1

/-- The value of a decimal by its significant digits. -/
theorem value_eq_scientificValue (decimal : Decimal) :
    decimal.value =
      scientificValue (significantDigits decimal.digits) decimal.leadingExponent := by
  obtain ⟨zeros, written⟩ := exists_toDigits_eq decimal.digits
  have digits : (decimal.digits : ℚ) =
      digitsValue (significantDigits decimal.digits) * 10 ^ zeros := by
    rw [← digitsValue_append_zeros, ← written, digitsValue, Nat.ofDigitChars_ten_toDigits]
  have scale : decimal.leadingExponent + 1 - (significantDigits decimal.digits).length =
      zeros + decimal.exponent := by
    rw [leadingExponent, written, List.length_append, List.length_replicate]
    omega
  rw [value, scientificValue, digits, scale, zpow_add₀ (by norm_num), zpow_natCast, mul_assoc]

/-- Digits stand for a number with as many digits. -/
theorem ofDigitChars_lt {digits : List Char} (areDigits : ∀ c ∈ digits, c.isDigit = true) :
    Nat.ofDigitChars 10 digits 0 < 10 ^ digits.length := by
  have general : ∀ start, Nat.ofDigitChars 10 digits start < (start + 1) * 10 ^ digits.length := by
    induction digits with
    | nil => simp
    | cons c rest ih =>
      rw [List.forall_mem_cons] at areDigits
      obtain ⟨value, small, rfl⟩ := Numeral.exists_digitChar areDigits.1
      intro start
      rw [Nat.ofDigitChars_cons_digitChar_of_lt_ten small, List.length_cons, pow_succ',
        ← Nat.mul_assoc]
      refine (ih areDigits.2 _).trans_le (Nat.mul_le_mul_right _ ?_)
      omega
  simpa using general 0

/-- The first digit of a positive decimal counts the greatest power of ten that is not above the
decimal. -/
theorem zpow_leadingExponent {decimal : Decimal} (positive : decimal.digits ≠ 0) :
    10 ^ decimal.leadingExponent ≤ decimal.value ∧
      decimal.value < 10 ^ (decimal.leadingExponent + 1) := by
  have someDigit : 0 < (Nat.toDigits 10 decimal.digits).length := Nat.length_toDigits_pos
  obtain ⟨least, less⟩ := pow_length_toDigits positive
  have grid := Magnitude.ten_zpow_pos decimal.exponent
  have lower : decimal.leadingExponent =
      ((Nat.toDigits 10 decimal.digits).length - 1 : Nat) + decimal.exponent := by
    unfold leadingExponent
    omega
  have upper : decimal.leadingExponent + 1 =
      (Nat.toDigits 10 decimal.digits).length + decimal.exponent := by
    unfold leadingExponent
    omega
  rw [lower, zpow_add₀ (by norm_num), zpow_natCast, ← lower, upper, zpow_add₀ (by norm_num),
    zpow_natCast, value]
  exact ⟨mul_le_mul_of_nonneg_right (by exact_mod_cast least) grid.le,
    mul_lt_mul_of_pos_right (by exact_mod_cast less) grid⟩

/-! ## The two layouts -/

/-- The text of digits of which the first counts a power of ten. -/
inductive Layout : (digits : List Char) → (exponent : Int) → (text : List Char) → Prop where
  /-- The first digit stands behind the point, with at most three zeros between them. -/
  | behindPoint {digits : List Char} {zeros : Nat} (few : zeros < 4) :
      Layout digits (-(zeros : Int) - 1) (['0'] ++ '.' :: (List.replicate zeros '0' ++ digits))
  /-- The point stands between digits, behind at most sixteen of them. -/
  | amongDigits {whole fraction : List Char} (some : whole ≠ []) (more : fraction ≠ [])
      (few : whole.length ≤ 16) :
      Layout (whole ++ fraction) (whole.length - 1) (whole ++ '.' :: fraction)
  /-- The last digit stands in front of the point, with zeros between them that make up at most
  sixteen digits, and one more zero stands behind the point. -/
  | beforePoint {digits : List Char} {zeros : Nat} (few : digits.length + zeros ≤ 16) :
      Layout digits (digits.length + zeros - 1)
        ((digits ++ List.replicate zeros '0') ++ '.' :: ['0'])
  /-- The exponent stands behind the digits, with its sign and with at least two digits. A point
  stands behind the first digit if there are others. -/
  | scientific {first : Char} {rest : List Char} {exponent : Int} {zeros : Nat}
      (far : exponent < -4 ∨ 16 ≤ exponent)
      (width : zeros + (Nat.toDigits 10 exponent.natAbs).length =
        max 2 (Nat.toDigits 10 exponent.natAbs).length) :
      Layout (first :: rest) exponent
        ((first :: if rest = [] then [] else '.' :: rest) ++
          'e' :: (if exponent < 0 then '-' else '+') ::
            (List.replicate zeros '0' ++ Nat.toDigits 10 exponent.natAbs))

/-- The positional text of digits has the layout that the place of the point asks for. -/
theorem layout_positionalText (digits : List Char) {point : Int} (least : -4 < point)
    (most : point ≤ 16) : Layout digits (point - 1) (positionalText digits point) := by
  unfold positionalText
  split
  · have exponent : point - 1 = -((-point).toNat : Int) - 1 := by omega
    rw [exponent]
    exact .behindPoint (by omega)
  · by_cases within : point < digits.length
    · have length : (digits.take point.toNat).length = point.toNat := by
        rw [List.length_take]
        omega
      have exponent : point - 1 = ((digits.take point.toNat).length : Int) - 1 := by omega
      have noZeros : point.toNat - digits.length = 0 := by omega
      have whole : digits.take point.toNat ≠ [] := by
        rw [← List.length_pos_iff]
        omega
      have fraction : digits.drop point.toNat ≠ [] := by
        rw [← List.length_pos_iff, List.length_drop]
        omega
      have layout := Layout.amongDigits whole fraction (by omega)
      rw [List.take_append_drop, ← exponent] at layout
      simpa [noZeros, fraction] using layout
    · have exponent : point - 1 =
          (digits.length : Int) + (point.toNat - digits.length : Nat) - 1 := by omega
      have taken : digits.take point.toNat = digits := List.take_of_length_le (by omega)
      have dropped : digits.drop point.toNat = [] := List.drop_of_length_le (by omega)
      simp only [taken, dropped]
      rw [exponent]
      exact .beforePoint (by omega)

/-- The text of digits with an exponent has the layout of such a text. -/
theorem layout_scientificText {digits : List Char} {exponent : Int} (nonempty : digits ≠ [])
    (far : exponent < -4 ∨ 16 ≤ exponent) :
    Layout digits exponent (scientificText digits exponent) := by
  obtain ⟨first, rest, rfl⟩ := List.exists_cons_of_ne_nil nonempty
  have someDigit : 0 < (Nat.toDigits 10 exponent.natAbs).length := Nat.length_toDigits_pos
  by_cases single : (Nat.toDigits 10 exponent.natAbs).length < 2
  · have layout := @Layout.scientific first rest exponent 1 far (by omega)
    simpa [scientificText, exponentText, single, List.isEmpty_iff] using layout
  · have layout := @Layout.scientific first rest exponent 0 far (by omega)
    simpa [scientificText, exponentText, single, List.isEmpty_iff] using layout

/-- The text of a positive decimal has the layout that the power of ten asks for which its first
digit counts. -/
theorem layout_text {decimal : Decimal} (positive : decimal.digits ≠ 0) :
    Layout (significantDigits decimal.digits) decimal.leadingExponent decimal.text := by
  have nonempty := (significantDigits_facts decimal.digits).2 positive
  unfold text leadingExponent
  simp only
  split
  · next within => exact layout_positionalText _ within.1 within.2
  · next outside => exact layout_scientificText nonempty (by omega)

/-! ## Reading a layout -/

/-- Zeros are digits, and so are zeros beside digits. -/
theorem isDigits_zeros {digits : List Char} (areDigits : IsDigits digits) (zeros : Nat) :
    IsDigits (List.replicate zeros '0' ++ digits) ∧
      IsDigits (digits ++ List.replicate zeros '0') := by
  have each : ∀ c ∈ List.replicate zeros '0', c.isDigit = true := by
    intro c among
    rw [List.eq_of_mem_replicate among]
    rfl
  refine ⟨⟨List.append_ne_nil_of_right_ne_nil _ areDigits.1, ?_⟩,
    ⟨List.append_ne_nil_of_left_ne_nil areDigits.1 _, ?_⟩⟩
  · exact List.forall_mem_append.mpr ⟨each, areDigits.2⟩
  · exact List.forall_mem_append.mpr ⟨areDigits.2, each⟩

/-- The digit zero stands for zero. -/
theorem digitsValue_zero : digitsValue ['0'] = 0 := by
  have value : Nat.ofDigitChars 10 ['0'] 0 = 0 := by decide
  rw [digitsValue, value, Nat.cast_zero]

/-- Digits with the point behind the first of them are a literal. -/
theorem isLiteral_mantissa {first : Char} {rest : List Char}
    (areDigits : IsDigits (first :: rest)) :
    IsLiteral (first :: if rest = [] then [] else '.' :: rest)
      (digitsValue (first :: rest) * 10 ^ (-(rest.length : Int))) := by
  have one : IsDigits [first] := ⟨by simp, by simpa using areDigits.2 first List.mem_cons_self⟩
  split
  · next nothing =>
    subst nothing
    rw [List.length_nil, Nat.cast_zero, neg_zero, zpow_zero, mul_one]
    exact .whole one
  · next nonempty =>
    have others : IsDigits rest :=
      ⟨nonempty, fun c among => areDigits.2 c (List.mem_cons_of_mem first among)⟩
    have value := value_mixed [first] rest
    rw [Decimal.value, List.singleton_append] at value
    have literal := IsLiteral.mixed one others
    rw [← value] at literal
    exact literal

/-- The sign and the digits of an exponent, with zeros up to two digits, are its text. -/
theorem exponentText_padded {exponent : Int} {zeros : Nat}
    (width : zeros + (Nat.toDigits 10 exponent.natAbs).length =
      max 2 (Nat.toDigits 10 exponent.natAbs).length) :
    (if exponent < 0 then '-' else '+') ::
        (List.replicate zeros '0' ++ Nat.toDigits 10 exponent.natAbs) = exponentText exponent := by
  have someDigit : 0 < (Nat.toDigits 10 exponent.natAbs).length := Nat.length_toDigits_pos
  unfold exponentText
  by_cases single : (Nat.toDigits 10 exponent.natAbs).length < 2
  · obtain rfl : zeros = 1 := by omega
    simp [single]
  · obtain rfl : zeros = 0 := by omega
    simp [single]

/-- A text of digits with the first one counting a power of ten is read as the double nearest to
their value, whichever layout it has. -/
theorem Layout.read? {digits text : List Char} {exponent : Int} {decimal : Decimal}
    (layout : Layout digits exponent text) (areDigits : IsDigits digits)
    (same : decimal.value = scientificValue digits exponent) :
    Numeral.read? (String.ofList text) = some (.ofMagnitude? false decimal.nearest?) := by
  have ofLiteral : ∀ {text : List Char} {number : ℚ}, IsLiteral text number →
      decimal.value = number →
        Numeral.read? (String.ofList text) = some (.ofMagnitude? false decimal.nearest?) := by
    intro text number literal sameNumber
    obtain ⟨written, read, value⟩ := isLiteral_iff.mp literal
    rw [Numeral.read?_literal read, nearest?_congr (value.trans sameNumber.symm)]
  have zero : IsDigits ['0'] := ⟨by simp, by simp⟩
  rw [scientificValue] at same
  cases layout with
  | @behindPoint _ zeros few =>
    refine ofLiteral (.mixed zero (isDigits_zeros areDigits zeros).1) (same.trans ?_)
    have power : -(zeros : Int) - 1 + 1 - digits.length =
        -((zeros + digits.length : Nat) : Int) := by
      omega
    rw [digitsValue_zero, zero_add, fractionValue, digitsValue_zeros_append, List.length_append,
      List.length_replicate, power, zpow_neg, zpow_natCast, div_eq_mul_inv]
  | @amongDigits whole fraction some more few =>
    have front : IsDigits whole := ⟨some, fun c among => areDigits.2 c (by simp [among])⟩
    have back : IsDigits fraction := ⟨more, fun c among => areDigits.2 c (by simp [among])⟩
    refine ofLiteral (.mixed front back) (same.trans ?_)
    have power : (whole.length : Int) - 1 + 1 - (whole ++ fraction).length =
        -(fraction.length : Int) := by
      rw [List.length_append]
      omega
    rw [← value_mixed, power]
    rfl
  | @beforePoint _ zeros few =>
    refine ofLiteral (.mixed (isDigits_zeros areDigits zeros).2 zero) (same.trans ?_)
    have power : (digits.length : Int) + zeros - 1 + 1 - digits.length = zeros := by omega
    rw [digitsValue_append_zeros, fractionValue, digitsValue_zero, zero_div, add_zero, power,
      zpow_natCast]
  | @scientific first rest _ zeros far width =>
    obtain ⟨written, read, value⟩ := isLiteral_iff.mp (isLiteral_mantissa areDigits)
    obtain ⟨plain, readExponent⟩ := readExponent?_exponentText exponent
    rw [exponentText_padded width, Numeral.read?_scientific read plain readExponent,
      nearestScaled?_eq, nearest?_congr]
    have power : exponent + 1 - (first :: rest).length = -(rest.length : Int) + exponent := by
      rw [List.length_cons]
      omega
    rw [same, power, zpow_add₀ (by norm_num), ← mul_assoc, ← value, Decimal.value, Decimal.value,
      zpow_add₀ (by norm_num), mul_assoc]

/-- The text of a positive decimal is read as the double nearest to the decimal. -/
theorem read?_text {decimal : Decimal} (positive : decimal.digits ≠ 0) :
    Numeral.read? (String.ofList decimal.text) = some (.ofMagnitude? false decimal.nearest?) := by
  obtain ⟨allDigits, nonempty⟩ := significantDigits_facts decimal.digits
  exact (layout_text positive).read? ⟨nonempty positive, allDigits⟩ decimal.value_eq_scientificValue

end Decimal

namespace Magnitude

/-- The digits, of which the first counts the power of ten, are the shortest decimal that is rounded
to the magnitude. -/
structure IsShortest (magnitude : Magnitude) (digits : List Char) (exponent : Int) : Prop where
  /-- The digits are decimal digits, and there is one. -/
  isDigits : Decimal.IsDigits digits
  /-- The first digit counts the greatest power of ten that is not above the number. -/
  leading : 10 ^ exponent ≤ Decimal.scientificValue digits exponent ∧
    Decimal.scientificValue digits exponent < 10 ^ (exponent + 1)
  /-- The number is rounded to the magnitude. -/
  rounds : magnitude.Rounds (Decimal.scientificValue digits exponent)
  /-- No number with fewer digits is rounded to the magnitude. -/
  shortest : ∀ others other, Decimal.IsDigits others →
    magnitude.Rounds (Decimal.scientificValue others other) → digits.length ≤ others.length
  /-- No number with as many digits that is rounded to the magnitude is nearer to it. -/
  nearest : ∀ others other, Decimal.IsDigits others → others.length = digits.length →
    magnitude.Rounds (Decimal.scientificValue others other) →
      |magnitude.value - Decimal.scientificValue digits exponent| ≤
        |magnitude.value - Decimal.scientificValue others other|

/-- The significant digits of the decimal that is found for a positive magnitude are the shortest
ones. -/
theorem isShortest_significantDigits {magnitude : Magnitude} (positive : magnitude.index ≠ 0) :
    magnitude.IsShortest (Decimal.significantDigits magnitude.shortest.digits)
      magnitude.shortest.leadingExponent := by
  have someDigit := shortest_digits_ne_zero positive
  obtain ⟨allDigits, nonempty⟩ := Decimal.significantDigits_facts magnitude.shortest.digits
  obtain ⟨zeros, written⟩ := Decimal.exists_toDigits_eq magnitude.shortest.digits
  have fewer : (Decimal.significantDigits magnitude.shortest.digits).length ≤
      (Nat.toDigits 10 magnitude.shortest.digits).length := by
    rw [written, List.length_append]
    exact Nat.le_add_right _ _
  have value := magnitude.shortest.value_eq_scientificValue
  refine ⟨⟨nonempty someDigit, allDigits⟩, ?_, ?_, ?_, ?_⟩
  · rw [← value]
    exact Decimal.zpow_leadingExponent someDigit
  · rw [← value]
    exact magnitude.rounds_shortest
  · intro others other areDigits rounds
    exact fewer.trans (length_shortest_le positive (Decimal.ofDigitChars_lt areDigits.2) rounds)
  · intro others other areDigits asMany rounds
    have few := (Decimal.ofDigitChars_lt areDigits.2).trans_le
      (Nat.pow_le_pow_right (by decide) (asMany.le.trans fewer))
    rw [← value]
    exact shortest_nearest positive few rounds

/-- The text of a positive magnitude is its shortest decimal in the layout that the power of ten
asks for which the first digit counts. -/
theorem exists_layout {magnitude : Magnitude} (positive : magnitude.index ≠ 0) :
    ∃ digits exponent, magnitude.IsShortest digits exponent ∧
      Decimal.Layout digits exponent magnitude.text := by
  refine ⟨_, _, isShortest_significantDigits positive, ?_⟩
  rw [text, if_neg positive]
  exact Decimal.layout_text (shortest_digits_ne_zero positive)

end Magnitude

/-- The text of a finite double that is not negative is read as that double. -/
theorem Double.read?_text (magnitude : Magnitude) :
    Numeral.read? (finite false magnitude).text = some (finite false magnitude) := by
  change Numeral.read? (String.ofList magnitude.text) = _
  unfold Magnitude.text
  split
  · next isZero =>
    have same : magnitude = .zero := Magnitude.eq_of_index_eq isZero
    rw [same]
    decide +kernel
  · next positive =>
    have nearest : magnitude.shortest.nearest? = some magnitude :=
      Decimal.nearest?_eq_some_iff_rounds.mpr magnitude.rounds_shortest
    rw [Decimal.read?_text (Magnitude.shortest_digits_ne_zero positive), nearest]
    rfl

end Calculator
