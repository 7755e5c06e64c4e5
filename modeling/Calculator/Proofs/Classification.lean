import Calculator.Proofs.Numerals
import Calculator.Proofs.Rounding

/-!
# The language of literals

A literal is written in one of four forms, and its value is the number that its digits stand for.
The classification of pieces follows five rules: a symbol is a token, a literal in range is the
double nearest to its value, and a literal out of range, other digits and points, and any other text
are errors. The rules apply to every text, and no text falls under two of them.
-/

namespace Calculator

namespace Decimal

/-- The text is made of decimal digits, and there is at least one. -/
def IsDigits (text : List Char) : Prop := text ≠ [] ∧ ∀ c ∈ text, c.isDigit = true

/-- The number that digits stand for. -/
def digitsValue (digits : List Char) : ℚ := Nat.ofDigitChars 10 digits 0

/-- The number that digits behind a point stand for. -/
def fractionValue (digits : List Char) : ℚ := digitsValue digits / 10 ^ digits.length

/-- The text is a literal of the number. -/
inductive IsLiteral : List Char → ℚ → Prop where
  /-- Digits without a point. -/
  | whole {digits : List Char} : IsDigits digits → IsLiteral digits (digitsValue digits)
  /-- Digits in front of a point. -/
  | pointed {digits : List Char} :
      IsDigits digits → IsLiteral (digits ++ ['.']) (digitsValue digits)
  /-- Digits on both sides of a point. -/
  | mixed {digits fraction : List Char} : IsDigits digits → IsDigits fraction →
      IsLiteral (digits ++ '.' :: fraction) (digitsValue digits + fractionValue fraction)
  /-- Digits behind a point. -/
  | fraction {fraction : List Char} :
      IsDigits fraction → IsLiteral ('.' :: fraction) (fractionValue fraction)

/-- A decimal without an exponent is a natural number. -/
theorem value_whole (digits : Nat) : value ⟨digits, 0⟩ = digits := by
  unfold value
  rw [zpow_zero, mul_one]

/-- The digits in front of the point and those behind it add up to the value. -/
theorem value_mixed (whole fraction : List Char) :
    value ⟨Nat.ofDigitChars 10 (whole ++ fraction) 0, -(fraction.length : Int)⟩ =
      digitsValue whole + fractionValue fraction := by
  have scale : (10 : ℚ) ^ fraction.length ≠ 0 := pow_ne_zero _ (by norm_num)
  unfold value fractionValue digitsValue
  simp only
  rw [Nat.ofDigitChars_append, Nat.ofDigitChars_eq_ofDigitChars_zero, Nat.cast_add, Nat.cast_mul,
    Nat.cast_pow, Nat.cast_ofNat, zpow_neg, zpow_natCast, ← div_eq_mul_inv, add_div,
    mul_div_cancel_left₀ _ scale]

/-- No digits stand for zero. -/
theorem digitsValue_nil : digitsValue [] = 0 := by
  unfold digitsValue
  rw [Nat.ofDigitChars_nil, Nat.cast_zero]

/-- No digits behind a point stand for zero. -/
theorem fractionValue_nil : fractionValue [] = 0 := by
  rw [fractionValue, digitsValue_nil, zero_div]

/-- Reading recognizes the literals, with their values. -/
theorem isLiteral_iff {text : List Char} {number : ℚ} :
    IsLiteral text number ↔ ∃ decimal, ofLiteral? text = some decimal ∧ decimal.value = number := by
  constructor
  · intro literal
    cases literal with
    | whole digits => exact ⟨_, ofLiteral?_digits digits.1 digits.2, value_whole _⟩
    | @pointed front digits =>
      refine ⟨_, ofLiteral?_point (by simpa using digits.1) digits.2 (by simp), ?_⟩
      rw [value_mixed, fractionValue_nil, add_zero]
    | @mixed front back digits fraction =>
      exact ⟨_, ofLiteral?_point (List.append_ne_nil_of_left_ne_nil digits.1 back) digits.2
        fraction.2, value_mixed front back⟩
    | @fraction back digits =>
      have noDigit : ∀ c ∈ ([] : List Char), c.isDigit = true := by simp
      have someDigit : [] ++ back ≠ [] := digits.1
      refine ⟨_, ofLiteral?_point someDigit noDigit digits.2, ?_⟩
      rw [value_mixed, digitsValue_nil, zero_add]
  · rintro ⟨decimal, literal, rfl⟩
    obtain ⟨nonempty, digits, rfl⟩ | ⟨whole, fraction, rfl, someDigit, front, back, rfl⟩ :=
      ofLiteral?_cases literal
    · rw [value_whole]
      exact .whole ⟨nonempty, digits⟩
    · rw [value_mixed]
      by_cases noFront : whole = []
      · subst noFront
        rw [digitsValue_nil, zero_add]
        exact .fraction ⟨someDigit, back⟩
      · by_cases noBack : fraction = []
        · subst noBack
          rw [fractionValue_nil, add_zero]
          exact .pointed ⟨noFront, front⟩
        · exact .mixed ⟨noFront, front⟩ ⟨noBack, back⟩

/-- The decimal text of a natural number is read as that number. -/
theorem ofLiteral?_repr (number : Nat) : ofLiteral? number.repr.toList = some ⟨number, 0⟩ := by
  rw [Nat.toList_repr, ofLiteral?_digits Nat.toDigits_ne_nil
    fun c among => Nat.isDigit_of_mem_toDigits (by decide) (by decide) among,
    Nat.ofDigitChars_ten_toDigits]

/-- A text that reading does not recognize is no literal. -/
theorem ofLiteral?_eq_none_iff {text : List Char} :
    ofLiteral? text = none ↔ ∀ number, ¬IsLiteral text number := by
  constructor
  · intro unread number literal
    obtain ⟨decimal, read, _⟩ := isLiteral_iff.mp literal
    rw [unread] at read
    cases read
  · intro never
    cases read : ofLiteral? text with
    | none => rfl
    | some decimal => exact absurd (isLiteral_iff.mpr ⟨decimal, read, rfl⟩) (never decimal.value)

end Decimal

namespace Token

/-- The text is not empty and is made of digits and points. -/
def IsNumeric (text : List Char) : Prop := text ≠ [] ∧ ∀ c ∈ text, c.isDigit = true ∨ c = '.'

/-- The rules of classification: what a piece is, or the wording of the error that it is. -/
inductive Classified (piece : String) : Except String Token → Prop where
  /-- The text of a symbol is that symbol. -/
  | symbol {s : Symbol} : piece = s.text → Classified piece (.ok (symbol s))
  /-- A literal in range is the double that its value is rounded to. -/
  | number {number : ℚ} {magnitude : Magnitude} : Decimal.IsLiteral piece.toList number →
      number < Magnitude.overflow → magnitude.IsNearest number →
        Classified piece (.ok (.number (.finite false magnitude)))
  /-- A literal that overflows is out of range. -/
  | outOfRange {number : ℚ} : Decimal.IsLiteral piece.toList number →
      Magnitude.overflow ≤ number → Classified piece (.error "Lexer error: Number out of range")
  /-- Digits and points that are no literal have an illegal format. -/
  | malformed : (∀ number, ¬Decimal.IsLiteral piece.toList number) → IsNumeric piece.toList →
      Classified piece (.error "Lexer error: Illegal format for a number")
  /-- Any other text is reported as it is. -/
  | illegal : (∀ s : Symbol, piece ≠ s.text) → ¬IsNumeric piece.toList →
      Classified piece (.error ("Lexer error: Illegal character in '" ++ piece ++ "'"))

/-- A literal is made of digits and points. -/
theorem isNumeric_of_isLiteral {text : List Char} {number : ℚ}
    (literal : Decimal.IsLiteral text number) : IsNumeric text := by
  obtain ⟨decimal, read, _⟩ := Decimal.isLiteral_iff.mp literal
  exact Decimal.characters_of_ofLiteral? read

/-- The question whether a text is made of digits and points has the right answer. -/
theorem isNumeric_iff (text : List Char) :
    (!text.isEmpty && text.all fun c => c.isDigit || c == '.') = true ↔ IsNumeric text := by
  simp only [IsNumeric, Bool.and_eq_true, Bool.not_eq_true', List.isEmpty_eq_false_iff,
    List.all_eq_true, Bool.or_eq_true, beq_iff_eq, ne_eq]

/-- A text that is no symbol is not read as one. -/
theorem ofText?_eq_none {piece : String} (noSymbol : ∀ s : Symbol, piece ≠ s.text) :
    Symbol.ofText? piece.toList = none := by
  cases read : Symbol.ofText? piece.toList with
  | none => rfl
  | some s =>
    rw [Symbol.ofText?_eq_some_iff, ← Symbol.toList_text, String.toList_inj] at read
    exact absurd read (noSymbol s)

/-- The classification as a token or the wording of an error. -/
def report (piece : String) : Except String Token := (ofPiece piece).mapError LexError.message

/-- A piece that is a token is reported as that token. -/
theorem report_ok {piece : String} {token : Token} (classified : ofPiece piece = .ok token) :
    report piece = .ok token := by
  rw [report, classified]
  rfl

/-- A piece that is no token is reported by the wording of the error. -/
theorem report_error {piece : String} {error : LexError}
    (refused : ofPiece piece = .error error) : report piece = .error error.message := by
  rw [report, refused]
  rfl

/-- What the rules say about a piece is reported. -/
theorem Classified.report_eq {piece : String} {outcome : Except String Token}
    (classified : Classified piece outcome) : report piece = outcome := by
  cases classified with
  | symbol written => exact report_ok (ofPiece_eq_symbol_iff.mpr written)
  | number literal inRange nearest =>
    obtain ⟨decimal, read, rfl⟩ := Decimal.isLiteral_iff.mp literal
    exact report_ok (ofPiece_of_literal read (Decimal.nearest?_eq_some_iff.mpr ⟨inRange, nearest⟩))
  | outOfRange literal overflows =>
    have noSymbol := Piece.ofText?_of_numeric (isNumeric_of_isLiteral literal).2
    obtain ⟨decimal, read, rfl⟩ := Decimal.isLiteral_iff.mp literal
    have refused : ofPiece piece = .error .numberOutOfRange := by
      rw [ofPiece_eq, noSymbol, read]
      exact ofAnswers_outOfRange (Decimal.nearest?_eq_none_iff.mpr overflows)
    exact report_error refused
  | malformed never numeric =>
    have refused : ofPiece piece = .error .malformedNumber := by
      rw [ofPiece_eq, Piece.ofText?_of_numeric numeric.2, Decimal.ofLiteral?_eq_none_iff.mpr never,
        (isNumeric_iff piece.toList).mpr numeric, ofAnswers_unread]
      rfl
    exact report_error refused
  | illegal noSymbol notNumeric =>
    have never : ∀ number, ¬Decimal.IsLiteral piece.toList number :=
      fun number literal => notNumeric (isNumeric_of_isLiteral literal)
    have otherwise := Bool.eq_false_iff.mpr (mt (isNumeric_iff piece.toList).mp notNumeric)
    have refused : ofPiece piece = .error (.illegalCharacter piece) := by
      rw [ofPiece_eq, ofText?_eq_none noSymbol, Decimal.ofLiteral?_eq_none_iff.mpr never,
        otherwise, ofAnswers_unread]
      rfl
    exact report_error refused

/-- The rules say something about every piece. -/
theorem exists_classified (piece : String) : ∃ outcome, Classified piece outcome := by
  by_cases symbolic : ∃ s : Symbol, piece = s.text
  · obtain ⟨s, written⟩ := symbolic
    exact ⟨_, .symbol written⟩
  · have noSymbol : ∀ s : Symbol, piece ≠ s.text := fun s written => symbolic ⟨s, written⟩
    cases read : Decimal.ofLiteral? piece.toList with
    | some decimal =>
      have literal := Decimal.isLiteral_iff.mpr ⟨decimal, read, rfl⟩
      cases found : decimal.nearest? with
      | some magnitude =>
        obtain ⟨inRange, nearest⟩ := Decimal.nearest?_eq_some_iff.mp found
        exact ⟨_, .number literal inRange nearest⟩
      | none => exact ⟨_, .outOfRange literal (Decimal.nearest?_eq_none_iff.mp found)⟩
    | none =>
      by_cases numeric : IsNumeric piece.toList
      · exact ⟨_, .malformed (Decimal.ofLiteral?_eq_none_iff.mp read) numeric⟩
      · exact ⟨_, .illegal noSymbol numeric⟩

/-- A piece is reported as the rules say, and as nothing else; a number among the tokens is finite
and not negative. -/
theorem classification_exact :
    (∀ piece outcome, report piece = outcome ↔ Classified piece outcome) ∧
      ∀ piece token, ofPiece piece = .ok token →
        (∃ s, token = symbol s) ∨ ∃ magnitude, token = number (.finite false magnitude) := by
  constructor
  · intro piece outcome
    constructor
    · rintro rfl
      obtain ⟨outcome, classified⟩ := exists_classified piece
      rwa [classified.report_eq]
    · exact Classified.report_eq
  · intro piece token accepted
    obtain ⟨s, _, classified⟩ | ⟨_, magnitude, _, _, _, classified⟩ | ⟨_, _, _, refused⟩ :=
      ofPiece_cases piece
    · exact .inl ⟨s, Except.ok.inj (accepted.symm.trans classified)⟩
    · exact .inr ⟨magnitude, Except.ok.inj (accepted.symm.trans classified)⟩
    · rw [accepted] at refused
      cases refused

/-- The least number that overflows is out of range, and the number before it is the last double. -/
theorem classification_exact_boundary :
    report (2 ^ 1024 - 2 ^ 970 : Nat).repr = .error "Lexer error: Number out of range" ∧
      ofPiece (2 ^ 1024 - 2 ^ 970 - 1 : Nat).repr =
        .ok (number (.finite false ⟨magnitudeCount - 1, by decide⟩)) ∧
      ((∃ s, number (.finite false ⟨magnitudeCount - 1, by decide⟩) = symbol s) ∨
        ∃ magnitude, number (.finite false ⟨magnitudeCount - 1, by decide⟩) =
          number (.finite false magnitude)) := by
  have least : Decimal.IsLiteral (2 ^ 1024 - 2 ^ 970 : Nat).repr.toList Magnitude.overflow := by
    rw [Magnitude.overflow_eq_cast, ← Decimal.value_whole]
    exact Decimal.isLiteral_iff.mpr ⟨_, Decimal.ofLiteral?_repr _, rfl⟩
  have last : Decimal.nearest? ⟨2 ^ 1024 - 2 ^ 970 - 1, 0⟩ =
      some ⟨magnitudeCount - 1, by decide⟩ := by
    decide +kernel
  have accepted := ofPiece_of_literal (Decimal.ofLiteral?_repr (2 ^ 1024 - 2 ^ 970 - 1)) last
  exact ⟨(classification_exact.1 _ _).mpr (.outOfRange least le_rfl), accepted,
    classification_exact.2 _ _ accepted⟩

end Token

end Calculator
