import Calculator.Proofs.Blanks
import Calculator.Proofs.Decomposition
import Calculator.Proofs.Layouts
import Calculator.Proofs.Parsing
import Calculator.Proofs.Phrases
import Calculator.Proofs.Recursion

/-!
# Numbers in the labels of leaves

The parser writes the number of a literal into the label of a leaf, and the evaluation reads it from
there. Nothing is lost on the way: what is read is the number itself. So the value of a literal is
rounded once, and literals of the same double are the same to the parser wherever they stand.
-/

namespace Calculator

/-! ## Leaves -/

/-- Doubles that are finite and not negative have different texts. -/
theorem Double.text_injective {first second : Magnitude}
    (same : (finite false first).text = (finite false second).text) : first = second := by
  have read := Double.read?_text first
  rw [same, Double.read?_text second] at read
  exact (Double.finite.inj (Option.some.inj read)).2.symm

/-- A leaf with the text of a double has that double as its value. -/
theorem Tree.evaluate_leaf_text (magnitude : Magnitude) :
    (leaf (Double.finite false magnitude).text).evaluate = .ok (.finite false magnitude) := by
  rw [evaluate, evaluateWith_eq, valueWith, Double.read?_text]

/-- A literal is parsed to the leaf with the text of its double. -/
theorem parse_of_number {piece : String} {value : Double}
    (isNumber : Token.ofPiece piece = .ok (.number value)) :
    parse piece = .ok (.leaf value.text) := by
  obtain ⟨decimal, magnitude, literal, _, _⟩ := Token.literal_of_ofPiece isNumber
  have noParenthesis : Symbol.openParen.char ∉ piece.toList := by
    intro among
    have numeric := (Decimal.characters_of_ofLiteral? literal).2 _ among
    revert numeric
    decide
  obtain ⟨tokens, read, operand⟩ := Phrase.literal isNumber
  exact Parser.parse_of_derives (Text.nestsWithin_of_not_mem noParenthesis _) read
    (operand.loosen (by decide))

/-! ## Pieces of the same class -/

/-- What reading makes of a piece: whether it is a blank, and what token it is. -/
def Piece.reading (piece : String) : Bool × Except LexError Token :=
  (isBlank piece, Token.ofPiece piece)

/-- The tokens of pieces depend on the readings of the pieces only. -/
theorem Token.ofPieces_congr {pieces others : List String}
    (same : List.Forall₂ (fun piece other => Piece.reading piece = Piece.reading other) pieces
      others) :
    ofPieces pieces = ofPieces others := by
  induction same with
  | nil => rfl
  | cons sameReading _ ih =>
    obtain ⟨sameBlank, sameToken⟩ := Prod.mk.inj sameReading
    simp only [ofPieces, sameBlank, sameToken, ih]

/-- A scan of pieces depends on the readings of the pieces only. -/
theorem Scan.run_congr (step : Step) {pieces others : List String}
    (same : List.Forall₂ (fun piece other => Piece.reading piece = Piece.reading other) pieces
      others)
    (state : State) : run step state pieces = run step state others := by
  induction same generalizing state with
  | nil => rfl
  | cons sameReading _ ih =>
    obtain ⟨sameBlank, sameToken⟩ := Prod.mk.inj sameReading
    simp only [run, sameBlank, sameToken, ih]

/-- Sources whose pieces have the same readings are parsed to the same tree or refused for the same
problem. -/
theorem parse_congr_of_reading {source other : String}
    (same : (Piece.split source).map Piece.reading = (Piece.split other).map Piece.reading) :
    parse source = parse other := by
  rw [← List.forall₂_eq_eq_eq, List.forall₂_map_left_iff, List.forall₂_map_right_iff] at same
  exact Parser.parseWithin_congr (Token.ofPieces_congr same) (Scan.run_congr _ same _)

/-- A run is no blank. -/
theorem Piece.IsRun.noBlank {piece : String} (isRun : IsRun piece) : isBlank piece = false := by
  rw [Bool.eq_false_iff]
  intro blank
  obtain rfl | rfl | rfl | rfl := blank_cases blank
  · exact isRun.2 '\t' (by decide) (by decide)
  · exact isRun.2 '\n' (by decide) (by decide)
  · exact isRun.2 '\r' (by decide) (by decide)
  · exact isRun.2 ' ' (by decide) (by decide)

/-- A literal is a run. -/
theorem Piece.isRun_of_number {piece : String} {value : Double}
    (isNumber : Token.ofPiece piece = .ok (.number value)) : IsRun piece := by
  obtain ⟨decimal, magnitude, literal, _, _⟩ := Token.literal_of_ofPiece isNumber
  obtain ⟨nonempty, numeric⟩ := Decimal.characters_of_ofLiteral? literal
  refine ⟨fun empty => nonempty (by rw [empty]; rfl), fun c among delimiter => ?_⟩
  rw [← isDelimiter_iff, isDelimiter_eq_false (numeric c among)] at delimiter
  cases delimiter

/-- A run may stand in the place of another one in a decomposition. -/
theorem Piece.Decomposes.replace {front back : List String} {piece other source : String}
    (decomposes : Decomposes (front ++ piece :: back) source) (isRun : IsRun piece)
    (otherIsRun : IsRun other) :
    Decomposes (front ++ other :: back) (String.join (front ++ other :: back)) := by
  obtain ⟨_, each, apart⟩ := decomposes
  rw [List.isChain_append] at apart
  obtain ⟨frontApart, backApart, between⟩ := apart
  rw [List.isChain_cons] at backApart
  refine ⟨rfl, ?_, ?_⟩
  · intro text among
    obtain inFront | rfl | inBack := by simpa only [List.mem_append, List.mem_cons] using among
    · exact each text (by simp [inFront])
    · exact .inr otherIsRun
    · exact each text (by simp [inBack])
  · rw [List.isChain_append, List.isChain_cons]
    refine ⟨frontApart, ⟨fun next isNext both => ?_, backApart.2⟩, ?_⟩
    · exact backApart.1 next isNext ⟨isRun, both.2⟩
    · intro last isLast first isFirst both
      exact between last isLast piece (by simp) ⟨both.1, isRun⟩

/-- A literal may be replaced by another one of the same double wherever it stands in a source. -/
theorem parse_replace {front back : List String} {source piece other : String} {value : Double}
    (apart : Piece.split source = front ++ piece :: back)
    (isNumber : Token.ofPiece piece = .ok (.number value))
    (otherIsNumber : Token.ofPiece other = .ok (.number value)) :
    parse (String.join (front ++ other :: back)) = parse source := by
  have isRun := Piece.isRun_of_number isNumber
  have otherIsRun := Piece.isRun_of_number otherIsNumber
  have decomposes := Piece.decomposes_split source
  rw [apart] at decomposes
  apply parse_congr_of_reading
  rw [(decomposes.replace isRun otherIsRun).split_eq, apart]
  simp [Piece.reading, isRun.noBlank, otherIsRun.noBlank, isNumber, otherIsNumber]

/-! ## Texts that are no tokens -/

/-- Only far exponents are written, behind an `e`. -/
theorem Decimal.Layout.mem_of_far {digits text : List Char} {exponent : Int}
    (layout : Layout digits exponent text) (far : exponent < -4 ∨ 16 ≤ exponent) : 'e' ∈ text := by
  cases layout with
  | behindPoint few => omega
  | amongDigits some more few =>
    rw [← List.length_pos_iff] at some
    omega
  | beforePoint few => omega
  | scientific => simp

/-- A text with an exponent is no token. -/
theorem Token.ofPiece_ne_ok_of_mem {text : String} (exponent : 'e' ∈ text.toList) (token : Token) :
    ofPiece text ≠ .ok token := by
  intro accepted
  obtain ⟨s, read, _⟩ | ⟨decimal, _, _, literal, _⟩ | ⟨error, _, _, refused⟩ := ofPiece_cases text
  · rw [Symbol.ofText?_eq_some_iff] at read
    rw [read, List.mem_singleton] at exponent
    cases s <;> cases exponent
  · have numeric := (Decimal.characters_of_ofLiteral? literal).2 'e' exponent
    revert numeric
    decide
  · rw [accepted] at refused
    cases refused

/-- Numbers survive the way through the labels of leaves.

The text of every finite double that is not negative is evaluated as that double; every such double
is the number of some literal. A literal is parsed to a leaf, and its value is that of its digits
rounded once. Literals are parsed alike exactly if they are rounded to the same double, and in any
source, be it an expression or not, one may stand for the other. The text of a double is the
shortest decimal that is rounded to it, the nearest one if there are several. It is laid out by the
power of ten that its first digit counts, and with an exponent it is no token itself. -/
theorem numbers_survive_leaves :
    (∀ magnitude, (Tree.leaf (Double.finite false magnitude).text).evaluate =
        .ok (.finite false magnitude) ∧
      ∃ piece, Token.ofPiece piece = .ok (.number (.finite false magnitude))) ∧
    (∀ piece value, Token.ofPiece piece = .ok (.number value) →
      parse piece = .ok (.leaf value.text) ∧ interpret piece = .ok value ∧
        ∃ number magnitude, Decimal.IsLiteral piece.toList number ∧
          number < Magnitude.overflow ∧ magnitude.IsNearest number ∧
          value = .finite false magnitude) ∧
    (∀ piece other value otherValue, Token.ofPiece piece = .ok (.number value) →
      Token.ofPiece other = .ok (.number otherValue) →
        (parse piece = parse other ↔ value = otherValue)) ∧
    (∀ source front piece back other value, Piece.split source = front ++ piece :: back →
      Token.ofPiece piece = .ok (.number value) → Token.ofPiece other = .ok (.number value) →
        parse (String.join (front ++ other :: back)) = parse source) ∧
    (Double.zero false).text = "0.0" ∧
    ∀ magnitude, magnitude ≠ Magnitude.zero →
      ∃ digits exponent, magnitude.IsShortest digits exponent ∧
        Decimal.Layout digits exponent (Double.finite false magnitude).text.toList ∧
        (exponent < -4 ∨ 16 ≤ exponent →
          ∀ token, Token.ofPiece (Double.finite false magnitude).text ≠ .ok token) := by
  refine ⟨fun magnitude => ⟨Tree.evaluate_leaf_text magnitude, _, magnitude.ofPiece_exactLiteral⟩,
    ?_, ?_, ?_, by decide +kernel, ?_⟩
  · intro piece value isNumber
    have parsed := parse_of_number isNumber
    obtain ⟨decimal, magnitude, literal, nearest, rfl⟩ := Token.literal_of_ofPiece isNumber
    obtain ⟨inRange, isNearest⟩ := Decimal.nearest?_eq_some_iff.mp nearest
    refine ⟨parsed, ?_, decimal.value, magnitude,
      Decimal.isLiteral_iff.mpr ⟨decimal, literal, rfl⟩, inRange, isNearest, rfl⟩
    simp only [interpret, parsed, Tree.evaluate_leaf_text]
  · intro piece other value otherValue isNumber otherIsNumber
    obtain ⟨_, magnitude, _, _, rfl⟩ := Token.literal_of_ofPiece isNumber
    obtain ⟨_, otherMagnitude, _, _, rfl⟩ := Token.literal_of_ofPiece otherIsNumber
    rw [parse_of_number isNumber, parse_of_number otherIsNumber]
    constructor
    · intro same
      rw [Double.text_injective (Tree.leaf.inj (Except.ok.inj same))]
    · intro same
      rw [same]
  · intro source front piece back other value apart isNumber otherIsNumber
    exact parse_replace apart isNumber otherIsNumber
  · intro magnitude notZero
    have positive : magnitude.index ≠ 0 := fun isZero => notZero (Magnitude.eq_of_index_eq isZero)
    obtain ⟨digits, exponent, isShortest, layout⟩ := Magnitude.exists_layout positive
    have written : (Double.finite false magnitude).text.toList = magnitude.text :=
      String.toList_ofList
    refine ⟨digits, exponent, isShortest, by rwa [written], fun far token => ?_⟩
    exact Token.ofPiece_ne_ok_of_mem (by rw [written]; exact layout.mem_of_far far) token

/-- One tenth is written in two ways, and one may stand for the other in `(0.1+$`, which is no
expression. The least positive double is one of those that have a text. -/
theorem numbers_survive_leaves_tenth :
    parse "0.1" = parse ".10000000000000001" ∧
      interpret "0.1" = .ok (.finite false ⟨4591870180066957722, by decide⟩) ∧
      parse (String.join ["(", ".10000000000000001", "+", "$"]) = parse "(0.1+$" ∧
      (∃ digits exponent, Magnitude.IsShortest ⟨1, by decide⟩ digits exponent ∧
        Decimal.Layout digits exponent (Double.finite false ⟨1, by decide⟩).text.toList ∧
        (exponent < -4 ∨ 16 ≤ exponent →
          ∀ token, Token.ofPiece (Double.finite false ⟨1, by decide⟩).text ≠ .ok token)) := by
  obtain ⟨_, literals, alike, replaced, _, texts⟩ := numbers_survive_leaves
  have isNumber : Token.ofPiece "0.1" =
      .ok (.number (.finite false ⟨4591870180066957722, by decide⟩)) := by decide +kernel
  have otherIsNumber : Token.ofPiece ".10000000000000001" =
      .ok (.number (.finite false ⟨4591870180066957722, by decide⟩)) := by decide +kernel
  have apart : Piece.split "(0.1+$" = ["("] ++ "0.1" :: ["+", "$"] := by decide +kernel
  have positive : (⟨1, by decide⟩ : Magnitude) ≠ .zero := by decide
  have least := texts _ positive
  have alikeTenth := (alike _ _ _ _ isNumber otherIsNumber).mpr rfl
  have replacedTenth := replaced _ _ _ _ _ _ apart isNumber otherIsNumber
  exact ⟨alikeTenth, (literals _ _ isNumber).2.1, replacedTenth, least⟩

end Calculator
