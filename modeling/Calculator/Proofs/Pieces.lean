import Calculator.Token.Classification
import Calculator.Token.Piece

/-!
# Cutting a source into pieces

What cutting a source keeps: the pieces in order are the source, each of them is one delimiter or a
run without delimiters, and a source that is cut next to a delimiter is cut into the pieces of its
two parts. A piece is a symbol exactly if it is the text of that symbol.
-/

namespace Calculator

namespace Symbol

/-- The symbol of a character is the one written by it. -/
theorem ofChar?_eq_some_iff {c : Char} {symbol : Symbol} :
    ofChar? c = some symbol ↔ c = symbol.char := by
  constructor
  · intro read
    unfold ofChar? at read
    split at read <;> cases read <;> rfl
  · rintro rfl
    exact ofChar?_char symbol

/-- A text is a symbol if it consists of the character of that symbol. -/
theorem ofText?_eq_some_iff {text : List Char} {symbol : Symbol} :
    ofText? text = some symbol ↔ text = [symbol.char] := by
  constructor
  · intro read
    match text with
    | [c] => rw [ofChar?_eq_some_iff.mp read]
    | [] => cases read
    | _ :: _ :: _ => cases read
  · rintro rfl
    exact ofChar?_char symbol

/-- The text of a symbol is its character. -/
@[simp] theorem toList_text (symbol : Symbol) : symbol.text.toList = [symbol.char] := by
  simp [text]

/-- Reading the text of a symbol gives the symbol. -/
theorem ofText?_text (symbol : Symbol) : ofText? symbol.text.toList = some symbol := by
  rw [ofText?_eq_some_iff, toList_text]

end Symbol

namespace Token

/-- The token of a piece by the answers to four questions: which symbol it is, which literal it is,
which magnitude is nearest to a literal, and whether it is made of digits and points. -/
def ofAnswers (read : Option Symbol) (literal : Option Decimal)
    (nearest : Decimal → Option Magnitude) (numeric : Bool) (piece : String) :
    Except LexError Token :=
  match read with
  | some s => .ok (symbol s)
  | none =>
    match literal with
    | some decimal =>
      match nearest decimal with
      | some magnitude => .ok (number (.finite false magnitude))
      | none => .error .numberOutOfRange
    | none => if numeric then .error .malformedNumber else .error (.illegalCharacter piece)

/-- The token of a piece depends on these answers only. -/
theorem ofPiece_eq (piece : String) :
    ofPiece piece =
      ofAnswers (Symbol.ofText? piece.toList) (Decimal.ofLiteral? piece.toList) Decimal.nearest?
        (!piece.toList.isEmpty && piece.toList.all fun c => c.isDigit || c == '.') piece := by
  unfold ofPiece ofAnswers
  rfl

section Answers

variable {literal : Option Decimal} {nearest : Decimal → Option Magnitude} {numeric : Bool}
  {piece : String} {decimal : Decimal}

/-- What is known to be a symbol is that symbol. -/
theorem ofAnswers_symbol (s : Symbol) :
    ofAnswers (some s) literal nearest numeric piece = .ok (symbol s) :=
  rfl

/-- A literal with a nearest magnitude is that number. -/
theorem ofAnswers_number {magnitude : Magnitude} (found : nearest decimal = some magnitude) :
    ofAnswers none (some decimal) nearest numeric piece =
      .ok (number (.finite false magnitude)) := by
  simp only [ofAnswers, found]

/-- A literal without a nearest magnitude is out of range. -/
theorem ofAnswers_outOfRange (overflows : nearest decimal = none) :
    ofAnswers none (some decimal) nearest numeric piece = .error .numberOutOfRange := by
  simp only [ofAnswers, overflows]

/-- What is neither a symbol nor a literal is malformed if it is made of digits and points, and
illegal otherwise. -/
theorem ofAnswers_unread :
    ofAnswers none none nearest numeric piece =
      .error (if numeric then .malformedNumber else .illegalCharacter piece) := by
  cases numeric <;> rfl

end Answers

/-- A piece is a symbol, a literal with a finite number that is not negative, or no token. -/
theorem ofPiece_cases (piece : String) :
    (∃ s, Symbol.ofText? piece.toList = some s ∧ ofPiece piece = .ok (symbol s)) ∨
      (∃ decimal magnitude, Symbol.ofText? piece.toList = none ∧
        Decimal.ofLiteral? piece.toList = some decimal ∧ decimal.nearest? = some magnitude ∧
          ofPiece piece = .ok (number (.finite false magnitude))) ∨
        ∃ error, Symbol.ofText? piece.toList = none ∧
          (∀ decimal, Decimal.ofLiteral? piece.toList = some decimal → decimal.nearest? = none) ∧
            ofPiece piece = .error error := by
  rw [ofPiece_eq]
  cases Symbol.ofText? piece.toList with
  | some s => exact .inl ⟨s, rfl, ofAnswers_symbol s⟩
  | none =>
    refine .inr ?_
    cases Decimal.ofLiteral? piece.toList with
    | some decimal =>
      cases found : decimal.nearest? with
      | some magnitude => exact .inl ⟨decimal, magnitude, rfl, rfl, found, ofAnswers_number found⟩
      | none => exact .inr ⟨_, rfl, by simp [found], ofAnswers_outOfRange found⟩
    | none => exact .inr ⟨_, rfl, by simp, ofAnswers_unread⟩

/-- A piece is a symbol exactly if it is the text of that symbol. -/
theorem ofPiece_eq_symbol_iff {piece : String} {s : Symbol} :
    ofPiece piece = .ok (symbol s) ↔ piece = s.text := by
  have written : Symbol.ofText? piece.toList = some s ↔ piece = s.text := by
    rw [Symbol.ofText?_eq_some_iff, ← Symbol.toList_text, String.toList_inj]
  obtain ⟨found, read, classified⟩ | ⟨decimal, magnitude, read, _, _, classified⟩ |
      ⟨error, read, _, classified⟩ := ofPiece_cases piece <;>
    rw [← written, read, classified] <;> simp

/-- No piece is the end of the input. -/
theorem ofPiece_ne_endOfInput (piece : String) : ofPiece piece ≠ .ok endOfInput := by
  obtain ⟨found, _, classified⟩ | ⟨decimal, magnitude, _, _, _, classified⟩ |
      ⟨error, _, _, classified⟩ := ofPiece_cases piece <;>
    rw [classified] <;> simp

/-- A piece that is refused by name is named itself. -/
theorem eq_of_illegalCharacter {piece named : String}
    (refused : ofPiece piece = .error (.illegalCharacter named)) : named = piece := by
  rw [ofPiece_eq] at refused
  cases read : Symbol.ofText? piece.toList with
  | some s =>
    rw [read, ofAnswers_symbol] at refused
    cases refused
  | none =>
    cases literal : Decimal.ofLiteral? piece.toList with
    | some decimal =>
      cases found : decimal.nearest? with
      | some magnitude =>
        rw [read, literal, ofAnswers_number found] at refused
        cases refused
      | none =>
        rw [read, literal, ofAnswers_outOfRange found] at refused
        cases refused
    | none =>
      rw [read, literal, ofAnswers_unread, Except.error.injEq] at refused
      split at refused
      · cases refused
      · exact (LexError.illegalCharacter.inj refused).symm

/-- A piece that is a number is a literal, and the number is the finite double nearest to it. -/
theorem literal_of_ofPiece {piece : String} {value : Double}
    (isNumber : ofPiece piece = .ok (number value)) :
    ∃ decimal magnitude, Decimal.ofLiteral? piece.toList = some decimal ∧
      decimal.nearest? = some magnitude ∧ value = .finite false magnitude := by
  obtain ⟨found, _, classified⟩ | ⟨decimal, magnitude, _, literal, nearest, classified⟩ |
      ⟨error, _, _, classified⟩ := ofPiece_cases piece
  · simp [classified] at isNumber
  · rw [classified, Except.ok.injEq, number.injEq] at isNumber
    exact ⟨decimal, magnitude, literal, nearest, isNumber.symm⟩
  · simp [classified] at isNumber

end Token

/-- A literal is made of digits alone, or of digits with a point among them; there is a digit in it
in either case, and its value is that of its digits, scaled by those behind the point. -/
theorem Decimal.ofLiteral?_cases {text : List Char} {decimal : Decimal}
    (literal : ofLiteral? text = some decimal) :
    (text ≠ [] ∧ (∀ c ∈ text, c.isDigit = true) ∧
        decimal = ⟨Nat.ofDigitChars 10 text 0, 0⟩) ∨
      ∃ whole fraction, text = whole ++ '.' :: fraction ∧ whole ++ fraction ≠ [] ∧
        (∀ c ∈ whole, c.isDigit = true) ∧ (∀ c ∈ fraction, c.isDigit = true) ∧
          decimal = ⟨Nat.ofDigitChars 10 (whole ++ fraction) 0, -(fraction.length : Int)⟩ := by
  have apart : text.takeWhile Char.isDigit ++ text.dropWhile Char.isDigit = text :=
    List.takeWhile_append_dropWhile
  have digits : ∀ c ∈ text.takeWhile Char.isDigit, c.isDigit = true :=
    List.all_eq_true.mp List.all_takeWhile
  unfold ofLiteral? at literal
  generalize text.takeWhile Char.isDigit = whole at *
  generalize text.dropWhile Char.isDigit = back at *
  subst apart
  split at literal
  · rw [List.append_nil]
    cases whole with
    | nil => cases literal
    | cons c rest => exact .inl ⟨List.cons_ne_nil c rest, digits, (Option.some.inj literal).symm⟩
  · next fraction =>
    simp only at literal
    split at literal
    · next conditions =>
      simp only [Bool.and_eq_true, List.all_eq_true, Bool.not_eq_true', Bool.and_eq_false_iff,
        List.isEmpty_eq_false_iff] at conditions
      have someDigit : whole ++ fraction ≠ [] := by
        rw [ne_eq, List.append_eq_nil_iff, Classical.not_and_iff_not_or_not]
        exact conditions.2
      exact .inr ⟨whole, fraction, rfl, someDigit, digits, conditions.1,
        (Option.some.inj literal).symm⟩
    · cases literal
  · cases literal

/-- A literal has a character, and all its characters are digits and points. -/
theorem Decimal.characters_of_ofLiteral? {text : List Char} {decimal : Decimal}
    (literal : ofLiteral? text = some decimal) :
    text ≠ [] ∧ ∀ c ∈ text, c.isDigit = true ∨ c = '.' := by
  obtain ⟨nonempty, digits, _⟩ | ⟨whole, fraction, rfl, _, wholeDigits, fractionDigits, _⟩ :=
    ofLiteral?_cases literal
  · exact ⟨nonempty, fun c among => .inl (digits c among)⟩
  · refine ⟨by simp, fun c among => ?_⟩
    obtain front | rfl | back := by simpa only [List.mem_append, List.mem_cons] using among
    · exact .inl (wholeDigits c front)
    · exact .inr rfl
    · exact .inl (fractionDigits c back)

namespace Piece

/-- A text may be cut between two parts: a delimiter stands next to the cut, or nothing does. -/
def Separates (front back : List Char) : Prop :=
  ∀ last ∈ front.getLast?, ∀ first ∈ back.head?, isDelimiter last = true ∨ isDelimiter first = true

/-- A part that begins with a delimiter is separated from every part before it. -/
theorem separates_of_head (front : List Char) {c : Char} {back : List Char}
    (delimiter : isDelimiter c = true) : Separates front (c :: back) := by
  intro last _ first isFirst
  obtain rfl := Option.mem_some_iff.mp isFirst
  exact .inr delimiter

/-- A part that ends with a delimiter is separated from every part behind it. -/
theorem separates_of_getLast (front back : List Char) {c : Char}
    (delimiter : isDelimiter c = true) : Separates (front ++ [c]) back := by
  intro last isLast first _
  rw [List.getLast?_append, List.getLast?_singleton, Option.some_or] at isLast
  obtain rfl := Option.mem_some_iff.mp isLast
  exact .inl delimiter

/-- The pieces of a text with characters begin with its first character. -/
theorem splitChars_cons_eq (c : Char) (text : List Char) :
    ∃ run rest, splitChars (c :: text) = (c :: run) :: rest := by
  change ∃ run rest, cons c (splitChars text) = (c :: run) :: rest
  cases splitChars text with
  | nil => exact ⟨[], [], rfl⟩
  | cons first rest =>
    by_cases apart : (isDelimiter c || first.head?.any isDelimiter) = true
    · exact ⟨[], first :: rest, by simp [cons, apart]⟩
    · exact ⟨first, rest, by simp [cons, apart]⟩

/-- A character in front of several pieces joins the first of them or none. -/
theorem cons_append (c : Char) {pieces : List (List Char)} (others : List (List Char))
    (nonempty : pieces ≠ []) : cons c (pieces ++ others) = cons c pieces ++ others := by
  cases pieces with
  | nil => exact absurd rfl nonempty
  | cons first rest =>
    simp only [List.cons_append, cons]
    split <;> rfl

/-- The pieces of a text that is cut next to a delimiter are those of its two parts. -/
theorem splitChars_append {front back : List Char} (separated : Separates front back) :
    splitChars (front ++ back) = splitChars front ++ splitChars back := by
  induction front with
  | nil => rfl
  | cons c rest ih =>
    change cons c (splitChars (rest ++ back)) = cons c (splitChars rest) ++ splitChars back
    cases rest with
    | nil =>
      cases back with
      | nil => rfl
      | cons d back =>
        obtain ⟨run, others, found⟩ := splitChars_cons_eq d back
        have apart : isDelimiter c = true ∨ isDelimiter d = true := separated c rfl d rfl
        rw [List.nil_append, found]
        simp [splitChars, cons, apart]
    | cons d rest =>
      obtain ⟨run, others, found⟩ := splitChars_cons_eq d rest
      have nonempty : splitChars (d :: rest) ≠ [] := by simp [found]
      rw [ih separated, cons_append c _ nonempty]

/-- The pieces of a text in order are the text. -/
theorem flatten_splitChars (text : List Char) : (splitChars text).flatten = text := by
  induction text with
  | nil => rfl
  | cons c rest ih =>
    change (cons c (splitChars rest)).flatten = c :: rest
    cases pieces : splitChars rest with
    | nil => rw [← ih, pieces]; rfl
    | cons first others =>
      have whole : (cons c (first :: others)).flatten = c :: (first :: others).flatten := by
        rw [cons]
        split <;> rfl
      rw [whole, ← pieces, ih]

/-- A piece is one delimiter or a run of other characters. -/
theorem delimiter_or_run {text piece : List Char} (found : piece ∈ splitChars text) :
    (∃ c, isDelimiter c = true ∧ piece = [c]) ∨
      piece ≠ [] ∧ ∀ c ∈ piece, isDelimiter c = false := by
  induction text generalizing piece with
  | nil => cases found
  | cons c rest ih =>
    change piece ∈ cons c (splitChars rest) at found
    have single : (∃ d, isDelimiter d = true ∧ [c] = [d]) ∨
        [c] ≠ [] ∧ ∀ d ∈ [c], isDelimiter d = false := by
      cases delimiter : isDelimiter c with
      | true => exact .inl ⟨c, delimiter, rfl⟩
      | false => exact .inr ⟨by simp, by simpa using delimiter⟩
    cases pieces : splitChars rest with
    | nil =>
      rw [pieces] at found
      obtain rfl := List.mem_singleton.mp found
      exact single
    | cons first others =>
      rw [pieces, cons] at found
      rw [pieces] at ih
      split at found
      · obtain rfl | found := List.mem_cons.mp found
        · exact single
        · exact ih found
      · next together =>
        obtain rfl | found := List.mem_cons.mp found
        · simp only [Bool.or_eq_true, not_or, Bool.not_eq_true] at together
          obtain ⟨d, delimiter, rfl⟩ | ⟨_, noDelimiter⟩ := ih (List.mem_cons_self ..)
          · simp [delimiter] at together
          · refine .inr ⟨by simp, fun d among => ?_⟩
            obtain rfl | among := List.mem_cons.mp among
            · exact together.1
            · exact noDelimiter d among
        · exact ih (List.mem_cons_of_mem first found)

/-- A run without delimiters is one piece. -/
theorem splitChars_run {text : List Char} (nonempty : text ≠ [])
    (noDelimiter : ∀ c ∈ text, isDelimiter c = false) : splitChars text = [text] := by
  induction text with
  | nil => exact absurd rfl nonempty
  | cons c rest ih =>
    change cons c (splitChars rest) = [c :: rest]
    cases rest with
    | nil => rfl
    | cons d rest =>
      rw [ih (by simp) fun e among => noDelimiter e (List.mem_cons_of_mem c among)]
      simp [cons, noDelimiter c, noDelimiter d]

/-- Digits and points are no delimiters. -/
theorem isDelimiter_eq_false {c : Char} (numeric : c.isDigit = true ∨ c = '.') :
    isDelimiter c = false := by
  rw [Bool.eq_false_iff]
  intro delimiter
  simp only [isDelimiter, isBlankChar, Bool.or_eq_true, beq_iff_eq,
    Option.isSome_iff_exists, Symbol.ofChar?_eq_some_iff] at delimiter
  obtain (((rfl | rfl) | rfl) | rfl) | ⟨symbol, rfl⟩ := delimiter
  · simp at numeric
  · simp at numeric
  · simp at numeric
  · simp at numeric
  · cases symbol <;> simp [Symbol.char] at numeric

/-- The character of a symbol is a delimiter. -/
theorem isDelimiter_char (symbol : Symbol) : isDelimiter symbol.char = true := by
  simp [isDelimiter, Symbol.ofChar?_char]

/-- A text of digits and points is no symbol. -/
theorem ofText?_of_numeric {text : List Char}
    (numeric : ∀ c ∈ text, c.isDigit = true ∨ c = '.') : Symbol.ofText? text = none := by
  cases read : Symbol.ofText? text with
  | none => rfl
  | some s =>
    rw [Symbol.ofText?_eq_some_iff] at read
    subst read
    have noDelimiter := isDelimiter_eq_false (numeric s.char List.mem_cons_self)
    rw [isDelimiter_char] at noDelimiter
    cases noDelimiter

/-- There are four blanks. -/
theorem blank_cases {piece : String} (blank : isBlank piece = true) :
    piece = "\t" ∨ piece = "\n" ∨ piece = "\r" ∨ piece = " " := by
  unfold isBlank at blank
  split at blank
  · next c alone =>
    obtain rfl : piece = String.ofList [c] := by rw [← alone, String.ofList_toList]
    simp only [isBlankChar, Bool.or_eq_true, beq_iff_eq] at blank
    obtain ((rfl | rfl) | rfl) | rfl := blank <;> decide
  · cases blank

/-- The text of a symbol is no blank. -/
theorem isBlank_text (symbol : Symbol) : isBlank symbol.text = false := by
  cases symbol <;> decide

/-- The pieces of a source that is cut next to a delimiter are those of its two parts. -/
theorem split_append {front back : String} (separated : Separates front.toList back.toList) :
    split (front ++ back) = split front ++ split back := by
  rw [split, String.toList_append, splitChars_append separated, List.map_append]
  rfl

/-- A run without delimiters is one piece. -/
theorem split_run {text : String} (nonempty : text.toList ≠ [])
    (noDelimiter : ∀ c ∈ text.toList, isDelimiter c = false) : split text = [text] := by
  rw [split, splitChars_run nonempty noDelimiter]
  simp

/-- A symbol separates what stands before it from what stands behind it, and is a piece itself. -/
theorem split_around (front back : String) (symbol : Symbol) :
    split (front ++ symbol.text ++ back) = split front ++ symbol.text :: split back := by
  have alone : split symbol.text = [symbol.text] := by
    simp [split, splitChars, cons, Symbol.text]
  rw [split_append, split_append, alone, List.append_assoc]
  · rfl
  · rw [Symbol.toList_text]
    exact separates_of_head _ (isDelimiter_char symbol)
  · rw [String.toList_append, Symbol.toList_text]
    exact separates_of_getLast _ _ (isDelimiter_char symbol)

/-- Copies of one symbol are cut into as many pieces. -/
theorem split_replicate (symbol : Symbol) (count : Nat) :
    split (String.ofList (List.replicate count symbol.char)) =
      List.replicate count symbol.text := by
  rw [split, String.toList_ofList]
  induction count with
  | zero => rfl
  | succ count ih =>
    have separated : Separates [symbol.char] (List.replicate count symbol.char) :=
      separates_of_getLast [] _ (isDelimiter_char symbol)
    have first : (splitChars [symbol.char]).map String.ofList = [symbol.text] := rfl
    rw [List.replicate_succ, ← List.singleton_append, splitChars_append separated, List.map_append,
      ih, first]
    rfl

/-- A symbol's character occurs as often in a piece as the piece is that symbol. -/
theorem count_char_piece {text piece : List Char} (found : piece ∈ splitChars text)
    (symbol : Symbol) : piece.count symbol.char = if piece = [symbol.char] then 1 else 0 := by
  obtain ⟨c, _, rfl⟩ | ⟨_, noDelimiter⟩ := delimiter_or_run found
  · by_cases same : c = symbol.char <;> simp [same]
  · have absent : symbol.char ∉ piece := by
      intro among
      have both := noDelimiter symbol.char among
      rw [isDelimiter_char] at both
      cases both
    rw [List.count_eq_zero_of_not_mem absent, if_neg]
    rintro rfl
    exact absent (List.mem_cons_self ..)

/-- A symbol's character occurs as often in the first pieces of a source as the symbol is one of
them, and the text of the first pieces begins the source. -/
theorem exists_head_of_prefix {text : String} {front : List String}
    (first : front <+: split text) :
    ∃ head, head <+: text.toList ∧
      ∀ symbol : Symbol, head.count symbol.char = front.count symbol.text := by
  obtain ⟨pieces, begins, rfl⟩ := List.prefix_map_iff.mp first
  clear first
  refine ⟨pieces.flatten, ?_, fun symbol => ?_⟩
  · obtain ⟨others, whole⟩ := begins
    refine ⟨others.flatten, ?_⟩
    rw [← List.flatten_append, whole, flatten_splitChars]
  · have counted : ∀ piece ∈ pieces,
        piece.count symbol.char = if piece = [symbol.char] then 1 else 0 :=
      fun piece among => count_char_piece (begins.subset among) symbol
    clear begins
    induction pieces with
    | nil => rfl
    | cons piece rest ih =>
      have same : String.ofList piece = symbol.text ↔ piece = [symbol.char] := by
        rw [← String.toList_inj, String.toList_ofList, Symbol.toList_text]
      simp only [List.mem_cons, forall_eq_or_imp] at counted
      rw [List.flatten_cons, List.count_append, counted.1, ih counted.2, List.map_cons,
        List.count_cons, Nat.add_comm]
      simp only [beq_iff_eq, same]

end Piece

end Calculator
