import Calculator.Proofs.Numerals
import Calculator.Proofs.Parsing
import Calculator.Text.Quoted
import Calculator.Token.Entry

/-!
# Whole lines of text

A text of whole lines may have some of its lines deleted, those that start in a certain way. What is
left of two such texts, one after the other, is what is left of each. A text without a line feed is
one line together with the line feed behind it, and all that the program words is such a text: the
numbers, the tokens, what is quoted, and the reasons for which a source is refused, in which a piece
of the source may stand as it is.
-/

namespace Calculator

namespace Text

/-- The lines of a text, each with the line feed that ends it. What follows the last line feed is a
line as well. -/
def feedLines : List Char → List (List Char)
  | [] => []
  | c :: rest =>
    if c = '\n' then [c] :: feedLines rest
    else
      match feedLines rest with
      | [] => [[c]]
      | line :: lines => (c :: line) :: lines

/-- The line has the given start, and a line feed ends it. -/
def isEndedLineFrom (start line : List Char) : Bool :=
  start.isPrefixOf line && line.getLast? == some '\n'

/-- The text without the lines that have the given start and that a line feed ends. -/
def deleteLines (start text : String) : String :=
  let isLeft := fun line => !isEndedLineFrom start.toList line
  String.ofList ((feedLines text.toList).filter isLeft).flatten

/-- A line feed ends the text, unless it is empty. -/
def IsWholeLines (text : String) : Prop := ∀ last ∈ text.toList.getLast?, last = '\n'

/-- There is no line feed in the text. -/
def IsOneLine (text : String) : Prop := '\n' ∉ text.toList

/-- Whether a text is one line can be decided on its characters. -/
instance (text : String) : Decidable (IsOneLine text) :=
  inferInstanceAs (Decidable ('\n' ∉ text.toList))

/-- The first text is made of whole lines, and without those that have the given start it is the
second text. -/
structure Leaves (start long short : String) : Prop where
  whole : IsWholeLines long
  left : deleteLines start long = short

/-! ## Deleting lines -/

/-- The lines of whole lines and of what follows them are the lines of both. -/
theorem feedLines_append {front : List Char} (whole : ∀ last ∈ front.getLast?, last = '\n')
    (back : List Char) : feedLines (front ++ back) = feedLines front ++ feedLines back := by
  induction front with
  | nil => rfl
  | cons c rest ih =>
    cases rest with
    | nil =>
      obtain rfl : c = '\n' := whole c rfl
      rfl
    | cons d others =>
      have further := ih whole
      have someLine : ∃ line lines, feedLines (d :: others) = line :: lines := by
        rw [feedLines]
        split
        · exact ⟨_, _, rfl⟩
        · split <;> exact ⟨_, _, rfl⟩
      obtain ⟨line, lines, found⟩ := someLine
      rw [List.cons_append, feedLines, feedLines, further, found]
      split <;> rfl

/-- A text without a line feed and the line feed behind it are one line. -/
theorem feedLines_line {line : List Char} (oneLine : '\n' ∉ line) :
    feedLines (line ++ ['\n']) = [line ++ ['\n']] := by
  induction line with
  | nil => rfl
  | cons c rest ih =>
    rw [List.mem_cons, not_or] at oneLine
    rw [List.cons_append, feedLines, if_neg (Ne.symm oneLine.1), ih oneLine.2]

/-- Whole lines behind whole lines are whole lines. -/
theorem IsWholeLines.append {front back : String} (first : IsWholeLines front)
    (second : IsWholeLines back) : IsWholeLines (front ++ back) := by
  intro last isLast
  rw [String.toList_append, List.getLast?_append] at isLast
  cases found : back.toList.getLast? with
  | none =>
    rw [found] at isLast
    exact first last isLast
  | some other =>
    rw [found] at isLast
    obtain rfl : other = last := Option.some.inj isLast
    exact second other found

namespace IsOneLine

/-- Two texts without a line feed have none together. -/
theorem append {front back : String} (first : IsOneLine front) (second : IsOneLine back) :
    IsOneLine (front ++ back) := by
  rw [IsOneLine, String.toList_append, List.mem_append, not_or]
  exact ⟨first, second⟩

/-- A text without blank characters has no line feed. -/
theorem of_noBlank {text : String} (noBlank : ∀ c ∈ text.toList, Piece.isBlankChar c = false) :
    IsOneLine text := by
  intro among
  have same : Piece.isBlankChar '\n' = false := noBlank _ among
  exact absurd same (by decide)

end IsOneLine

namespace Leaves

variable {start : String}

/-- An empty text leaves an empty text. -/
theorem empty : Leaves start "" "" := ⟨by simp [IsWholeLines], by rfl⟩

/-- What two texts leave one after the other is what they leave together. -/
theorem append {front back first second : String} (head : Leaves start front first)
    (tail : Leaves start back second) : Leaves start (front ++ back) (first ++ second) := by
  refine ⟨head.whole.append tail.whole, ?_⟩
  rw [← head.left, ← tail.left, deleteLines, deleteLines, deleteLines, String.toList_append,
    feedLines_append head.whole, List.filter_append, List.flatten_append, String.ofList_append]

/-- What texts leave one after the other is what they leave together. -/
theorem join {α : Type} {long short : α → String}
    (each : ∀ item, Leaves start (long item) (short item)) (items : List α) :
    Leaves start (String.join (items.map long)) (String.join (items.map short)) := by
  induction items with
  | nil => exact empty
  | cons item others ih =>
    rw [List.map_cons, List.map_cons, String.join_cons, String.join_cons]
    exact (each item).append ih

/-- One line leaves nothing if it has the start, and itself if it has not. -/
theorem line {text : String} (oneLine : IsOneLine text) :
    Leaves start (text ++ "\n")
      (if start.toList.isPrefixOf (text ++ "\n").toList then "" else text ++ "\n") := by
  have ended : (text ++ "\n").toList = text.toList ++ ['\n'] := String.toList_append
  have isLast : (text.toList ++ ['\n']).getLast? = some '\n' := List.getLast?_concat
  constructor
  · intro last among
    rw [ended, isLast] at among
    exact (Option.some.inj among).symm
  · rw [deleteLines, ended, feedLines_line oneLine]
    simp only [List.filter_cons, List.filter_nil, isEndedLineFrom, isLast]
    cases start.toList.isPrefixOf (text.toList ++ ['\n']) with
    | true => rfl
    | false =>
      rw [← ended]
      simp

end Leaves

end Text

/-! ## Numbers and tokens -/

/-- A plain character is no blank. -/
theorem Numeral.isBlankChar_of_plain {c : Char} (plain : isPlain c = true) :
    Piece.isBlankChar c = false :=
  of_plain (Piece.isBlankChar · = false) (by decide) (by decide) plain

/-- The text of a positive decimal is made of plain characters. -/
theorem Decimal.plain_text {decimal : Decimal} (positive : decimal.digits ≠ 0) :
    ∀ c ∈ decimal.text, Numeral.isPlain c = true := by
  obtain ⟨allDigits, nonempty⟩ := significantDigits_facts decimal.digits
  simp only [text]
  split
  · obtain ⟨_, isLiteral⟩ := exists_ofLiteral?_positionalText allDigits
      ((Nat.toDigits 10 decimal.digits).length + decimal.exponent)
    exact (Numeral.literal_cases isLiteral).2.1
  · obtain ⟨_, isLiteral⟩ := exists_ofLiteral?_mantissa (nonempty positive) allDigits
    have plainMantissa := (Numeral.literal_cases isLiteral).2.1
    obtain ⟨plainExponent, _⟩ := readExponent?_exponentText
      ((Nat.toDigits 10 decimal.digits).length + decimal.exponent - 1)
    intro c among
    obtain front | rfl | back := by
      simpa only [scientificText, List.mem_append, List.mem_cons] using among
    · exact plainMantissa c (List.mem_append.mpr front)
    · rfl
    · exact plainExponent c back

/-- The text of a magnitude is made of plain characters. -/
theorem Magnitude.plain_text (magnitude : Magnitude) :
    ∀ c ∈ magnitude.text, Numeral.isPlain c = true := by
  unfold text
  split
  · simp [Numeral.isPlain]
  · next positive => exact Decimal.plain_text (shortestFrom_digits_ne_zero positive _)

/-- The text of a double holds no blank. -/
theorem Double.noBlank_text (value : Double) :
    ∀ c ∈ value.text.toList, Piece.isBlankChar c = false := by
  cases value with
  | nan => simp [text, Piece.isBlankChar]
  | infinite negative => cases negative <;> simp [text, Piece.isBlankChar]
  | finite negative magnitude =>
    have plain : ∀ c ∈ magnitude.text, Piece.isBlankChar c = false :=
      fun c among => Numeral.isBlankChar_of_plain (magnitude.plain_text c among)
    cases negative with
    | false => simpa [text] using plain
    | true =>
      have minus : Piece.isBlankChar '-' = false := by decide
      simpa [text, minus] using plain

/-- The entry of a token is one line. -/
theorem Token.isOneLine_pairText (token : Token) : Text.IsOneLine token.entry.pairText := by
  have name : Text.IsOneLine token.entry.kind.name := by
    cases token with
    | symbol s => cases s <;> simp [entry, TokenKind.name, Symbol.name, Text.IsOneLine]
    | _ => simp [entry, TokenKind.name, Text.IsOneLine]
  have shown : Text.IsOneLine token.entry.value.shown := by
    cases token with
    | number value => exact .of_noBlank value.noBlank_text
    | symbol s => cases s <;> simp [entry, EntryValue.shown, Text.IsOneLine, Symbol.char]
    | endOfInput => simp [entry, EntryValue.shown, Text.IsOneLine]
  have opening : Text.IsOneLine "(TokenId." := by simp [Text.IsOneLine]
  have comma : Text.IsOneLine ", " := by simp [Text.IsOneLine]
  have closing : Text.IsOneLine ")" := by simp [Text.IsOneLine]
  exact (((opening.append name).append comma).append shown).append closing

/-! ## Quoted text -/

namespace Text

/-- The digits of a number hold no line feed. -/
theorem lineFeed_not_mem_toDigits {base : Nat} (proper : 1 < base) (small : base ≤ 16)
    (number : Nat) : '\n' ∉ Nat.toDigits base number := by
  have digits : ∀ value < 16, Nat.digitChar value ≠ '\n' := by decide
  induction number using Nat.strongRecOn with
  | ind number ih =>
    rw [Nat.toDigits_eq_if proper]
    split
    · next single =>
      have noLineFeed := digits number (by omega)
      simp [Ne.symm noLineFeed]
    · have shorter : number / base < number := Nat.div_lt_self (by omega) proper
      have last : number % base < base := Nat.mod_lt _ (by omega)
      have noLineFeed := digits (number % base) (by omega)
      simp [ih _ shorter, Ne.symm noLineFeed]

/-- A character between quotes is written without a line feed. -/
theorem lineFeed_not_mem_quotedChar {quote : Char} (proper : quote ≠ '\n') (c : Char) :
    '\n' ∉ quotedChar quote c := by
  have digits : ∀ width, '\n' ∉ hexadecimal width c.toNat := by
    intro width
    simp only [hexadecimal, List.mem_append, List.mem_replicate, not_or]
    exact ⟨by simp, lineFeed_not_mem_toDigits (by decide) (by decide) _⟩
  by_cases special : c = quote ∨ c = '\\'
  · obtain rfl | rfl := special
    · simp [quotedChar, Ne.symm proper]
    · simp [quotedChar]
  · simp only [quotedChar, if_neg special]
    split_ifs with tab feed carriage printable
    · decide
    · decide
    · decide
    · simpa using Ne.symm feed
    all_goals simp [digits]

/-- A text in quotes is one line. -/
theorem isOneLine_quoted (text : String) : IsOneLine (quoted text) := by
  have proper : enclosingQuote text.toList ≠ '\n' := by
    unfold enclosingQuote
    split <;> decide
  simp only [IsOneLine, quoted, String.toList_ofList, List.mem_append, List.mem_cons,
    List.mem_flatMap, List.not_mem_nil, or_false, not_or, not_exists, not_and]
  exact ⟨⟨Ne.symm proper, fun c _ => lineFeed_not_mem_quotedChar proper c⟩, Ne.symm proper⟩

end Text

/-! ## Error messages -/

/-- A piece of a source that is no blank holds no blank character. -/
theorem Piece.noBlank_of_mem_split {text piece : String} (among : piece ∈ split text)
    (noBlank : isBlank piece = false) : ∀ c ∈ piece.toList, isBlankChar c = false := by
  obtain ⟨characters, found, rfl⟩ := List.mem_map.mp among
  rw [isBlank, String.toList_ofList] at noBlank
  rw [String.toList_ofList]
  obtain ⟨c, _, rfl⟩ | ⟨_, noDelimiter⟩ := delimiter_or_run found
  · simpa using noBlank
  · intro c inside
    have free := noDelimiter c inside
    rw [isDelimiter, Bool.or_eq_false_iff] at free
    exact free.1

/-- A piece that ends a scan is one of the scanned pieces and no blank. -/
theorem Scan.exists_piece_of_lexError {step : Step} {state : State} {pieces : List String}
    {error : LexError} (failed : run step state pieces = .error (.lex error)) :
    ∃ piece ∈ pieces, Piece.isBlank piece = false ∧ Token.ofPiece piece = .error error := by
  induction pieces generalizing state with
  | nil =>
    rw [run] at failed
    split at failed <;> cases failed
  | cons piece rest ih =>
    have behind : ∀ next, run step next rest = .error (.lex error) →
        ∃ other ∈ piece :: rest, Piece.isBlank other = false ∧
          Token.ofPiece other = .error error := by
      intro next failedThen
      obtain ⟨other, among, found⟩ := ih failedThen
      exact ⟨other, List.mem_cons_of_mem _ among, found⟩
    rw [run] at failed
    split at failed
    · exact behind _ failed
    · next noBlank =>
      split at failed
      · next lexError classified =>
        obtain rfl := SyntaxError.lex.inj (Except.error.inj failed)
        exact ⟨piece, List.mem_cons_self, by simpa using noBlank, classified⟩
      · split at failed
        · cases failed
        · exact behind _ failed

/-- The message for a token that cannot stand where it does is one line with a start of its own. -/
theorem ParseError.message_line (error : ParseError) :
    Text.IsOneLine error.message ∧ error.message.toList.head? ≠ some 'D' := by
  cases error with
  | expected kind =>
    cases kind with
    | symbol s =>
      have wording : (expected (.symbol s)).message = "Parse error: Expected a " ++ s.text ++ "." :=
        rfl
      have inside : '\n' ≠ s.char := by cases s <;> decide
      rw [wording]
      simpa [Text.IsOneLine] using inside
    | _ => decide +kernel
  | _ => decide +kernel

/-- The message for a piece that is no token is one line with a start of its own, if the piece holds
no line feed. -/
theorem LexError.message_line {piece : String} {error : LexError} (oneLine : Text.IsOneLine piece)
    (classified : Token.ofPiece piece = .error error) :
    Text.IsOneLine error.message ∧ error.message.toList.head? ≠ some 'D' := by
  cases error with
  | illegalCharacter named =>
    obtain rfl := Token.eq_of_illegalCharacter classified
    have wording : (illegalCharacter named).message =
        "Lexer error: Illegal character in '" ++ named ++ "'" := rfl
    rw [wording]
    simpa [Text.IsOneLine] using oneLine
  | _ => decide +kernel

/-- The message for a source that is refused is one line with a start of its own, whatever stands in
the source and whatever the limit is. -/
theorem message_of_parseWithin_error {limit : Nat} {text : String} {error : SyntaxError}
    (refused : parseWithin limit text = .error error) :
    Text.IsOneLine error.message ∧ error.message.toList.head? ≠ some 'D' := by
  cases error with
  | parse error => exact error.message_line
  | lex error =>
    have scanned := Parser.parseWithin_eq_error_iff.mp refused
    obtain ⟨piece, among, noBlank, classified⟩ := Scan.exists_piece_of_lexError scanned
    have oneLine : Text.IsOneLine piece := .of_noBlank (Piece.noBlank_of_mem_split among noBlank)
    exact LexError.message_line oneLine classified

end Calculator
