import Calculator.Proofs.Decomposition
import Calculator.Proofs.LexerRuns
import Calculator.Proofs.Parsing

/-!
# Blanks between pieces

Blanks cut a source into pieces and have no other meaning. Sources with the same pieces but for the
blanks are read alike, step by step and also behind an error, and they are parsed to one tree or
refused for one problem. So blanks may be put wherever a source may be cut.
-/

namespace Calculator

/-- The pieces that are no blanks. -/
def Piece.significant (pieces : List String) : List String :=
  pieces.filter fun piece => !isBlank piece

/-- Two lexers differ at most in the blanks that are unread. -/
structure Lexer.Alike (lexer other : Lexer) : Prop where
  /-- The current token is the same. -/
  current : lexer.current = other.current
  /-- The advances have met the same tokens and bad pieces. -/
  journal : lexer.journal = other.journal
  /-- The same pieces are unread, but for the blanks. -/
  unread : Piece.significant lexer.unread = Piece.significant other.unread

/-- Two sources are read alike. -/
structure ReadAlike (source other : String) : Prop where
  /-- They have the same tokens, up to their end or up to the same bad piece behind them. -/
  tokens : Token.ofSource source = Token.ofSource other
  /-- So many advances, whether they fail or not, meet the same in both. -/
  advances : ∀ count : Nat, Lexer.Alike (Lexer.advanced^[count] (Lexer.ofSource source))
    (Lexer.advanced^[count] (Lexer.ofSource other))
  /-- They are parsed to the same tree or refused for the same problem. -/
  outcome : parse source = parse other

namespace Piece

/-- A blank is not significant. -/
theorem significant_cons_of_blank {piece : String} (rest : List String)
    (blank : isBlank piece = true) : significant (piece :: rest) = significant rest := by
  rw [significant, List.filter_cons_of_neg (by simp [blank])]
  rfl

/-- Every other piece is. -/
theorem significant_cons {piece : String} (rest : List String) (noBlank : isBlank piece = false) :
    significant (piece :: rest) = piece :: significant rest := by
  rw [significant, List.filter_cons_of_pos (by simp [noBlank])]
  rfl

/-- Blanks may be put between any pieces. -/
theorem significant_append_blanks (front : List String) {blanks : List String}
    (allBlank : ∀ piece ∈ blanks, isBlank piece = true) (back : List String) :
    significant (front ++ (blanks ++ back)) = significant (front ++ back) := by
  rw [significant, significant, List.filter_append, List.filter_append, List.filter_append,
    (skip_blanks allBlank).1, List.nil_append]

/-- A text of blanks is cut into blanks. -/
theorem isBlank_of_mem_split {text : String} (allBlank : ∀ c ∈ text.toList, isBlankChar c = true)
    {piece : String} (found : piece ∈ split text) : isBlank piece = true := by
  obtain ⟨chars, among, rfl⟩ := List.mem_map.mp found
  have inText : ∀ c ∈ chars, isBlankChar c = true := by
    intro c isChar
    have inPieces := List.mem_flatten.mpr ⟨chars, among, isChar⟩
    rw [flatten_splitChars] at inPieces
    exact allBlank c inPieces
  obtain ⟨c, _, rfl⟩ | ⟨nonempty, noDelimiter⟩ := delimiter_or_run among
  · simpa [isBlank] using inText c (List.mem_singleton_self c)
  · obtain ⟨c, isChar⟩ := List.exists_mem_of_ne_nil chars nonempty
    have neither := noDelimiter c isChar
    rw [isDelimiter, inText c isChar] at neither
    cases neither

/-- A text of blanks ends apart and begins apart. -/
theorem apart_of_blanks {text : String} (allBlank : ∀ c ∈ text.toList, isBlankChar c = true) :
    EndsApart text ∧ BeginsApart text := by
  have amongDelimiters : ∀ c ∈ text.toList, c ∈ delimiters := by
    intro c among
    rw [← isDelimiter_iff, isDelimiter, allBlank c among, Bool.true_or]
  exact ⟨fun c isLast => amongDelimiters c (List.mem_of_getLast? isLast),
    fun c isFirst => amongDelimiters c (List.mem_of_mem_head? isFirst)⟩

/-- A text begins apart if both of its parts do. -/
theorem BeginsApart.append {front back : String} (begins : BeginsApart front)
    (beginsThen : BeginsApart back) : BeginsApart (front ++ back) := by
  intro c isFirst
  rw [String.toList_append, List.head?_append, Option.mem_def, Option.or_eq_some_iff] at isFirst
  obtain isFirst | ⟨_, isFirst⟩ := isFirst
  · exact begins c isFirst
  · exact beginsThen c isFirst

/-- Blanks where a source may be cut add no significant piece. -/
theorem significant_split_blanks {front blanks back : String}
    (allBlank : ∀ c ∈ blanks.toList, isBlankChar c = true)
    (apart : EndsApart front ∨ BeginsApart back) :
    significant (split (front ++ blanks ++ back)) = significant (split (front ++ back)) := by
  obtain ⟨ends, begins⟩ := apart_of_blanks allBlank
  have around : split (front ++ blanks ++ back) = split front ++ (split blanks ++ split back) := by
    rw [String.append_assoc, split_append, split_append]
    · exact separates_of_apart (.inl ends)
    · exact separates_of_apart (apart.imp_right begins.append)
  rw [around, significant_append_blanks _ fun piece => isBlank_of_mem_split allBlank,
    split_append (separates_of_apart apart)]

end Piece

namespace Lexer

/-- What an advance does, whether it fails or not, is a matter of the significant pieces: there is
none, and the end has been reached, or the first one is read and examined. -/
theorem advanced_significant (lexer : Lexer) :
    (Piece.significant lexer.unread = [] ∧
        lexer.advanced = ⟨.endOfInput, [], .ok .endOfInput :: lexer.journal⟩) ∨
      ∃ piece, Piece.significant lexer.unread =
          piece :: Piece.significant lexer.advanced.unread ∧
        lexer.advanced.journal = Token.ofPiece piece :: lexer.journal ∧
        lexer.advanced.current = (Token.ofPiece piece).toOption.getD lexer.current := by
  obtain ⟨blanks, allBlank, cases⟩ := lexer.advanced_cases
  have skipped : ∀ pieces, Piece.significant (blanks ++ pieces) = Piece.significant pieces :=
    fun pieces => Piece.significant_append_blanks [] allBlank pieces
  obtain ⟨atEnd, outcome⟩ | ⟨piece, rest, apart, noBlank, outcomes⟩ := cases
  · refine .inl ⟨?_, outcome⟩
    rw [atEnd, ← List.append_nil blanks, skipped]
    rfl
  · refine .inr ⟨piece, ?_⟩
    rw [apart, skipped, Piece.significant_cons rest noBlank]
    obtain ⟨token, classified, outcome⟩ | ⟨error, classified, outcome⟩ := outcomes
    · rw [outcome, classified]
      exact ⟨rfl, rfl, rfl⟩
    · rw [outcome, classified]
      exact ⟨rfl, rfl, rfl⟩

/-- Lexers that are alike stay alike when they are advanced. -/
theorem Alike.advanced {lexer other : Lexer} (alike : Alike lexer other) :
    Alike lexer.advanced other.advanced := by
  have same := alike.unread
  obtain ⟨nothing, outcome⟩ | ⟨piece, first, examined, current⟩ := lexer.advanced_significant <;>
    obtain ⟨otherNothing, otherOutcome⟩ | ⟨otherPiece, otherFirst, otherExamined, otherCurrent⟩ :=
      other.advanced_significant
  · rw [outcome, otherOutcome, alike.journal]
    exact ⟨rfl, rfl, rfl⟩
  · rw [nothing, otherFirst] at same
    cases same
  · rw [first, otherNothing] at same
    cases same
  · rw [first, otherFirst, List.cons.injEq] at same
    obtain ⟨rfl, sameRest⟩ := same
    refine ⟨?_, ?_, sameRest⟩
    · rw [current, otherCurrent, alike.current]
    · rw [examined, otherExamined, alike.journal]

/-- They stay alike however often they are advanced. -/
theorem Alike.iterate_advanced {lexer other : Lexer} (alike : Alike lexer other) (count : Nat) :
    Alike (Lexer.advanced^[count] lexer) (Lexer.advanced^[count] other) := by
  induction count with
  | zero => exact alike
  | succ count ih =>
    rw [Function.iterate_succ_apply', Function.iterate_succ_apply']
    exact ih.advanced

end Lexer

/-- Blanks give no tokens. -/
theorem Token.ofPieces_significant (pieces : List String) :
    ofPieces (Piece.significant pieces) = ofPieces pieces := by
  induction pieces with
  | nil => rfl
  | cons piece rest ih =>
    cases blank : Piece.isBlank piece with
    | true => rw [Piece.significant_cons_of_blank rest blank, ih, ofPieces, if_pos blank]
    | false => simp only [Piece.significant_cons rest blank, ofPieces, ih]

/-- Blanks do not matter to a scan. -/
theorem Scan.run_significant (step : Step) (state : State) (pieces : List String) :
    run step state (Piece.significant pieces) = run step state pieces := by
  induction pieces generalizing state with
  | nil => rfl
  | cons piece rest ih =>
    cases blank : Piece.isBlank piece with
    | true => rw [Piece.significant_cons_of_blank rest blank, ih, run_blank rest blank]
    | false => simp only [Piece.significant_cons rest blank, run, ih]

/-- Sources with the same significant pieces are read alike. -/
theorem ReadAlike.of_significant {source other : String}
    (same : Piece.significant (Piece.split source) = Piece.significant (Piece.split other)) :
    ReadAlike source other := by
  have tokens : Token.ofSource source = Token.ofSource other := by
    rw [Token.ofSource, Token.ofSource, ← Token.ofPieces_significant, same,
      Token.ofPieces_significant]
  have atStart : Lexer.Alike (Lexer.ofSource source) (Lexer.ofSource other) := ⟨rfl, rfl, same⟩
  refine ⟨tokens, atStart.iterate_advanced, Parser.parseWithin_congr tokens ?_⟩
  rw [← Scan.run_significant, same, Scan.run_significant]

/-- Blanks do not matter where a source may be cut anyway, because a delimiter stands there or
nothing does: with and without them the source has the same tokens, or the same bad piece behind
the same tokens, and it is parsed to the same tree or refused for the same problem. The same holds
of any two sources that have the same pieces but for the blanks. -/
theorem blanks_do_not_matter :
    (∀ front blanks back : String, (∀ c ∈ blanks.toList, c ∈ ['\t', '\n', '\r', ' ']) →
      Piece.EndsApart front ∨ Piece.BeginsApart back →
        ReadAlike (front ++ blanks ++ back) (front ++ back)) ∧
    ∀ source other : String,
      Piece.significant (Piece.split source) = Piece.significant (Piece.split other) →
        ReadAlike source other := by
  refine ⟨fun front blanks back among apart => ?_, fun source other => .of_significant⟩
  have allBlank : ∀ c ∈ blanks.toList, Piece.isBlankChar c = true := by
    intro c inside
    simpa [Piece.isBlankChar, or_assoc] using among c inside
  exact .of_significant (Piece.significant_split_blanks allBlank apart)

/-- Blanks do not matter in front of the sign of `2*`, which is no expression, and sums with the
same pieces are read alike. Blanks inside a run of digits do matter. -/
theorem blanks_do_not_matter_product :
    ReadAlike ("2" ++ " \t\r" ++ "*") ("2" ++ "*") ∧ ReadAlike " 1+\n2" "1 +2" ∧
      Token.ofSource "1 2" ≠ Token.ofSource "12" := by
  have written : " \t\r".toList = [' ', '\t', '\r'] := by decide
  have allBlank : ∀ c ∈ " \t\r".toList, c ∈ ['\t', '\n', '\r', ' '] := by
    rw [written]
    simp
  have begins : Piece.BeginsApart "*" := by
    intro first isFirst
    have known : "*".toList.head? = some '*' := by decide
    rw [known] at isFirst
    obtain rfl := Option.mem_some_iff.mp isFirst
    decide
  exact ⟨blanks_do_not_matter.1 _ _ _ allBlank (.inr begins),
    blanks_do_not_matter.2 _ _ (by decide), by decide +kernel⟩

end Calculator
