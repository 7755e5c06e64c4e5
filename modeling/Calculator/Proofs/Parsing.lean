import Calculator.Proofs.Descent
import Calculator.Proofs.Nesting

/-!
# Parsing a whole source

The parser accepts a source exactly if the tokens of the source are an expression of the grammar,
and then it gives the tree of that expression. If it refuses a source, it reports the problem that
a scan with one counter meets first. Both hold for every source that keeps to the guaranteed
nesting, and a source that reaches the refused nesting is refused for that. A higher limit than the
one that is set only matters to sources that are refused for their nesting.
-/

namespace Calculator

/-- The tokens of a whole source: an expression and the end of the input. -/
def DerivesSource (tokens : List Token) (tree : Tree) : Prop :=
  ∃ front, Derives .maxima front tree ∧ tokens = front ++ [.endOfInput]

namespace Parser

/-- Behind the first advance the parser of sources is exact for an expression and the end of the
input behind it. -/
theorem exact_source (limit : Nat) (lexer : Lexer) :
    Exact limit DerivesSource .operands (.beforeOperand 0) (.afterOperand 0) lexer
      ((maxima (expression limit) >>= fun tree => expect .endOfInput >>= fun _ => pure tree :
        Parser Tree) lexer) := by
  refine .bind (exact_outermost lexer)
    (fun {tokens tree} expression => ⟨[.endOfInput], tree, tokens, expression, rfl⟩)
    fun {tokens tree following} expression _ stops => ?_
  rw [Level.continuedBy_maxima] at stops
  have exactEnd : Exact limit (fun others whole => others = [.endOfInput] ∧ whole = tree) .operands
      (.afterOperand 0) (.afterOperand 0) following
      ((expect .endOfInput >>= fun _ => pure tree : Parser Tree) following) := by
    refine exact_expect stops fun token isEnd => ⟨?_, rfl⟩
    cases token with
    | endOfInput => rfl
    | _ => cases isEnd
  refine exactEnd.mono ?_
  rintro others whole ⟨rfl, rfl⟩
  exact ⟨tokens, expression, rfl⟩

/-- Everything that a run on a source does. Its first piece is no token; or behind the first advance
an expression is read and the end of the input is stepped over; or the run fails behind the first
advance where the scan fails. -/
theorem runOn_cases (limit : Nat) (text : String) :
    (∃ error last, runOn limit text = .error error last ∧
        Lexer.advance (Lexer.ofSource text) = .error error last) ∨
      ∃ first, Lexer.advance (Lexer.ofSource text) = .ok () first ∧
        ((∃ tree tokens behind last, runOn limit text = .ok tree last ∧
            Derives .maxima tokens tree ∧
            Token.ofSource text = (tokens ++ [.endOfInput], none) ∧
            Lexer.Reads first tokens behind ∧ Lexer.Reads behind [.endOfInput] last ∧
            Scan.Passes (Scan.State.stepWithin limit) (.beforeOperand 0)
              (tokens ++ [.endOfInput]) (.afterOperand 0)) ∨
          ∃ error last, runOn limit text = .error error last ∧
            Fails limit DerivesSource (.beforeOperand 0) first error last) := by
  rw [runOn_eq]
  cases advanced : Lexer.advance (Lexer.ofSource text) with
  | error error last => exact .inl ⟨error, last, bind_of_error advanced, rfl⟩
  | ok value first =>
    refine .inr ⟨first, rfl, ?_⟩
    rw [bind_of_ok advanced]
    have exact := exact_source limit first
    generalize (maxima (expression limit) >>= fun tree => expect .endOfInput >>= fun _ =>
      pure tree : Parser Tree) first = outcome at exact
    cases exact with
    | @accepted tokens tree last isSource reads passes stops =>
      obtain ⟨front, expression, rfl⟩ := isSource
      obtain ⟨behind, readsFront, readsEnd⟩ := reads.exists_of_append
      have atEnd : behind.current = .endOfInput := readsEnd.current_eq
      exact .inl ⟨tree, front, behind, last, rfl, expression,
        Token.ofPieces_of_reads advanced readsFront expression.endOfInput_not_mem atEnd,
        readsFront, readsEnd, passes⟩
    | @failed error last fails => exact .inr ⟨error, last, rfl, fails⟩

/-- Either the parser accepts a source whose tokens are an expression, and then the scan within the
same limit accepts it too, or both refuse it with one error. -/
theorem parseWithin_outcome (limit : Nat) (text : String) :
    (∃ tree tokens, parseWithin limit text = .ok tree ∧ Derives .maxima tokens tree ∧
        Token.ofSource text = (tokens ++ [.endOfInput], none) ∧
          Scan.run (Scan.State.stepWithin limit) (.beforeOperand 0) (Piece.split text) =
            .ok ()) ∨
      ∃ error, parseWithin limit text = .error error ∧
        Scan.run (Scan.State.stepWithin limit) (.beforeOperand 0) (Piece.split text) =
          .error error := by
  obtain ⟨error, last, ran, advanced⟩ | ⟨first, advanced,
      ⟨tree, tokens, behind, last, ran, expression, read, _, _, passes⟩ |
      ⟨error, last, ran, fails⟩⟩ := runOn_cases limit text <;>
    rw [parseWithin, ran]
  · exact .inr ⟨error, rfl, Scan.run_unread_of_error advanced⟩
  · refine .inl ⟨tree, tokens, rfl, expression, read, ?_⟩
    obtain ⟨state, passesFront, passesEnd⟩ := passes.exists_of_append
    have scanned := Scan.run_append [] read passesFront
    rw [List.append_nil] at scanned
    rw [scanned, Scan.run]
    cases passesEnd with
    | next stepped => rw [stepped]
  · exact .inr ⟨error, rfl, (Scan.run_unread_of_ok advanced).trans fails.runFrom_eq⟩

/-- The parser accepts only expressions, whatever the limit is. -/
theorem derives_of_parseWithin {limit : Nat} {text : String} {tree : Tree}
    (parsed : parseWithin limit text = .ok tree) :
    ∃ tokens, Token.ofSource text = (tokens ++ [.endOfInput], none) ∧
      Derives .maxima tokens tree := by
  obtain ⟨found, tokens, accepted, expression, read, _⟩ | ⟨error, refused, _⟩ :=
    parseWithin_outcome limit text
  · obtain rfl := Except.ok.inj (accepted.symm.trans parsed)
    exact ⟨tokens, read, expression⟩
  · rw [refused] at parsed
    cases parsed

/-- The parser accepts only expressions. -/
theorem derives_of_parse {text : String} {tree : Tree} (parsed : parse text = .ok tree) :
    ∃ tokens, Token.ofSource text = (tokens ++ [.endOfInput], none) ∧
      Derives .maxima tokens tree :=
  derives_of_parseWithin parsed

/-- The parser reports what the scan within the same limit reports. -/
theorem parseWithin_map_eq (limit : Nat) (text : String) :
    (parseWithin limit text).map (fun _ => ()) =
      Scan.run (Scan.State.stepWithin limit) (.beforeOperand 0) (Piece.split text) := by
  obtain ⟨tree, tokens, accepted, _, _, scanned⟩ | ⟨error, refused, scanned⟩ :=
    parseWithin_outcome limit text
  · rw [accepted, scanned]
    rfl
  · rw [refused, scanned]
    rfl

/-- The parser refuses a source exactly with the error that the scan within the same limit gives. -/
theorem parseWithin_eq_error_iff {limit : Nat} {text : String} {error : SyntaxError} :
    parseWithin limit text = .error error ↔
      Scan.run (Scan.State.stepWithin limit) (.beforeOperand 0) (Piece.split text) =
        .error error := by
  obtain ⟨tree, _, accepted, _, _, scanned⟩ | ⟨found, refused, scanned⟩ :=
    parseWithin_outcome limit text
  · rw [accepted, scanned]
    constructor <;> intro impossible <;> cases impossible
  · rw [refused, scanned, Except.error.injEq, Except.error.injEq]

/-- The tokens of a source and the scan of it within a limit decide what it is parsed to. -/
theorem parseWithin_congr {limit otherLimit : Nat} {source other : String}
    (tokens : Token.ofSource source = Token.ofSource other)
    (scans : Scan.run (Scan.State.stepWithin limit) (.beforeOperand 0) (Piece.split source) =
      Scan.run (Scan.State.stepWithin otherLimit) (.beforeOperand 0) (Piece.split other)) :
    parseWithin limit source = parseWithin otherLimit other := by
  obtain ⟨tree, read, parsed, expression, isRead, scanned⟩ | ⟨error, parsed, scanned⟩ :=
      parseWithin_outcome limit source <;>
    obtain ⟨otherTree, otherRead, otherParsed, otherExpression, otherIsRead, otherScanned⟩ |
      ⟨otherError, otherParsed, otherScanned⟩ := parseWithin_outcome otherLimit other <;>
    rw [scanned, otherScanned] at scans
  · rw [isRead, otherIsRead, Prod.mk.injEq] at tokens
    obtain rfl := List.append_cancel_right tokens.1
    rw [parsed, otherParsed, expression.tree_unique otherExpression]
  · cases scans
  · cases scans
  · rw [parsed, otherParsed, Except.error.inj scans]

/-- The parser refuses a source for its nesting, or a higher limit changes nothing. -/
theorem parseWithin_of_le {fewer more : Nat} (le : fewer ≤ more) (text : String) :
    parseWithin fewer text = .error (.parse .nestedTooDeeply) ∨
      parseWithin fewer text = parseWithin more text :=
  (Scan.run_stepWithin_of_le le (.beforeOperand 0) (Piece.split text)).imp
    parseWithin_eq_error_iff.mpr (parseWithin_congr rfl)

/-- On a source that keeps to two limits the parser gives the same within both. -/
theorem parseWithin_eq_of_within {limit other : Nat} {text : String}
    (within : ∀ visited ∈ Scan.trailOfSource text, visited.opened ≤ limit)
    (withinOther : ∀ visited ∈ Scan.trailOfSource text, visited.opened ≤ other) :
    parseWithin limit text = parseWithin other text :=
  parseWithin_congr rfl
    ((Scan.run_stepWithin within).trans (Scan.run_stepWithin withinOther).symm)

/-- On a source that keeps to the limit the parser reports what the scan reports. -/
theorem parseWithin_map_eq_ofSource {limit : Nat} {text : String}
    (within : ∀ visited ∈ Scan.trailOfSource text, visited.opened ≤ limit) :
    (parseWithin limit text).map (fun _ => ()) = Scan.ofSource text := by
  rw [parseWithin_map_eq, Scan.run_stepWithin within]
  rfl

/-- On a source that keeps to the guaranteed nesting the parser reports what the scan reports. -/
theorem parse_map_eq_ofSource {text : String}
    (within : ∀ visited ∈ Scan.trailOfSource text, visited.opened ≤ guaranteedNesting) :
    (parse text).map (fun _ => ()) = Scan.ofSource text :=
  parseWithin_map_eq_ofSource (opened_le_nestingLimit within false)

/-- On a source that keeps to the guaranteed nesting it does not matter whether a log is kept. -/
theorem parseWithin_nestingLimit {text : String}
    (within : ∀ visited ∈ Scan.trailOfSource text, visited.opened ≤ guaranteedNesting)
    (logged : Bool) : parseWithin (nestingLimit logged) text = parse text :=
  parseWithin_eq_of_within (opened_le_nestingLimit within logged)
    (opened_le_nestingLimit within false)

/-- The parser accepts every expression that keeps to the limit. -/
theorem parseWithin_of_derives {limit : Nat} {text : String} {tokens : List Token} {tree : Tree}
    (nests : Text.NestsWithin limit text)
    (read : Token.ofSource text = (tokens ++ [.endOfInput], none))
    (expression : Derives .maxima tokens tree) : parseWithin limit text = .ok tree := by
  have scanned : Scan.ofSource text = .ok () := by
    have passes := Scan.passes_of_derives expression 0
    have done := Scan.run_append [] read passes
    rw [List.append_nil] at done
    exact done
  have reported := parseWithin_map_eq_ofSource (Scan.opened_le_of_nestsWithin nests)
  rw [scanned] at reported
  cases parsed : parseWithin limit text with
  | error error =>
    rw [parsed] at reported
    cases reported
  | ok found =>
    obtain ⟨others, otherRead, otherExpression⟩ := derives_of_parseWithin parsed
    rw [read, Prod.mk.injEq] at otherRead
    obtain rfl := List.append_cancel_right otherRead.1
    rw [expression.tree_unique otherExpression]

/-- The parser accepts every expression that keeps to the guaranteed nesting. -/
theorem parse_of_derives {text : String} {tokens : List Token} {tree : Tree}
    (nests : Text.NestsWithin guaranteedNesting text)
    (read : Token.ofSource text = (tokens ++ [.endOfInput], none))
    (expression : Derives .maxima tokens tree) : parse text = .ok tree :=
  parseWithin_of_derives (nests.mono (guaranteedNesting_le false)) read expression

/-- An expression without parentheses of its own may stand inside just as many parentheses as the
limit says. -/
theorem parseWithin_iterate_enclosed {text : String} {tree : Tree}
    (expression : Phrase .maxima text tree) (flat : Text.NestsWithin 0 text) (limit depth : Nat) :
    parseWithin limit (Text.enclosed^[depth] text) =
      if depth ≤ limit then .ok tree else .error (.parse .nestedTooDeeply) := by
  split
  · next fits =>
    obtain ⟨tokens, read, derived⟩ := expression.iterate_enclosed depth
    exact parseWithin_of_derives ((flat.iterate_enclosed depth).mono (by omega)) read derived
  · next deep =>
    have beyond : limit < 0 + depth := by omega
    have scanned := Scan.run_stepWithin_iterate_enclosed expression beyond []
    rw [List.append_nil] at scanned
    exact parseWithin_eq_error_iff.mpr scanned

end Parser

/-- The parser accepts a source that keeps to the guaranteed nesting, with a given tree, exactly if
all pieces of the source but its blanks are tokens and the grammar derives the tree from them. No
tokens have two trees. -/
theorem parse_exact :
    (∀ text, Text.NestsWithin Parser.guaranteedNesting text → ∀ tree,
      parse text = .ok tree ↔
        ∃ tokens, Token.ofSource text = (tokens ++ [.endOfInput], none) ∧
          Derives .maxima tokens tree) ∧
      ∀ tokens tree otherTree, Derives .maxima tokens tree → Derives .maxima tokens otherTree →
        tree = otherTree := by
  constructor
  · intro text nests tree
    constructor
    · exact Parser.derives_of_parse
    · rintro ⟨tokens, read, expression⟩
      exact Parser.parse_of_derives nests read expression
  · intro tokens tree otherTree expression otherExpression
    exact expression.tree_unique otherExpression

/-- The parser accepts `(1)#1` with the tree that the grammar derives from its tokens, and with no
other one. -/
theorem parse_exact_enclosed :
    parse "(1)#1" = .ok (.branch Symbol.maximum.text (.leaf Double.one.text)
        (.leaf Double.one.text)) ∧
      ∀ tree, Derives .maxima
          [.symbol .openParen, .number .one, .symbol .closeParen, .symbol .maximum, .number .one]
          tree →
        tree = .branch Symbol.maximum.text (.leaf Double.one.text) (.leaf Double.one.text) := by
  have single : Derives .sums [.number .one] (.leaf Double.one.text) :=
    .alone (by decide) (.alone (by decide) (.alone (by decide) (.number .one)))
  have enclosed : Derives .sums [.symbol .openParen, .number .one, .symbol .closeParen]
      (.leaf Double.one.text) :=
    .alone (by decide) (.alone (by decide) (.alone (by decide)
      (.enclosed (.alone (by decide) single))))
  have first : Derives .maxima [.symbol .openParen, .number .one, .symbol .closeParen]
      (.leaf Double.one.text) := .alone (by decide) enclosed
  have expression : Derives .maxima
      [.symbol .openParen, .number .one, .symbol .closeParen, .symbol .maximum, .number .one]
      (.branch Symbol.maximum.text (.leaf Double.one.text) (.leaf Double.one.text)) :=
    .left rfl (by decide) first single
  have nests : Text.NestsWithin Parser.guaranteedNesting "(1)#1" := by decide
  constructor
  · exact (parse_exact.1 _ nests _).mpr ⟨_, by decide +kernel, expression⟩
  · intro tree otherExpression
    exact parse_exact.2 _ _ _ otherExpression expression

/-! ## The first problem of a source -/

/-- A source whose scan reaches the refused nesting is refused for that. -/
theorem Parser.parse_of_refusedNesting {text : String}
    (deep : ∃ visited ∈ Scan.trailOfSource text, refusedNesting ≤ visited.opened) :
    parse text = .error (.parse .nestedTooDeeply) := by
  have beyond : ∃ visited ∈ Scan.trailOfSource text, nestingLimit false + 1 < visited.opened := by
    obtain ⟨visited, among, reached⟩ := deep
    exact ⟨visited, among, Nat.lt_of_lt_of_le (nestingLimit_lt_refusedNesting false) reached⟩
  have atStart : (Scan.State.beforeOperand 0).opened ≤ nestingLimit false + 1 := Nat.zero_le _
  exact parseWithin_eq_error_iff.mpr (Scan.run_stepWithin_tooDeep atStart beyond)

/-- On a source that keeps to the guaranteed nesting the parser reports exactly what the scan with
one counter reports: success or the first problem. A source on which the scan reaches the refused
nesting is refused for that whatever follows, and one without opening parentheses never is. The
problems have these wordings. -/
theorem parse_reports_firstProblem :
    (∀ text, (∀ visited ∈ Scan.trailOfSource text, visited.opened ≤ Parser.guaranteedNesting) →
      (parse text).map (fun _ => ()) = Scan.ofSource text) ∧
    (∀ text, (∃ visited ∈ Scan.trailOfSource text, Parser.refusedNesting ≤ visited.opened) →
      parse text = .error (.parse .nestedTooDeeply)) ∧
    (∀ text, Symbol.openParen.char ∉ text.toList →
      parse text ≠ .error (.parse .nestedTooDeeply)) ∧
    (ParseError.expectedOperand.message = "Parse Error: Expected a number or a parenthesis." ∧
      (ParseError.expected (Scan.State.closing 0)).message =
        "Unexpected text after the expression." ∧
      (∀ opened, (ParseError.expected (Scan.State.closing (opened + 1))).message =
        "Parse error: Expected a ).") ∧
      ParseError.nestedTooDeeply.message = "Parse error: Expression nested too deeply.") := by
  have unclosed : (ParseError.expected (.symbol .closeParen)).message =
      "Parse error: Expected a )." := by decide
  refine ⟨fun text => Parser.parse_map_eq_ofSource, fun text => Parser.parse_of_refusedNesting,
    ?_, rfl, rfl, fun opened => unclosed, rfl⟩
  intro text noParenthesis refused
  have nests := Text.nestsWithin_of_not_mem noParenthesis Parser.guaranteedNesting
  have reported := Parser.parse_map_eq_ofSource (Scan.opened_le_of_nestsWithin nests)
  rw [refused] at reported
  exact Scan.run_ne_nestedTooDeeply _ _ reported.symm

/-- A missing parenthesis is the first problem of `(1`, four hundred open parentheses are the first
one of a text of nothing else, and a lone operator is refused, but not for its nesting. -/
theorem parse_reports_firstProblem_unclosed :
    (parse "(1").map (fun _ => ()) = .error (.parse (.expected (.symbol .closeParen))) ∧
      parse (String.ofList (List.replicate 400 '(')) = .error (.parse .nestedTooDeeply) ∧
      parse "+" ≠ .error (.parse .nestedTooDeeply) := by
  obtain ⟨reported, refused, neverDeep, _⟩ := parse_reports_firstProblem
  refine ⟨?_, ?_, ?_⟩
  · rw [reported "(1" (by decide +kernel)]
    decide +kernel
  · have opens := Scan.mem_trail_replicate 0 400
    rw [← Piece.split_replicate] at opens
    exact refused _ ⟨_, opens, Nat.le_refl 400⟩
  · exact neverDeep _ (by decide)

end Calculator
