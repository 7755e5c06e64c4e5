import Calculator.Proofs.Blanks
import Calculator.Proofs.Verbosity

/-!
# Traces of the parser

The log of a parse names what the parser examined: the tokens up to the end of the input, which it
meets twice, or the tokens up to the first problem. The scan with one counter tells where that is.
So behind the first problem of a source anything may follow: neither the log nor the error depends
on it.
-/

namespace Calculator

/-- The pieces that are no blanks, and the end of the input behind them. -/
def Piece.items (pieces : List String) : List (Option String) :=
  (significant pieces).map some ++ [none]

/-- The pieces that a scan examines, the blanks left out. The last one is the first problem, be it
no token or a token that cannot stand where it does. If there is none among the pieces, the end of
the input is the last. -/
def Scan.through : State → List String → List (Option String)
  | _, [] => [none]
  | state, piece :: rest =>
    if Piece.isBlank piece then through state rest
    else
      match Token.ofPiece piece with
      | .error _ => [some piece]
      | .ok token =>
        match state.step token with
        | .error _ => [some piece]
        | .ok next => some piece :: through next rest

/-- The pieces of a source that a scan examines. -/
def Scan.throughOfSource (source : String) : List (Option String) :=
  through (.beforeOperand 0) (Piece.split source)

/-- What an advance meets at a piece, or at the end of the input. -/
def Lexer.meets : Option String → Except LexError Token
  | some piece => Token.ofPiece piece
  | none => .ok .endOfInput

/-! ## What a scan examines -/

namespace Scan

section Equations

variable {state next : State} {piece : String} {token : Token} {lexError : LexError}
  {parseError : ParseError} (rest : List String)

/-- A blank is not examined. -/
theorem through_blank (blank : Piece.isBlank piece = true) :
    through state (piece :: rest) = through state rest := by
  rw [through, if_pos blank]

/-- Nothing behind a piece that is no token is examined. -/
theorem through_unreadable (noBlank : Piece.isBlank piece = false)
    (classified : Token.ofPiece piece = .error lexError) :
    through state (piece :: rest) = [some piece] := by
  simp [through, noBlank, classified]

/-- Nothing behind a token that cannot stand where it does is examined. -/
theorem through_refused (noBlank : Piece.isBlank piece = false)
    (classified : Token.ofPiece piece = .ok token)
    (refused : state.step token = .error parseError) :
    through state (piece :: rest) = [some piece] := by
  simp [through, noBlank, classified, refused]

/-- Behind every other token the scan goes on. -/
theorem through_passed (noBlank : Piece.isBlank piece = false)
    (classified : Token.ofPiece piece = .ok token) (stepped : state.step token = .ok next) :
    through state (piece :: rest) = some piece :: through next rest := by
  simp [through, noBlank, classified, stepped]

end Equations

/-- Blanks are not examined. -/
theorem through_blanks {blanks : List String}
    (allBlank : ∀ piece ∈ blanks, Piece.isBlank piece = true) (state : State)
    (rest : List String) : through state (blanks ++ rest) = through state rest := by
  induction blanks with
  | nil => rfl
  | cons piece others ih =>
    rw [List.forall_mem_cons] at allBlank
    rw [List.cons_append, through_blank _ allBlank.1, ih allBlank.2]

/-- The first problem is the last that is examined: a token that cannot stand behind the ones before
it, or a piece that is none. -/
theorem through_of_run_error {state : State} {pieces : List String} {error : SyntaxError}
    (failed : run State.step state pieces = .error error) :
    (∃ parseError tokens offending rest last, error = .parse parseError ∧ .endOfInput ∉ tokens ∧
      (Token.ofPieces pieces).1 = tokens ++ offending :: rest ∧
      Passes State.step state tokens last ∧ last.step offending = .error parseError ∧
      (through state pieces).map Lexer.meets = (tokens ++ [offending]).map .ok) ∨
    ∃ lexError tokens, error = .lex lexError ∧ .endOfInput ∉ tokens ∧
      Token.ofPieces pieces = (tokens, some lexError) ∧
      (through state pieces).map Lexer.meets = tokens.map .ok ++ [.error lexError] := by
  induction state, pieces using scan_induction with
  | atEnd state =>
    rw [run] at failed
    cases stepped : state.step .endOfInput with
    | ok next =>
      rw [stepped] at failed
      cases failed
    | error parseError =>
      rw [stepped] at failed
      cases failed
      exact .inl ⟨parseError, [], .endOfInput, [], state, rfl, by simp, rfl, .done state, stepped,
        rfl⟩
  | blank state piece rest isBlank ih =>
    rw [run_blank rest isBlank] at failed
    rw [through_blank rest isBlank, Token.ofPieces, if_pos isBlank]
    exact ih failed
  | unreadable state piece rest lexError noBlank classified =>
    rw [run_unreadable rest noBlank classified] at failed
    cases failed
    refine .inr ⟨lexError, [], rfl, by simp, ?_, ?_⟩
    · simp [Token.ofPieces, noBlank, classified]
    · simp [through_unreadable rest noBlank classified, Lexer.meets, classified]
  | refused state piece rest token parseError noBlank classified refused =>
    rw [run_refused rest noBlank classified refused] at failed
    cases failed
    refine .inl ⟨parseError, [], token, (Token.ofPieces rest).1, state, rfl, by simp, ?_,
      .done state, refused, ?_⟩
    · simp [Token.ofPieces, noBlank, classified]
    · simp [through_refused rest noBlank classified refused, Lexer.meets, classified]
  | passed state piece rest token next noBlank classified stepped ih =>
    rw [run_passed rest noBlank classified stepped] at failed
    have read : Token.ofPieces (piece :: rest) =
        (token :: (Token.ofPieces rest).1, (Token.ofPieces rest).2) := by
      simp [Token.ofPieces, noBlank, classified]
    have examined : (through state (piece :: rest)).map Lexer.meets =
        .ok token :: (through next rest).map Lexer.meets := by
      rw [through_passed rest noBlank classified stepped, List.map_cons, Lexer.meets, classified]
    have notAtEnd : .endOfInput ≠ token := by
      rintro rfl
      exact Token.ofPiece_ne_endOfInput piece classified
    have stillNoEnd : ∀ {tokens : List Token}, .endOfInput ∉ tokens →
        .endOfInput ∉ token :: tokens := fun noEnd => by
      rw [List.mem_cons, not_or]
      exact ⟨notAtEnd, noEnd⟩
    rw [read, examined]
    obtain ⟨parseError, tokens, offending, others, last, rfl, noEnd, apart, passes, refused, same⟩ |
      ⟨lexError, tokens, rfl, noEnd, apart, same⟩ := ih failed
    · exact .inl ⟨parseError, token :: tokens, offending, others, last, rfl, stillNoEnd noEnd,
        by rw [apart]; rfl, .next stepped passes, refused, by rw [same]; rfl⟩
    · exact .inr ⟨lexError, token :: tokens, rfl, stillNoEnd noEnd, by rw [apart],
        by rw [same]; rfl⟩

/-- Blanks leave no trail. -/
theorem trail_blanks {blanks : List String}
    (allBlank : ∀ piece ∈ blanks, Piece.isBlank piece = true) (state : State)
    (rest : List String) : trail state (blanks ++ rest) = trail state rest := by
  induction blanks with
  | nil => rfl
  | cons piece others ih =>
    rw [List.forall_mem_cons] at allBlank
    rw [List.cons_append, trail_blank _ allBlank.1, ih allBlank.2]

end Scan

/-- A blank is left out of the items. -/
theorem Piece.items_cons_of_blank {piece : String} (rest : List String)
    (blank : isBlank piece = true) : items (piece :: rest) = items rest := by
  rw [items, significant_cons_of_blank rest blank, items]

/-- Every other piece is an item. -/
theorem Piece.items_cons {piece : String} (rest : List String) (noBlank : isBlank piece = false) :
    items (piece :: rest) = some piece :: items rest := by
  rw [items, significant_cons rest noBlank]
  rfl

/-- Pieces are blanks, or there is a first one that is none. -/
theorem Piece.items_cases (pieces : List String) :
    ((∀ piece ∈ pieces, isBlank piece = true) ∧ items pieces = [none]) ∨
      ∃ blanks piece rest, (∀ blank ∈ blanks, isBlank blank = true) ∧
        pieces = blanks ++ piece :: rest ∧ isBlank piece = false ∧
          items pieces = some piece :: items rest := by
  induction pieces with
  | nil => exact .inl ⟨by simp, rfl⟩
  | cons first others ih =>
    cases blank : isBlank first with
    | false => exact .inr ⟨[], first, others, by simp, rfl, blank, items_cons others blank⟩
    | true =>
      rw [items_cons_of_blank others blank]
      obtain ⟨allBlank, nothing⟩ | ⟨blanks, piece, rest, allBlank, rfl, noBlank, same⟩ := ih
      · exact .inl ⟨List.forall_mem_cons.mpr ⟨blank, allBlank⟩, nothing⟩
      · exact .inr ⟨first :: blanks, piece, rest, List.forall_mem_cons.mpr ⟨blank, allBlank⟩, rfl,
          noBlank, same⟩

/-- A scan examines the first of the pieces that are no blanks. -/
theorem Scan.through_prefix_items (state : State) (pieces : List String) :
    through state pieces <+: Piece.items pieces := by
  induction state, pieces using scan_induction with
  | atEnd state => exact List.prefix_rfl
  | blank state piece rest isBlank ih =>
    rw [through_blank rest isBlank, Piece.items_cons_of_blank rest isBlank]
    exact ih
  | unreadable state piece rest lexError noBlank classified =>
    rw [through_unreadable rest noBlank classified, Piece.items_cons rest noBlank,
      List.cons_prefix_cons]
    exact ⟨rfl, List.nil_prefix⟩
  | refused state piece rest token parseError noBlank classified refused =>
    rw [through_refused rest noBlank classified refused, Piece.items_cons rest noBlank,
      List.cons_prefix_cons]
    exact ⟨rfl, List.nil_prefix⟩
  | passed state piece rest token next noBlank classified stepped ih =>
    rw [through_passed rest noBlank classified stepped, Piece.items_cons rest noBlank,
      List.cons_prefix_cons]
    exact ⟨rfl, ih⟩

/-- An item that pieces begin with is the first of them that is no blank, or there is none. -/
theorem Piece.cases_of_prefix {pieces : List String} {item : Option String}
    {examined : List (Option String)} (begins : item :: examined <+: items pieces) :
    (item = none ∧ ∀ piece ∈ pieces, isBlank piece = true) ∨
      ∃ blanks piece rest, item = some piece ∧ (∀ blank ∈ blanks, isBlank blank = true) ∧
        pieces = blanks ++ piece :: rest ∧ examined <+: items rest := by
  obtain ⟨allBlank, nothing⟩ | ⟨blanks, piece, rest, allBlank, apart, _, same⟩ := items_cases pieces
  · rw [nothing, List.cons_prefix_cons] at begins
    exact .inl ⟨begins.1, allBlank⟩
  · rw [same, List.cons_prefix_cons] at begins
    exact .inr ⟨blanks, piece, rest, begins.1, allBlank, apart, begins.2⟩

namespace Scan

/-- Pieces that begin with all that a failing scan examines make the scan fail in the same way. -/
theorem run_of_through_prefix {state : State} {pieces others : List String} {error : SyntaxError}
    (failed : run State.step state pieces = .error error)
    (begins : through state pieces <+: Piece.items others) :
    run State.step state others = .error error ∧ trail state others = trail state pieces ∧
      through state others = through state pieces := by
  induction state, pieces using scan_induction generalizing others with
  | atEnd state =>
    obtain ⟨_, allBlank⟩ | ⟨_, _, _, wrong, _⟩ := Piece.cases_of_prefix begins
    · have skipped := fun step => @run_blanks step _ allBlank state []
      have noTrail := trail_blanks allBlank state []
      have nothing := through_blanks allBlank state []
      simp only [List.append_nil] at skipped noTrail nothing
      rw [skipped, noTrail, nothing]
      exact ⟨failed, rfl, rfl⟩
    · cases wrong
  | blank state piece rest isBlank ih =>
    rw [run_blank rest isBlank] at failed
    rw [through_blank rest isBlank] at begins ⊢
    rw [trail_blank rest isBlank]
    exact ih failed begins
  | unreadable state piece rest lexError noBlank classified =>
    rw [through_unreadable rest noBlank classified] at begins
    obtain ⟨wrong, _⟩ | ⟨blanks, _, others, isPiece, allBlank, rfl, _⟩ :=
      Piece.cases_of_prefix begins
    · cases wrong
    · obtain rfl := Option.some.inj isPiece
      rw [run_blanks allBlank, trail_blanks allBlank, through_blanks allBlank,
        trail_unreadable others noBlank classified, trail_unreadable rest noBlank classified,
        through_unreadable others noBlank classified, through_unreadable rest noBlank classified]
      rw [run_unreadable rest noBlank classified] at failed
      rw [run_unreadable others noBlank classified]
      exact ⟨failed, rfl, rfl⟩
  | refused state piece rest token parseError noBlank classified refused =>
    rw [through_refused rest noBlank classified refused] at begins
    obtain ⟨wrong, _⟩ | ⟨blanks, _, others, isPiece, allBlank, rfl, _⟩ :=
      Piece.cases_of_prefix begins
    · cases wrong
    · obtain rfl := Option.some.inj isPiece
      rw [run_blanks allBlank, trail_blanks allBlank, through_blanks allBlank,
        trail_refused others noBlank classified refused,
        trail_refused rest noBlank classified refused,
        through_refused others noBlank classified refused,
        through_refused rest noBlank classified refused]
      rw [run_refused rest noBlank classified refused] at failed
      rw [run_refused others noBlank classified refused]
      exact ⟨failed, rfl, rfl⟩
  | passed state piece rest token next noBlank classified stepped ih =>
    rw [through_passed rest noBlank classified stepped] at begins
    obtain ⟨wrong, _⟩ | ⟨blanks, _, others, isPiece, allBlank, rfl, further⟩ :=
      Piece.cases_of_prefix begins
    · cases wrong
    · obtain rfl := Option.some.inj isPiece
      rw [run_passed rest noBlank classified stepped] at failed
      obtain ⟨failedThen, sameTrail, sameThrough⟩ := ih failed further
      rw [run_blanks allBlank, trail_blanks allBlank, through_blanks allBlank,
        run_passed others noBlank classified stepped,
        trail_passed others noBlank classified stepped,
        trail_passed rest noBlank classified stepped,
        through_passed others noBlank classified stepped,
        through_passed rest noBlank classified stepped, sameTrail, sameThrough]
      exact ⟨failedThen, rfl, rfl⟩

end Scan

/-! ## What a lexer meets -/

namespace Lexer

/-- An advance that succeeds meets the token that it makes the current one. -/
theorem journal_of_advance_ok {lexer next : Lexer} (advanced : advance lexer = .ok () next) :
    next.journal = .ok next.current :: lexer.journal := by
  obtain ⟨_, _, ⟨_, outcome⟩ | ⟨_, _, _, _, ⟨_, _, outcome⟩ | ⟨_, _, outcome⟩⟩⟩ :=
    lexer.advance_cases
  all_goals
    rw [outcome] at advanced
    cases advanced
  · rfl
  · rfl

/-- An advance that fails meets the piece that is no token. -/
theorem journal_of_advance_error {lexer last : Lexer} {lexError : LexError}
    (advanced : advance lexer = .error (.lex lexError) last) :
    last.journal = .error lexError :: lexer.journal := by
  obtain ⟨_, _, ⟨_, outcome⟩ | ⟨_, _, _, _, ⟨_, _, outcome⟩ | ⟨_, _, outcome⟩⟩⟩ :=
    lexer.advance_cases
  all_goals
    rw [outcome] at advanced
    cases advanced
  rfl

/-- A lexer that has been advanced is at the end only if nothing is unread. -/
theorem EndsInput.of_advance {lexer next : Lexer} (ends : lexer.EndsInput)
    (advanced : advance lexer = .ok () next) : next.EndsInput := by
  have isNext : lexer.advanced = next := by rw [Lexer.advanced, Parser.after, advanced]
  exact isNext ▸ ends.advanced

/-- The end of the input follows the end of the input. -/
theorem EndsInput.advance_eq {lexer : Lexer} (ends : lexer.EndsInput)
    (atEnd : lexer.current = .endOfInput) :
    advance lexer = .ok () ⟨.endOfInput, [], .ok .endOfInput :: lexer.journal⟩ :=
  AtEnd.advance_eq ⟨atEnd, ends atEnd⟩

namespace Reads

variable {lexer last : Lexer} {tokens : List Token}

/-- A reading meets the tokens that it reads, and the one that is current behind them. -/
theorem journal_eq (reads : Reads lexer tokens last) {front : List (Except LexError Token)}
    (met : lexer.journal.reverse = front ++ [.ok lexer.current]) :
    last.journal.reverse = front ++ (tokens ++ [last.current]).map .ok := by
  induction reads generalizing front with
  | done => exact met
  | @next first middle last rest advanced further ih =>
    have metThen : middle.journal.reverse =
        (front ++ [.ok first.current]) ++ [.ok middle.current] := by
      rw [journal_of_advance_ok advanced, List.reverse_cons, met]
    rw [ih metThen]
    simp

/-- To read one token is to advance once. -/
theorem advance_eq {token : Token} (reads : Reads lexer [token] last) :
    advance lexer = .ok () last := by
  cases reads with
  | next advanced further =>
    cases further
    exact advanced

/-- What is behind a reading is at the end only if nothing is unread. -/
theorem endsInput (reads : Reads lexer tokens last) (ends : lexer.EndsInput) :
    last.EndsInput := by
  induction reads with
  | done => exact ends
  | next advanced _ ih => exact ih (ends.of_advance advanced)

end Reads

end Lexer

namespace Scan

/-- What the advances meet from a lexer on, if the parser goes as far as the scan from a state. -/
def meetsFrom (state : State) (lexer : Lexer) : List (Except LexError Token) :=
  .ok lexer.current ::
    match state.step lexer.current with
    | .error _ => []
    | .ok next =>
      if lexer.current = .endOfInput then [] else (through next lexer.unread).map Lexer.meets

/-- An advance meets the first of the pieces that a scan examines. -/
theorem meets_of_advance_ok {lexer next : Lexer} (advanced : Lexer.advance lexer = .ok () next)
    (state : State) : (through state lexer.unread).map Lexer.meets = meetsFrom state next := by
  obtain ⟨blanks, allBlank, ⟨apart, atEnd, _⟩ | ⟨piece, apart, noBlank, classified⟩⟩ :=
    Lexer.advance_ok_cases advanced
  · have skipped := through_blanks allBlank state []
    rw [List.append_nil] at skipped
    rw [apart, skipped, meetsFrom, atEnd]
    cases state.step .endOfInput with
    | error error => rfl
    | ok next => rfl
  · have notAtEnd : next.current ≠ .endOfInput := by
      intro atEnd
      rw [atEnd] at classified
      exact Token.ofPiece_ne_endOfInput piece classified
    rw [apart, through_blanks allBlank, meetsFrom]
    cases stepped : state.step next.current with
    | error error =>
      rw [through_refused _ noBlank classified stepped, List.map_singleton, Lexer.meets, classified]
    | ok following =>
      simp only [through_passed _ noBlank classified stepped, if_neg notAtEnd, List.map_cons,
        Lexer.meets, classified]

/-- An advance that fails meets the last of the pieces that a scan examines. -/
theorem meets_of_advance_error {lexer last : Lexer} {lexError : LexError}
    (advanced : Lexer.advance lexer = .error (.lex lexError) last) (state : State) :
    (through state lexer.unread).map Lexer.meets = [.error lexError] := by
  obtain ⟨blanks, piece, found, allBlank, apart, noBlank, classified, same⟩ :=
    Lexer.advance_error_cases advanced
  cases same
  rw [apart, through_blanks allBlank, through_unreadable _ noBlank classified, List.map_singleton,
    Lexer.meets, classified]

/-- Tokens that a lexer reads and that the scan steps over are met one after the other. -/
theorem meetsFrom_of_reads {state next : State} {lexer last : Lexer} {tokens : List Token}
    (reads : Lexer.Reads lexer tokens last) (passes : Passes State.step state tokens next)
    (noEnd : .endOfInput ∉ tokens) :
    meetsFrom state lexer = tokens.map .ok ++ meetsFrom next last := by
  induction reads generalizing state with
  | done =>
    cases passes
    rfl
  | next advanced _ ih =>
    rw [List.mem_cons, not_or] at noEnd
    cases passes with
    | next stepped further =>
      rw [meetsFrom, stepped]
      simp only [if_neg (Ne.symm noEnd.1), meets_of_advance_ok advanced, ih further noEnd.2]
      rfl

end Scan

/-! ## What a parse meets -/

/-- A token that is refused within a limit, but not for the nesting, is refused anyway. -/
theorem Scan.State.step_error_of_stepWithin {limit : Nat} {state : State} {token : Token}
    {error : ParseError} (refused : state.stepWithin limit token = .error error)
    (notDeep : error ≠ .nestedTooDeeply) : state.step token = .error error := by
  cases state with
  | beforeOperand opened =>
    rw [stepWithin] at refused
    split at refused
    · cases refused
      exact absurd rfl notDeep
    · exact refused
  | afterOperand opened => exact refused

/-- The end of the input is not among the tokens in front of another one of a source. -/
theorem Derives.endOfInput_not_mem_front {front tokens rest : List Token} {tree : Tree}
    {token : Token} (expression : Derives .maxima front tree)
    (apart : tokens ++ token :: rest = front ++ [.endOfInput]) : .endOfInput ∉ tokens := by
  have begins : tokens <+: front ++ [.endOfInput] := apart ▸ List.prefix_append ..
  obtain whole | inFront := List.prefix_concat_iff.mp begins
  · rw [← whole] at apart
    simp at apart
  · exact fun among => expression.endOfInput_not_mem (inFront.subset among)

/-- What a parser meets that fails is what the scan examines, unless it is for the nesting. -/
theorem Fails.meets {limit : Nat} {phrase : List Token → Tree → Prop} {start : Scan.State}
    {lexer last : Lexer} {error : SyntaxError} (fails : Fails limit phrase start lexer error last)
    (notDeep : error ≠ .parse .nestedTooDeeply) (ends : lexer.EndsInput)
    (noEnd : ∀ {tokens token rest tree}, phrase (tokens ++ token :: rest) tree →
      .endOfInput ∉ tokens)
    {front : List (Except LexError Token)}
    (met : lexer.journal.reverse = front ++ [.ok lexer.current]) :
    last.journal.reverse = front ++ Scan.meetsFrom start lexer := by
  cases fails with
  | @refused tokens rest asked tree state error last reads passes refusal asks goesOn =>
    have refusedAnyway : state.step last.current = .error error :=
      Scan.State.step_error_of_stepWithin refusal fun deep => notDeep (by rw [deep])
    rw [reads.journal_eq met, Scan.meetsFrom_of_reads reads passes.of_stepWithin (noEnd goesOn),
      Scan.meetsFrom, refusedAnyway]
    simp
  | @unreadable tokens rest tree state error middle last reads passes advanced goesOn =>
    obtain ⟨behind, passesFront, passesLast⟩ := passes.of_stepWithin.exists_of_append
    obtain ⟨_, _, lexError, _, _, _, _, rfl⟩ := Lexer.advance_error_cases advanced
    have notAtEnd : middle.current ≠ .endOfInput := by
      intro atEnd
      rw [(reads.endsInput ends).advance_eq atEnd] at advanced
      cases advanced
    cases passesLast with
    | next stepped =>
      rw [Lexer.journal_of_advance_error advanced, List.reverse_cons, reads.journal_eq met,
        Scan.meetsFrom_of_reads reads passesFront (noEnd goesOn), Scan.meetsFrom, stepped]
      simp [notAtEnd, Scan.meets_of_advance_error advanced]

/-- What the advances of a parse meet: the tokens of a source that is parsed and the end of the
input once more behind them, or what the scan examines of a source that is refused. -/
theorem Parser.runOn_meets {limit : Nat} {source : String}
    (within : ∀ visited ∈ Scan.trailOfSource source, visited.opened ≤ limit) :
    (∃ tree last tokens, runOn limit source = .ok tree last ∧ .endOfInput ∉ tokens ∧
        Token.ofSource source = (tokens ++ [.endOfInput], none) ∧
        last.journal.reverse = (tokens ++ [Token.endOfInput, .endOfInput]).map .ok) ∨
      ∃ error last, runOn limit source = .error error last ∧
        last.journal.reverse = (Scan.throughOfSource source).map Lexer.meets := by
  obtain ⟨error, last, ran, advanced⟩ | ⟨first, advanced, outcome⟩ := runOn_cases limit source
  · refine .inr ⟨error, last, ran, ?_⟩
    obtain ⟨_, _, lexError, _, _, _, _, rfl⟩ := Lexer.advance_error_cases advanced
    rw [Lexer.journal_of_advance_error advanced]
    exact (Scan.meets_of_advance_error advanced _).symm
  have metFirst : first.journal.reverse = [] ++ [.ok first.current] := by
    rw [Lexer.journal_of_advance_ok advanced]
    rfl
  have ends : first.EndsInput := Lexer.endsInput_run advanced []
  obtain ⟨tree, tokens, behind, last, ran, expression, read, readsFront, readsEnd, _⟩ |
    ⟨error, last, ran, fails⟩ := outcome
  · refine .inl ⟨tree, last, tokens, ran, expression.endOfInput_not_mem, read, ?_⟩
    have atEndAgain : last.current = .endOfInput := by
      have advancedAgain := readsEnd.advance_eq
      rw [(readsFront.endsInput ends).advance_eq readsEnd.current_eq] at advancedAgain
      cases advancedAgain
      rfl
    rw [(readsFront.append readsEnd).journal_eq metFirst, atEndAgain]
    simp
  · refine .inr ⟨error, last, ran, ?_⟩
    have notDeep : error ≠ .parse .nestedTooDeeply := by
      rintro rfl
      have reported := parseWithin_map_eq_ofSource within
      rw [parseWithin, ran] at reported
      exact Scan.run_ne_nestedTooDeeply _ _ reported.symm
    have examined := Scan.meets_of_advance_ok advanced (.beforeOperand 0)
    rw [fails.meets notDeep ends ?_ metFirst, List.nil_append]
    · exact examined.symm
    · rintro tokens token rest tree ⟨front, expression, apart⟩
      exact expression.endOfInput_not_mem_front apart

/-- A source that the scan refuses is refused for the same problem. -/
theorem Parser.parseWithin_of_ofSource_error {limit : Nat} {source : String} {error : SyntaxError}
    (within : ∀ visited ∈ Scan.trailOfSource source, visited.opened ≤ limit)
    (failed : Scan.ofSource source = .error error) : parseWithin limit source = .error error :=
  parseWithin_eq_error_iff.mpr ((Scan.run_stepWithin within).trans failed)

/-! ## The log of a parse -/

namespace CommandLine

namespace Log

/-- The line for a token that is read. -/
def nextToken (token : Token) : String :=
  line "maxcalc.frontend.lexer" ("next token = " ++ token.entry.pairText)

/-- The line for the end of the input. -/
def endOfInput : String := line "maxcalc.frontend.lexer" "end of input"

/-- The log of a parse, as far as the parser gets while it is kept. -/
def ofParse (source : String) : String :=
  match Parser.runOn (Parser.nestingLimit true) source with
  | .ok _ lexer => ofLexer lexer ++ ofParsed source
  | .error _ lexer => ofLexer lexer

/-- What the log has to tell about a source, given what the source is parsed to. -/
inductive Tells (source : String) : Except SyntaxError Tree → String → Prop where
  /-- All tokens are read. The end of the input is met behind the last one and once more when it is
  stepped over. -/
  | accepted {tree : Tree} {tokens : List Token} (noEnd : .endOfInput ∉ tokens)
      (read : Token.ofSource source = (tokens ++ [.endOfInput], none)) :
      Tells source (.ok tree)
        (String.join (tokens.map nextToken) ++ endOfInput ++ endOfInput ++ ofParsed source)
  /-- A token that cannot stand where it does is the last that is read. It may be the end. -/
  | refused {error : ParseError} {tokens rest : List Token} {offending : Token}
      {state : Scan.State} (noEnd : .endOfInput ∉ tokens)
      (read : (Token.ofSource source).1 = tokens ++ offending :: rest)
      (passes : Scan.Passes Scan.State.step (.beforeOperand 0) tokens state)
      (refusal : state.step offending = .error error) :
      Tells source (.error (.parse error))
        (String.join (tokens.map nextToken) ++
          if offending = .endOfInput then endOfInput else nextToken offending)
  /-- The tokens in front of a piece that is none are read. -/
  | unreadable {error : LexError} {tokens : List Token} (noEnd : .endOfInput ∉ tokens)
      (read : Token.ofSource source = (tokens, some error)) :
      Tells source (.error (.lex error)) (String.join (tokens.map nextToken))

/-- The lines of tokens that are not the end of the input. -/
theorem join_ofAdvance {tokens : List Token} (noEnd : .endOfInput ∉ tokens)
    (others : List (Except LexError Token)) :
    String.join ((tokens.map Except.ok ++ others).map ofAdvance) =
      String.join (tokens.map nextToken) ++ String.join (others.map ofAdvance) := by
  have told : ∀ token ∈ tokens, ofAdvance (.ok token) = nextToken token := by
    intro token among
    cases token with
    | endOfInput => exact absurd among noEnd
    | number value => rfl
    | symbol s => rfl
  rw [List.map_append, String.join_append, List.map_map]
  congr 2
  exact List.map_congr_left told

/-- The log tells about every source what it has to. -/
theorem tells_ofParse {source : String}
    (within : ∀ visited ∈ Scan.trailOfSource source, visited.opened ≤ Parser.nestingLimit true) :
    Tells source (parseWithin (Parser.nestingLimit true) source) (ofParse source) := by
  obtain ⟨tree, last, tokens, ran, noEnd, read, met⟩ | ⟨error, last, ran, met⟩ :=
    Parser.runOn_meets within
  · have told : ofLexer last = String.join (tokens.map nextToken) ++ endOfInput ++ endOfInput := by
      rw [ofLexer, met, List.map_append, join_ofAdvance noEnd, String.append_assoc]
      rfl
    rw [parseWithin, ofParse, ran]
    simp only [told]
    exact .accepted noEnd read
  · have reported := Parser.parseWithin_map_eq_ofSource within
    rw [parseWithin, ran] at reported
    rw [parseWithin, ofParse, ran]
    simp only [ofLexer, met]
    obtain ⟨parseError, tokens, offending, rest, state, rfl, noEnd, read, passes, refusal, same⟩ |
      ⟨lexError, tokens, rfl, noEnd, read, same⟩ := Scan.through_of_run_error reported.symm
    · have told : String.join (((Scan.throughOfSource source).map Lexer.meets).map ofAdvance) =
          String.join (tokens.map nextToken) ++
            if offending = .endOfInput then endOfInput else nextToken offending := by
        rw [Scan.throughOfSource, same, List.map_append, join_ofAdvance noEnd]
        cases offending <;> rfl
      rw [told]
      exact .refused noEnd read passes refusal
    · have told : String.join (((Scan.throughOfSource source).map Lexer.meets).map ofAdvance) =
          String.join (tokens.map nextToken) := by
        rw [Scan.throughOfSource, same, join_ofAdvance noEnd]
        exact String.append_empty
      rw [told]
      exact .unreadable noEnd read

/-- The log of a source that is refused is that of what the scan examines. -/
theorem ofParse_of_refused {source : String} {error : SyntaxError}
    (within : ∀ visited ∈ Scan.trailOfSource source, visited.opened ≤ Parser.nestingLimit true)
    (refused : parseWithin (Parser.nestingLimit true) source = .error error) :
    ofParse source =
      String.join (((Scan.throughOfSource source).map Lexer.meets).map ofAdvance) := by
  obtain ⟨tree, last, _, ran, _⟩ | ⟨_, last, ran, met⟩ := Parser.runOn_meets within
  · rw [parseWithin, ran] at refused
    cases refused
  · rw [ofParse, ran]
    simp only [ofLexer, met]

end Log

/-- In a verbose run the log of the parse stands in front of what else is written about a source. -/
theorem reply_verbose_error (tree : Bool) (source : String) :
    (reply ⟨tree, true⟩ source).output.error =
      Log.ofParse source ++ (plainReply tree true source).output.error := by
  unfold reply plainReply replyWithin Log.ofParse
  cases Parser.runOn (Parser.nestingLimit true) source with
  | error error last => simp [String.append_assoc]
  | ok parsed last =>
    cases evaluated : parsed.evaluate with
    | error error => simp [evaluated, String.append_assoc]
    | ok value => simp [evaluated]

/-- A source that begins with all that is examined of one that is refused is refused for the same
problem, and the log tells the same about it. -/
theorem parse_of_through_prefix {source other : String} {error : SyntaxError}
    (within : ∀ visited ∈ Scan.trailOfSource source, visited.opened ≤ Parser.guaranteedNesting)
    (refused : parse source = .error error)
    (begins : Scan.throughOfSource source <+: Piece.items (Piece.split other)) :
    parse other = .error error ∧ Log.ofParse other = Log.ofParse source := by
  have reported := Parser.parse_map_eq_ofSource within
  rw [refused] at reported
  obtain ⟨failed, sameTrail, sameThrough⟩ := Scan.run_of_through_prefix reported.symm begins
  have otherWithin : ∀ visited ∈ Scan.trailOfSource other,
      visited.opened ≤ Parser.guaranteedNesting := by
    intro visited among
    rw [Scan.trailOfSource, sameTrail] at among
    exact within visited among
  have refusedWithin : ∀ logged, parseWithin (Parser.nestingLimit logged) source = .error error :=
    fun logged => (Parser.parseWithin_nestingLimit within logged).trans refused
  have otherRefused : ∀ logged, parseWithin (Parser.nestingLimit logged) other = .error error :=
    fun logged => Parser.parseWithin_of_ofSource_error
      (Parser.opened_le_nestingLimit otherWithin logged) failed
  refine ⟨otherRefused false, ?_⟩
  rw [Log.ofParse_of_refused (Parser.opened_le_nestingLimit otherWithin true) (otherRefused true),
    Log.ofParse_of_refused (Parser.opened_le_nestingLimit within true) (refusedWithin true),
    Scan.throughOfSource, sameThrough]
  rfl

/-- The log of a verbose run shows exactly what the parser examined of a source, in order, and it
stands in front of everything else that is written about the source: the tokens and twice the end
of the input, then the source; or, if the source is refused, the tokens up to the one that cannot
stand where it does, or up to the piece that is none. What else is written is what a run without the
log writes. What is examined of a refused source are the first of its pieces that are no blanks, and
every other source that begins with them is refused for the same problem and has the same log,
whatever follows. All this holds of every source whose scan keeps to the guaranteed nesting. -/
theorem log_shows_what_is_examined :
    (∀ tree source, (reply ⟨tree, true⟩ source).output.error =
      Log.ofParse source ++ (plainReply tree true source).output.error) ∧
    (∀ source,
      (∀ visited ∈ Scan.trailOfSource source, visited.opened ≤ Parser.guaranteedNesting) →
        (∀ tree, plainReply tree true source = reply ⟨tree, false⟩ source) ∧
          Log.Tells source (parse source) (Log.ofParse source)) ∧
    ∀ source error,
      (∀ visited ∈ Scan.trailOfSource source, visited.opened ≤ Parser.guaranteedNesting) →
        parse source = .error error →
          Scan.throughOfSource source <+: Piece.items (Piece.split source) ∧
            ∀ other, Scan.throughOfSource source <+: Piece.items (Piece.split other) →
              parse other = .error error ∧ Log.ofParse other = Log.ofParse source := by
  refine ⟨reply_verbose_error, fun source within => ⟨?_, ?_⟩, fun source _ within refused =>
    ⟨Scan.through_prefix_items _ (Piece.split source),
      fun _ => parse_of_through_prefix within refused⟩⟩
  · exact (Log.Spares.of_guaranteedNesting within).plainReply_eq
  · have told := Log.tells_ofParse (Parser.opened_le_nestingLimit within true)
    rw [Parser.parseWithin_nestingLimit within true] at told
    exact told

/-- A closing parenthesis behind `1` is the last that is examined of a source, and a second source
goes on behind it with pieces that are no tokens. -/
theorem log_shows_what_is_examined_unopened :
    (reply ⟨false, true⟩ "1)").output.error =
        Log.ofParse "1)" ++ (reply ⟨false, false⟩ "1)").output.error ∧
      Log.Tells "1)" (.error (.parse (.expected .endOfInput))) (Log.ofParse "1)") ∧
      parse " 1 ) $2.." = .error (.parse (.expected .endOfInput)) ∧
      Log.ofParse " 1 ) $2.." = Log.ofParse "1)" := by
  obtain ⟨front, tells, same⟩ := log_shows_what_is_examined
  have within : ∀ visited ∈ Scan.trailOfSource "1)",
      visited.opened ≤ Parser.guaranteedNesting := by decide +kernel
  have refused : parse "1)" = .error (.parse (.expected .endOfInput)) :=
    Parser.parseWithin_of_ofSource_error (Parser.opened_le_nestingLimit within false)
      (by decide +kernel)
  obtain ⟨plain, told⟩ := tells _ within
  rw [refused] at told
  have behind := front false "1)"
  rw [plain] at behind
  have other := (same _ _ within refused).2 " 1 ) $2.." (by decide +kernel)
  exact ⟨behind, told, other⟩

end CommandLine

end Calculator
