import Calculator.Lexer
import Calculator.Proofs.Phrases
import Calculator.Proofs.Scan

/-!
# Reading token by token

What one advance of a lexer can do, and what follows from it for a lexer that is advanced again and
again. Two ways to look at the unread pieces as a whole agree with that: the list of their tokens
and the scan of them. Every token that is read brings the lexer nearer to its end by exactly one.
-/

namespace Calculator

namespace Lexer

/-- An advance skips blanks. Then it comes to the end of the input, or it makes the next piece the
current token, or that piece is no token and is the error. -/
theorem advance_cases (lexer : Lexer) :
    ∃ blanks, (∀ piece ∈ blanks, Piece.isBlank piece = true) ∧
      ((lexer.unread = blanks ∧
          advance lexer = .ok () ⟨.endOfInput, [], .ok .endOfInput :: lexer.journal⟩) ∨
        ∃ piece rest, lexer.unread = blanks ++ piece :: rest ∧ Piece.isBlank piece = false ∧
          ((∃ token, Token.ofPiece piece = .ok token ∧
              advance lexer = .ok () ⟨token, rest, .ok token :: lexer.journal⟩) ∨
            ∃ error, Token.ofPiece piece = .error error ∧
              advance lexer =
                .error (.lex error) ⟨lexer.current, rest, .error error :: lexer.journal⟩)) := by
  have apart : lexer.unread.takeWhile Piece.isBlank ++ lexer.unread.dropWhile Piece.isBlank =
      lexer.unread := List.takeWhile_append_dropWhile
  refine ⟨lexer.unread.takeWhile Piece.isBlank, List.all_eq_true.mp List.all_takeWhile, ?_⟩
  unfold advance
  cases found : lexer.unread.dropWhile Piece.isBlank with
  | nil =>
    rw [found, List.append_nil] at apart
    exact .inl ⟨apart.symm, rfl⟩
  | cons piece rest =>
    rw [found] at apart
    have noBlank : Piece.isBlank piece = false := by
      have nonempty : lexer.unread.dropWhile Piece.isBlank ≠ [] := by simp [found]
      simpa [found] using List.head_dropWhile_not Piece.isBlank nonempty
    refine .inr ⟨piece, rest, apart.symm, noBlank, ?_⟩
    cases classified : Token.ofPiece piece with
    | ok token => exact .inl ⟨token, rfl, by simp only [classified]⟩
    | error error => exact .inr ⟨error, rfl, by simp only [classified]⟩

/-- An advance that succeeds has skipped blanks and come to the end, or to a piece that is now the
current token. -/
theorem advance_ok_cases {lexer next : Lexer} (advanced : advance lexer = .ok () next) :
    ∃ blanks, (∀ piece ∈ blanks, Piece.isBlank piece = true) ∧
      ((lexer.unread = blanks ∧ next.current = .endOfInput ∧ next.unread = []) ∨
        ∃ piece, lexer.unread = blanks ++ piece :: next.unread ∧ Piece.isBlank piece = false ∧
          Token.ofPiece piece = .ok next.current) := by
  obtain ⟨blanks, allBlank, ⟨atEnd, outcome⟩ | ⟨piece, rest, apart, noBlank, outcomes⟩⟩ :=
    lexer.advance_cases
  · rw [outcome] at advanced
    cases advanced
    exact ⟨blanks, allBlank, .inl ⟨atEnd, rfl, rfl⟩⟩
  · obtain ⟨token, classified, outcome⟩ | ⟨error, classified, outcome⟩ := outcomes
    · rw [outcome] at advanced
      cases advanced
      exact ⟨blanks, allBlank, .inr ⟨piece, apart, noBlank, classified⟩⟩
    · rw [outcome] at advanced
      cases advanced

/-- An advance that fails has skipped blanks and read a piece that is no token. -/
theorem advance_error_cases {lexer last : Lexer} {error : SyntaxError}
    (advanced : advance lexer = .error error last) :
    ∃ blanks piece lexError, (∀ piece ∈ blanks, Piece.isBlank piece = true) ∧
      lexer.unread = blanks ++ piece :: last.unread ∧ Piece.isBlank piece = false ∧
        Token.ofPiece piece = .error lexError ∧ error = .lex lexError := by
  obtain ⟨blanks, allBlank, ⟨atEnd, outcome⟩ | ⟨piece, rest, apart, noBlank, outcomes⟩⟩ :=
    lexer.advance_cases
  · rw [outcome] at advanced
    cases advanced
  · obtain ⟨token, classified, outcome⟩ | ⟨lexError, classified, outcome⟩ := outcomes
    · rw [outcome] at advanced
      cases advanced
    · rw [outcome] at advanced
      cases advanced
      exact ⟨blanks, piece, lexError, allBlank, apart, noBlank, classified, rfl⟩

/-- The tokens that are read when one lexer becomes another by advancing, the first of them being
the current token of the one and the last of them the one before the current token of the other. -/
inductive Reads : Lexer → List Token → Lexer → Prop where
  /-- A lexer that is not advanced reads nothing. -/
  | done (lexer : Lexer) : Reads lexer [] lexer
  /-- To advance once reads the current token, and the reading goes on behind it. -/
  | next {lexer middle last : Lexer} {rest : List Token} (advanced : advance lexer = .ok () middle)
      (further : Reads middle rest last) : Reads lexer (lexer.current :: rest) last

/-- The number of unread pieces that are no blanks. -/
def unreadCount (lexer : Lexer) : Nat := lexer.unread.countP fun piece => !Piece.isBlank piece

/-- The number of tokens up to the end of the input, were all pieces tokens. -/
def ahead (lexer : Lexer) : Nat :=
  lexer.unreadCount + if lexer.current = .endOfInput then 0 else 1

/-- Blanks that are unread do not count. -/
theorem unreadCount_of_blanks {lexer : Lexer}
    (allBlank : ∀ piece ∈ lexer.unread, Piece.isBlank piece = true) : lexer.unreadCount = 0 := by
  rw [unreadCount, List.countP_eq_zero]
  intro piece among
  simp [allBlank piece among]

/-- The first unread piece that is no blank counts once. -/
theorem unreadCount_of_piece {lexer : Lexer} {blanks rest : List String} {piece : String}
    (allBlank : ∀ blank ∈ blanks, Piece.isBlank blank = true)
    (apart : lexer.unread = blanks ++ piece :: rest) (noBlank : Piece.isBlank piece = false) :
    lexer.unreadCount = rest.countP (fun piece => !Piece.isBlank piece) + 1 := by
  have skipped : blanks.countP (fun piece => !Piece.isBlank piece) = 0 := by
    rw [List.countP_eq_zero]
    intro blank among
    simp [allBlank blank among]
  rw [unreadCount, apart, List.countP_append, skipped, Nat.zero_add,
    List.countP_cons_of_pos (by simp [noBlank])]

/-- Behind an advance that succeeds as many tokens are ahead as pieces were unread before it, be it
that the current token was the end of the input. -/
theorem ahead_of_advance {lexer next : Lexer} (advanced : advance lexer = .ok () next) :
    next.ahead = lexer.unreadCount := by
  obtain ⟨blanks, allBlank, ⟨apart, atEnd, nothing⟩ | ⟨piece, apart, noBlank, classified⟩⟩ :=
    advance_ok_cases advanced
  · have finished : next.unreadCount = 0 := by
      rw [unreadCount, nothing, List.countP_nil]
    rw [ahead, if_pos atEnd, finished, unreadCount_of_blanks (apart ▸ allBlank)]
  · have further : next.current ≠ .endOfInput := by
      intro atEnd
      rw [atEnd] at classified
      exact Token.ofPiece_ne_endOfInput piece classified
    rw [ahead, if_neg further, unreadCount_of_piece allBlank apart noBlank]
    rfl

/-- To read a token that is not the end of the input brings the lexer one token nearer to it. -/
theorem ahead_advance {lexer next : Lexer} (notAtEnd : lexer.current ≠ .endOfInput)
    (advanced : advance lexer = .ok () next) : lexer.ahead = next.ahead + 1 := by
  rw [ahead_of_advance advanced, ahead, if_neg notAtEnd]

/-- There are at most as many tokens as unread pieces, and the current one. -/
theorem ahead_le (lexer : Lexer) : lexer.ahead ≤ lexer.unread.length + 1 := by
  have counted : lexer.unreadCount ≤ lexer.unread.length := List.countP_le_length
  unfold ahead
  split <;> omega

/-- Where no token is ahead, there is the end of the input. -/
theorem current_of_ahead {lexer : Lexer} (nothing : lexer.ahead = 0) :
    lexer.current = .endOfInput := by
  by_cases atEnd : lexer.current = .endOfInput
  · exact atEnd
  · simp [ahead, atEnd] at nothing

namespace Reads

/-- A reading may go on from where it ends. -/
theorem append {lexer middle last : Lexer} {tokens others : List Token}
    (front : Reads lexer tokens middle) (back : Reads middle others last) :
    Reads lexer (tokens ++ others) last := by
  induction front with
  | done => exact back
  | next advanced _ ih => exact next advanced (ih back)

/-- The first token that is read is the current one. -/
theorem current_eq {lexer last : Lexer} {token : Token} {rest : List Token}
    (reads : Reads lexer (token :: rest) last) : lexer.current = token := by
  cases reads
  rfl

/-- A reading passes behind the first of its tokens. -/
theorem exists_of_append {lexer last : Lexer} {tokens others : List Token}
    (reads : Reads lexer (tokens ++ others) last) :
    ∃ middle, Reads lexer tokens middle ∧ Reads middle others last := by
  induction tokens generalizing lexer with
  | nil => exact ⟨lexer, done lexer, reads⟩
  | cons token rest ih =>
    cases reads with
    | next advanced further =>
      obtain ⟨middle, front, back⟩ := ih further
      exact ⟨middle, next advanced front, back⟩

/-- A reading of tokens before the end of the input brings the lexer nearer by their number. -/
theorem ahead_eq {lexer last : Lexer} {tokens : List Token} (reads : Reads lexer tokens last)
    (noEnd : Token.endOfInput ∉ tokens) : lexer.ahead = last.ahead + tokens.length := by
  induction reads with
  | done => rfl
  | next advanced _ ih =>
    simp only [List.mem_cons, not_or] at noEnd
    rw [ahead_advance (Ne.symm noEnd.1) advanced, ih noEnd.2, List.length_cons]
    rfl

end Reads

end Lexer

/-! ## The list of tokens -/

namespace Token

/-- Blanks hold no token. -/
theorem ofPieces_blanks {blanks : List String}
    (allBlank : ∀ piece ∈ blanks, Piece.isBlank piece = true) (rest : List String) :
    ofPieces (blanks ++ rest) = ofPieces rest := by
  induction blanks with
  | nil => rfl
  | cons piece others ih =>
    rw [List.forall_mem_cons] at allBlank
    rw [List.cons_append, ofPieces, if_pos allBlank.1, ih allBlank.2]

/-- The tokens that are read up to the end of the input are the tokens of the pieces. -/
theorem ofPieces_of_reads {lexer first last : Lexer} {tokens : List Token}
    (advanced : Lexer.advance lexer = .ok () first) (reads : Lexer.Reads first tokens last)
    (noEnd : endOfInput ∉ tokens) (atEnd : last.current = .endOfInput) :
    ofPieces lexer.unread = (tokens ++ [endOfInput], none) := by
  induction reads generalizing lexer with
  | done final =>
    obtain ⟨blanks, allBlank, ⟨apart, _, _⟩ | ⟨piece, _, _, classified⟩⟩ :=
      Lexer.advance_ok_cases advanced
    · have read := ofPieces_blanks allBlank []
      rw [List.append_nil] at read
      rw [apart, read]
      rfl
    · rw [atEnd] at classified
      exact absurd classified (ofPiece_ne_endOfInput piece)
  | next moved _ ih =>
    simp only [List.mem_cons, not_or] at noEnd
    obtain ⟨blanks, allBlank, ⟨_, atEnd, _⟩ | ⟨piece, apart, noBlank, classified⟩⟩ :=
      Lexer.advance_ok_cases advanced
    · exact absurd atEnd.symm noEnd.1
    · rw [apart, ofPieces_blanks allBlank, ofPieces]
      simp [noBlank, classified, ih moved noEnd.2 atEnd]

end Token

/-! ## The scan -/

namespace Scan

/-- Blanks do not matter to a scan. -/
theorem run_blanks {step : Step} {blanks : List String}
    (allBlank : ∀ piece ∈ blanks, Piece.isBlank piece = true) (state : State)
    (rest : List String) : run step state (blanks ++ rest) = run step state rest := by
  induction blanks with
  | nil => rfl
  | cons piece others ih =>
    rw [List.forall_mem_cons] at allBlank
    rw [List.cons_append, run_blank _ allBlank.1, ih allBlank.2]

/-- Pieces whose tokens lead from one state to another are done with in a scan. -/
theorem run_append {step : Step} {state last : State} {pieces : List String} {tokens : List Token}
    (rest : List String) (read : Token.ofPieces pieces = (tokens ++ [.endOfInput], none))
    (passes : Passes step state tokens last) :
    run step state (pieces ++ rest) = run step last rest := by
  induction pieces generalizing state tokens with
  | nil =>
    obtain rfl : tokens = [] := by simpa [Token.ofPieces] using read
    cases passes
    rfl
  | cons piece others ih =>
    rw [List.cons_append]
    obtain ⟨blank, further⟩ | ⟨token, tokens, noBlank, classified, rfl, further⟩ :=
      Token.ofPieces_cons_cases read
    · rw [run_blank _ blank, ih further passes]
    · cases passes with
      | next stepped passesOn => rw [run_passed _ noBlank classified stepped, ih further passesOn]

/-- Scans from a state on what a lexer gives: its current token, then its unread pieces. -/
def runFrom (step : Step) (state : State) (lexer : Lexer) : Except SyntaxError Unit :=
  match step state lexer.current with
  | .error error => .error (.parse error)
  | .ok next => run step next lexer.unread

/-- Pieces that begin with no token are a problem in every state. -/
theorem run_unread_of_error {step : Step} {state : State} {lexer last : Lexer} {error : SyntaxError}
    (advanced : Lexer.advance lexer = .error error last) :
    run step state lexer.unread = .error error := by
  obtain ⟨blanks, piece, lexError, allBlank, apart, noBlank, classified, rfl⟩ :=
    Lexer.advance_error_cases advanced
  rw [apart, run_blanks allBlank, run_unreadable _ noBlank classified]

/-- The unread pieces are scanned like the lexer that has been advanced. -/
theorem run_unread_of_ok {limit : Nat} {state : State} {lexer next : Lexer}
    (advanced : Lexer.advance lexer = .ok () next) :
    run (State.stepWithin limit) state lexer.unread =
      runFrom (State.stepWithin limit) state next := by
  obtain ⟨blanks, allBlank, ⟨apart, atEnd, nothing⟩ | ⟨piece, apart, noBlank, classified⟩⟩ :=
    Lexer.advance_ok_cases advanced
  · have skipped := @run_blanks (State.stepWithin limit) _ allBlank state []
    rw [List.append_nil] at skipped
    rw [apart, skipped, run, runFrom, atEnd, nothing]
    cases stepped : state.stepWithin limit .endOfInput with
    | error error => rfl
    | ok following =>
      -- The end of the input is met a second time, and the state stays what it is.
      simp only [run, State.stepWithin_endOfInput_again stepped]
  · rw [apart, run_blanks allBlank, runFrom]
    cases stepped : state.stepWithin limit next.current with
    | error error => rw [run_refused _ noBlank classified stepped]
    | ok following => rw [run_passed _ noBlank classified stepped]

/-- Tokens that a lexer reads and that lead from one state to another are done with in a scan. -/
theorem runFrom_of_reads {limit : Nat} {state next : State} {lexer last : Lexer}
    {tokens : List Token} (reads : Lexer.Reads lexer tokens last)
    (passes : Passes (State.stepWithin limit) state tokens next) :
    runFrom (State.stepWithin limit) state lexer =
      runFrom (State.stepWithin limit) next last := by
  induction reads generalizing state with
  | done =>
    cases passes
    rfl
  | next advanced _ ih =>
    cases passes with
    | next stepped further =>
      rw [runFrom, stepped]
      exact (run_unread_of_ok advanced).trans (ih further)

end Scan

end Calculator
