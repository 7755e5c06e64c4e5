import Calculator.Proofs.Grammar
import Calculator.Token.Classification
import Calculator.Token.Piece

/-!
# Scanning for the first problem

A scan reads the pieces of a source from left to right with one counter. It knows whether an
operand has to come next and how many parentheses are open, and it stops at the first piece that
cannot stand where it does. The parser refuses parentheses beyond a limit, and so does a scan
within that limit. The main statements compare the two scans: they agree on a source that keeps to
the limit, and the limit is the first problem of a source that goes well beyond it.
-/

namespace Calculator.Scan

/-- Where a scan stands. -/
inductive State where
  /-- An operand has to come next, inside so many open parentheses. -/
  | beforeOperand (opened : Nat)
  /-- An operand was just read, inside so many open parentheses. -/
  | afterOperand (opened : Nat)
deriving DecidableEq

/-- What a scan does with a token. -/
abbrev Step := State → Token → Except ParseError State

namespace State

/-- The number of open parentheses. -/
def opened : State → Nat
  | beforeOperand opened | afterOperand opened => opened

/-- What ends the expression inside so many open parentheses. -/
def closing : (opened : Nat) → TokenKind
  | 0 => .endOfInput
  | _ + 1 => .symbol .closeParen

/-- The state behind a token, or what is wrong with the token. -/
def step : Step
  | beforeOperand opened, .number _ => .ok (afterOperand opened)
  | beforeOperand opened, .symbol .openParen => .ok (beforeOperand (opened + 1))
  | beforeOperand _, _ => .error .expectedOperand
  | afterOperand opened, token =>
    if token.isOperator then .ok (beforeOperand opened)
    else if token.kind = closing opened then .ok (afterOperand (opened - 1))
    else .error (.expected (closing opened))

/-- The same where no operand may stand inside more than the given number of parentheses. -/
def stepWithin (limit : Nat) : Step
  | beforeOperand opened, token =>
    if limit < opened then .error .nestedTooDeeply else (beforeOperand opened).step token
  | afterOperand opened, token => (afterOperand opened).step token

end State

/-- Scans pieces from a state on. The end of the input counts as a piece behind the last one. -/
def run (step : Step) : State → List String → Except SyntaxError Unit
  | state, [] =>
    match step state .endOfInput with
    | .error error => .error (.parse error)
    | .ok _ => .ok ()
  | state, piece :: rest =>
    if Piece.isBlank piece then run step state rest
    else
      match Token.ofPiece piece with
      | .error error => .error (.lex error)
      | .ok token =>
        match step state token with
        | .error error => .error (.parse error)
        | .ok next => run step next rest

/-- Scans a source. -/
def ofSource (source : String) : Except SyntaxError Unit :=
  run State.step (.beforeOperand 0) (Piece.split source)

/-- The states that a scan is in one after the other, up to the first problem or the end. -/
def trail : State → List String → List State
  | state, [] => [state]
  | state, piece :: rest =>
    if Piece.isBlank piece then trail state rest
    else
      match Token.ofPiece piece with
      | .error _ => [state]
      | .ok token =>
        match state.step token with
        | .error _ => [state]
        | .ok next => state :: trail next rest

/-- The states of the scan of a source. -/
def trailOfSource (source : String) : List State := trail (.beforeOperand 0) (Piece.split source)

/-- The tokens lead from one state to another. -/
inductive Passes (step : Step) : State → List Token → State → Prop where
  /-- No token changes nothing. -/
  | done (state : State) : Passes step state [] state
  /-- The first token leads to a state from which the other ones lead on. -/
  | next {state middle last : State} {token : Token} {rest : List Token}
      (stepped : step state token = .ok middle) (further : Passes step middle rest last) :
      Passes step state (token :: rest) last

section Equations

variable {step : Step} {state next : State} {piece : String} {token : Token}
  {lexError : LexError} {parseError : ParseError} (rest : List String)

/-- A blank does not matter to a scan. -/
theorem run_blank (blank : Piece.isBlank piece = true) :
    run step state (piece :: rest) = run step state rest := by
  rw [run, if_pos blank]

/-- A piece that is no token ends a scan. -/
theorem run_unreadable (noBlank : Piece.isBlank piece = false)
    (classified : Token.ofPiece piece = .error lexError) :
    run step state (piece :: rest) = .error (.lex lexError) := by
  simp [run, noBlank, classified]

/-- A token that cannot stand where it does ends a scan. -/
theorem run_refused (noBlank : Piece.isBlank piece = false)
    (classified : Token.ofPiece piece = .ok token)
    (refused : step state token = .error parseError) :
    run step state (piece :: rest) = .error (.parse parseError) := by
  simp [run, noBlank, classified, refused]

/-- A scan goes on behind a token. -/
theorem run_passed (noBlank : Piece.isBlank piece = false)
    (classified : Token.ofPiece piece = .ok token) (stepped : step state token = .ok next) :
    run step state (piece :: rest) = run step next rest := by
  simp [run, noBlank, classified, stepped]

/-- A blank leaves no trail. -/
theorem trail_blank (blank : Piece.isBlank piece = true) :
    trail state (piece :: rest) = trail state rest := by
  rw [trail, if_pos blank]

/-- A piece that is no token ends the trail. -/
theorem trail_unreadable (noBlank : Piece.isBlank piece = false)
    (classified : Token.ofPiece piece = .error lexError) :
    trail state (piece :: rest) = [state] := by
  simp [trail, noBlank, classified]

/-- A token that cannot stand where it does ends the trail. -/
theorem trail_refused (noBlank : Piece.isBlank piece = false)
    (classified : Token.ofPiece piece = .ok token)
    (refused : state.step token = .error parseError) : trail state (piece :: rest) = [state] := by
  simp [trail, noBlank, classified, refused]

/-- The trail goes on behind a token. -/
theorem trail_passed (noBlank : Piece.isBlank piece = false)
    (classified : Token.ofPiece piece = .ok token) (stepped : state.step token = .ok next) :
    trail state (piece :: rest) = state :: trail next rest := by
  simp [trail, noBlank, classified, stepped]

end Equations

/-- Induction along a scan: it is at the end, or in front of a blank, of a piece that is no token,
of a token that cannot stand there, or of one that can. -/
@[elab_as_elim]
theorem scan_induction {motive : State → List String → Prop} (atEnd : ∀ state, motive state [])
    (blank : ∀ state piece rest, Piece.isBlank piece = true → motive state rest →
      motive state (piece :: rest))
    (unreadable : ∀ state piece rest error, Piece.isBlank piece = false →
      Token.ofPiece piece = .error error → motive state (piece :: rest))
    (refused : ∀ (state : State) piece rest token error, Piece.isBlank piece = false →
      Token.ofPiece piece = .ok token → state.step token = .error error →
        motive state (piece :: rest))
    (passed : ∀ (state : State) piece rest token next, Piece.isBlank piece = false →
      Token.ofPiece piece = .ok token → state.step token = .ok next → motive next rest →
        motive state (piece :: rest))
    (state : State) (pieces : List String) : motive state pieces := by
  induction pieces generalizing state with
  | nil => exact atEnd state
  | cons piece rest ih =>
    cases isBlank : Piece.isBlank piece with
    | true => exact blank state piece rest isBlank (ih state)
    | false =>
      cases classified : Token.ofPiece piece with
      | error error => exact unreadable state piece rest error isBlank classified
      | ok token =>
        cases stepped : state.step token with
        | error error => exact refused state piece rest token error isBlank classified stepped
        | ok next => exact passed state piece rest token next isBlank classified stepped (ih next)

namespace State

/-- Behind an operand, an operator asks for another operand. -/
theorem step_operator {opened : Nat} {token : Token} (operator : token.isOperator = true) :
    (afterOperand opened).step token = .ok (beforeOperand opened) := by
  simp [step, operator]

/-- Behind an operand, a parenthesis that was open may be closed. -/
theorem step_closeParen (opened : Nat) :
    (afterOperand (opened + 1)).step (.symbol .closeParen) = .ok (afterOperand opened) := rfl

/-- Behind an operand, a token that is no operator has to end the expression. -/
theorem step_error {opened : Nat} {token : Token} (noOperator : token.isOperator = false)
    (wrong : token.kind ≠ closing opened) :
    (afterOperand opened).step token = .error (.expected (closing opened)) := by
  simp [step, noOperator, wrong]

/-- A step within a limit that succeeds is a step. -/
theorem step_of_stepWithin {limit : Nat} {state next : State} {token : Token}
    (stepped : state.stepWithin limit token = .ok next) : state.step token = .ok next := by
  cases state with
  | beforeOperand opened =>
    rw [stepWithin] at stepped
    split at stepped
    · cases stepped
    · exact stepped
  | afterOperand opened => exact stepped

/-- Within the limit nothing changes. -/
theorem stepWithin_eq {limit : Nat} {state : State} (within : state.opened ≤ limit)
    (token : Token) : state.stepWithin limit token = state.step token := by
  cases state with
  | beforeOperand opened => exact if_neg (Nat.not_lt.mpr within)
  | afterOperand opened => rfl

/-- A step within a limit is refused for the nesting, or a higher limit changes nothing. -/
theorem stepWithin_of_le {fewer more : Nat} (le : fewer ≤ more) (state : State) (token : Token) :
    state.stepWithin fewer token = .error .nestedTooDeeply ∨
      state.stepWithin fewer token = state.stepWithin more token := by
  by_cases within : state.opened ≤ fewer
  · exact .inr ((stepWithin_eq within token).trans
      (stepWithin_eq (Nat.le_trans within le) token).symm)
  · cases state with
    | beforeOperand opened => exact .inl (if_pos (Nat.lt_of_not_le within))
    | afterOperand opened => exact .inr rfl

/-- Everything that a step can do: an operand is a number or begins with a parenthesis, and behind
an operand stands an operator, a parenthesis that closes one, or the end of the input. -/
theorem step_cases {state next : State} {token : Token} (stepped : state.step token = .ok next) :
    (∃ opened value, state = beforeOperand opened ∧ token = .number value ∧
        next = afterOperand opened) ∨
      (∃ opened, state = beforeOperand opened ∧ token = .symbol .openParen ∧
        next = beforeOperand (opened + 1)) ∨
      (∃ opened, state = afterOperand opened ∧ token.isOperator = true ∧
        next = beforeOperand opened) ∨
      (∃ opened, state = afterOperand (opened + 1) ∧ token = .symbol .closeParen ∧
        next = afterOperand opened) ∨
      (state = afterOperand 0 ∧ token = .endOfInput ∧ next = afterOperand 0) := by
  cases state with
  | beforeOperand opened =>
    cases token with
    | number value =>
      cases stepped
      exact .inl ⟨opened, value, rfl, rfl, rfl⟩
    | symbol s =>
      cases s with
      | openParen =>
        cases stepped
        exact .inr (.inl ⟨opened, rfl, rfl, rfl⟩)
      | _ => cases stepped
    | endOfInput => cases stepped
  | afterOperand opened =>
    refine .inr (.inr ?_)
    by_cases operator : token.isOperator = true
    · rw [step_operator operator] at stepped
      cases stepped
      exact .inl ⟨opened, rfl, operator, rfl⟩
    · rw [Bool.not_eq_true] at operator
      by_cases ending : token.kind = closing opened
      · rw [step, if_neg (by simp [operator]), if_pos ending] at stepped
        cases stepped
        cases opened with
        | zero =>
          cases token with
          | endOfInput => exact .inr (.inr ⟨rfl, rfl, rfl⟩)
          | _ => cases ending
        | succ opened =>
          cases token with
          | symbol s =>
            cases ending
            exact .inr (.inl ⟨opened, rfl, rfl, rfl⟩)
          | _ => cases ending
      · rw [step_error operator ending] at stepped
        cases stepped

/-- An operator is no parenthesis. -/
theorem ne_parenthesis {token : Token} (operator : token.isOperator = true) :
    token ≠ .symbol .openParen ∧ token ≠ .symbol .closeParen := by
  constructor <;>
  · rintro rfl
    cases operator

/-- A step opens or closes the parenthesis that its token is, and no other one. -/
theorem opened_step {state next : State} {token : Token} (stepped : state.step token = .ok next) :
    next.opened + (if token = .symbol .closeParen then 1 else 0) =
      state.opened + (if token = .symbol .openParen then 1 else 0) := by
  obtain ⟨opened, value, rfl, rfl, rfl⟩ | ⟨opened, rfl, rfl, rfl⟩ | ⟨opened, rfl, operator, rfl⟩ |
    ⟨opened, rfl, rfl, rfl⟩ | ⟨rfl, rfl, rfl⟩ := step_cases stepped
  · rfl
  · rfl
  · obtain ⟨notOpen, notClose⟩ := ne_parenthesis operator
    rw [if_neg notOpen, if_neg notClose]
    rfl
  · rfl
  · rfl

/-- A step opens at most one parenthesis. -/
theorem opened_step_le {state next : State} {token : Token}
    (stepped : state.step token = .ok next) : next.opened ≤ state.opened + 1 := by
  have counted := opened_step stepped
  split at counted <;> split at counted <;> omega

/-- A step behind an operand opens no parenthesis. -/
theorem opened_afterOperand_step_le {opened : Nat} {next : State} {token : Token}
    (stepped : (afterOperand opened).step token = .ok next) : next.opened ≤ opened := by
  have counted := opened_step stepped
  have notOpen : token ≠ .symbol .openParen := by
    rintro rfl
    cases opened <;> cases stepped
  rw [if_neg notOpen] at counted
  have atStart : (afterOperand opened).opened = opened := rfl
  omega

/-- Without a limit no token is refused for the nesting. -/
theorem step_ne_nestedTooDeeply (state : State) (token : Token) :
    state.step token ≠ .error .nestedTooDeeply := by
  cases state with
  | beforeOperand opened =>
    cases token with
    | symbol s => cases s <;> simp [step]
    | _ => simp [step]
  | afterOperand opened =>
    rw [step]
    split
    · simp
    · split <;> simp

/-- The end of the input may be met again. -/
theorem stepWithin_endOfInput_again {limit : Nat} {state next : State}
    (stepped : state.stepWithin limit .endOfInput = .ok next) :
    next.stepWithin limit .endOfInput = .ok next := by
  obtain ⟨_, _, _, wrong, _⟩ | ⟨_, _, wrong, _⟩ | ⟨_, _, wrong, _⟩ | ⟨_, _, wrong, _⟩ |
    ⟨_, _, rfl⟩ := step_cases (step_of_stepWithin stepped)
  · cases wrong
  · cases wrong
  · cases wrong
  · cases wrong
  · rfl

end State

namespace Passes

/-- Tokens that lead to a state may be followed by tokens that lead on from there. -/
theorem append {step : Step} {state middle last : State} {tokens others : List Token}
    (front : Passes step state tokens middle) (back : Passes step middle others last) :
    Passes step state (tokens ++ others) last := by
  induction front with
  | done => exact back
  | next stepped _ ih => exact next stepped (ih back)

/-- Tokens lead through a state behind the first of them. -/
theorem exists_of_append {step : Step} {state last : State} {tokens others : List Token}
    (passes : Passes step state (tokens ++ others) last) :
    ∃ middle, Passes step state tokens middle ∧ Passes step middle others last := by
  induction tokens generalizing state with
  | nil => exact ⟨state, done state, passes⟩
  | cons token rest ih =>
    cases passes with
    | next stepped further =>
      obtain ⟨middle, front, back⟩ := ih further
      exact ⟨middle, next stepped front, back⟩

/-- Tokens that lead to a state within a limit lead there. -/
theorem of_stepWithin {limit : Nat} {state last : State} {tokens : List Token}
    (passes : Passes (State.stepWithin limit) state tokens last) :
    Passes State.step state tokens last := by
  induction passes with
  | done => exact done _
  | next stepped _ ih => exact next (State.step_of_stepWithin stepped) ih

/-- Tokens lead to one state only. -/
theorem unique {step : Step} {state last other : State} {tokens : List Token}
    (passes : Passes step state tokens last) (otherPasses : Passes step state tokens other) :
    last = other := by
  induction passes with
  | done =>
    cases otherPasses
    rfl
  | next stepped _ ih =>
    cases otherPasses with
    | next otherStepped otherFurther =>
      obtain rfl := Except.ok.inj (stepped.symm.trans otherStepped)
      exact ih otherFurther

/-- Tokens that a scan steps over change the number of open parentheses by their own ones. -/
theorem opened_add_count {state last : State} {tokens : List Token}
    (passes : Passes State.step state tokens last) :
    last.opened + tokens.count (.symbol .closeParen) =
      state.opened + tokens.count (.symbol .openParen) := by
  induction passes with
  | done => rfl
  | next stepped _ ih =>
    have moved := State.opened_step stepped
    simp only [List.count_cons, beq_iff_eq]
    omega

end Passes

/-- A phrase leads from before an operand to behind one, with as many parentheses open. -/
theorem passes_of_derives {level : Level} {tokens : List Token} {tree : Tree}
    (phrase : Derives level tokens tree) (opened : Nat) :
    Passes State.step (.beforeOperand opened) tokens (.afterOperand opened) := by
  induction phrase generalizing opened with
  | number => exact .next rfl (.done _)
  | enclosed _ ih =>
    exact .next rfl ((ih (opened + 1)).append (.next (State.step_closeParen opened) (.done _)))
  | alone _ _ ih => exact ih opened
  | @left _ symbol _ _ _ _ operator _ _ _ leftPasses rightPasses =>
    have isOperator : (Token.symbol symbol).isOperator = true := by
      simp [Token.isOperator, operator]
    exact (leftPasses opened).append (.next (State.step_operator isOperator) (rightPasses opened))
  | right _ _ basePasses exponentPasses =>
    exact (basePasses opened).append (.next (State.step_operator rfl) (exponentPasses opened))

/-- A scan on which the parentheses keep to a limit is a scan within the limit. -/
theorem run_stepWithin {limit : Nat} {state : State} {pieces : List String}
    (within : ∀ visited ∈ trail state pieces, visited.opened ≤ limit) :
    run (State.stepWithin limit) state pieces = run State.step state pieces := by
  induction state, pieces using scan_induction with
  | atEnd state =>
    have here : state.opened ≤ limit := within state (List.mem_singleton.mpr rfl)
    rw [run, run, State.stepWithin_eq here]
  | blank state piece rest isBlank ih =>
    rw [trail_blank rest isBlank] at within
    rw [run_blank rest isBlank, run_blank rest isBlank, ih within]
  | unreadable state piece rest error noBlank classified =>
    rw [run_unreadable rest noBlank classified, run_unreadable rest noBlank classified]
  | refused state piece rest token error noBlank classified refused =>
    rw [trail_refused rest noBlank classified refused] at within
    have here : state.opened ≤ limit := within state (List.mem_singleton.mpr rfl)
    have same := State.stepWithin_eq here token
    rw [run_refused rest noBlank classified (same.trans refused),
      run_refused rest noBlank classified refused]
  | passed state piece rest token next noBlank classified stepped ih =>
    rw [trail_passed rest noBlank classified stepped, List.forall_mem_cons] at within
    obtain ⟨here, further⟩ := within
    have same := State.stepWithin_eq here token
    rw [run_passed rest noBlank classified (same.trans stepped),
      run_passed rest noBlank classified stepped, ih further]

/-- A scan within a limit meets the limit as its first problem, or a higher one changes nothing. -/
theorem run_stepWithin_of_le {fewer more : Nat} (le : fewer ≤ more) (state : State)
    (pieces : List String) :
    run (State.stepWithin fewer) state pieces = .error (.parse .nestedTooDeeply) ∨
      run (State.stepWithin fewer) state pieces = run (State.stepWithin more) state pieces := by
  induction pieces generalizing state with
  | nil =>
    rw [run, run]
    obtain tooDeep | same := State.stepWithin_of_le le state .endOfInput
    · exact .inl (by rw [tooDeep])
    · exact .inr (by rw [same])
  | cons piece rest ih =>
    cases isBlank : Piece.isBlank piece with
    | true =>
      rw [run_blank rest isBlank, run_blank rest isBlank]
      exact ih state
    | false =>
      cases classified : Token.ofPiece piece with
      | error error =>
        rw [run_unreadable rest isBlank classified, run_unreadable rest isBlank classified]
        exact .inr rfl
      | ok token =>
        obtain tooDeep | same := State.stepWithin_of_le le state token
        · exact .inl (run_refused rest isBlank classified tooDeep)
        · cases stepped : state.stepWithin more token with
          | error error =>
            rw [run_refused rest isBlank classified (same.trans stepped),
              run_refused rest isBlank classified stepped]
            exact .inr rfl
          | ok next =>
            rw [run_passed rest isBlank classified (same.trans stepped),
              run_passed rest isBlank classified stepped]
            exact ih next

/-- A scan with more parentheses open than the limit and one allow finds the limit as its first
problem. -/
theorem run_stepWithin_tooDeep {limit : Nat} {state : State} {pieces : List String}
    (within : state.opened ≤ limit + 1)
    (deep : ∃ visited ∈ trail state pieces, limit + 1 < visited.opened) :
    run (State.stepWithin limit) state pieces = .error (.parse .nestedTooDeeply) := by
  induction state, pieces using scan_induction with
  | atEnd state =>
    obtain ⟨visited, here, above⟩ := deep
    obtain rfl := List.mem_singleton.mp here
    omega
  | blank state piece rest isBlank ih =>
    rw [trail_blank rest isBlank] at deep
    rw [run_blank rest isBlank, ih within deep]
  | unreadable state piece rest error noBlank classified =>
    rw [trail_unreadable rest noBlank classified] at deep
    obtain ⟨visited, here, above⟩ := deep
    obtain rfl := List.mem_singleton.mp here
    omega
  | refused state piece rest token error noBlank classified refused =>
    rw [trail_refused rest noBlank classified refused] at deep
    obtain ⟨visited, here, above⟩ := deep
    obtain rfl := List.mem_singleton.mp here
    omega
  | passed state piece rest token next noBlank classified stepped ih =>
    rw [trail_passed rest noBlank classified stepped] at deep
    have further : ∃ visited ∈ trail next rest, limit + 1 < visited.opened := by
      obtain ⟨visited, among, above⟩ := deep
      obtain rfl | among := List.mem_cons.mp among
      · omega
      · exact ⟨visited, among, above⟩
    cases state with
    | beforeOperand opened =>
      by_cases beyond : limit < opened
      · have tooDeep : (State.beforeOperand opened).stepWithin limit token =
            .error .nestedTooDeeply := if_pos beyond
        exact run_refused rest noBlank classified tooDeep
      · have here : (State.beforeOperand opened).opened ≤ limit := Nat.not_lt.mp beyond
        have atMost := State.opened_step_le stepped
        have same := State.stepWithin_eq here token
        rw [run_passed rest noBlank classified (same.trans stepped)]
        exact ih (by omega) further
    | afterOperand opened =>
      have atMost := State.opened_afterOperand_step_le stepped
      have unlimited : (State.afterOperand opened).stepWithin limit token = .ok next := stepped
      rw [run_passed rest noBlank classified unlimited]
      exact ih (Nat.le_trans atMost within) further

/-- Pieces that no state can tell from others are not told from them behind other pieces. -/
theorem run_append_congr {pieces others : List String}
    (same : ∀ state, run State.step state pieces = run State.step state others)
    (state : State) (front : List String) :
    run State.step state (front ++ pieces) = run State.step state (front ++ others) := by
  induction state, front using scan_induction with
  | atEnd state => exact same state
  | blank state piece rest isBlank ih =>
    rw [List.cons_append, List.cons_append, run_blank _ isBlank, run_blank _ isBlank, ih]
  | unreadable state piece rest error noBlank classified =>
    rw [List.cons_append, List.cons_append, run_unreadable _ noBlank classified,
      run_unreadable _ noBlank classified]
  | refused state piece rest token error noBlank classified refused =>
    rw [List.cons_append, List.cons_append, run_refused _ noBlank classified refused,
      run_refused _ noBlank classified refused]
  | passed state piece rest token next noBlank classified stepped ih =>
    rw [List.cons_append, List.cons_append, run_passed _ noBlank classified stepped,
      run_passed _ noBlank classified stepped, ih]

/-- Without a limit no source is refused for the nesting. -/
theorem run_ne_nestedTooDeeply (state : State) (pieces : List String) :
    run State.step state pieces ≠ .error (.parse .nestedTooDeeply) := by
  have notDeep : ∀ {here : State} {token : Token} {error : ParseError},
      here.step token = .error error → error ≠ .nestedTooDeeply := by
    rintro here token error refused rfl
    exact here.step_ne_nestedTooDeeply token refused
  induction state, pieces using scan_induction with
  | atEnd state =>
    rw [run]
    cases stepped : state.step .endOfInput with
    | error error => simpa using notDeep stepped
    | ok next => simp
  | blank state piece rest isBlank ih => rwa [run_blank rest isBlank]
  | unreadable state piece rest error noBlank classified =>
    rw [run_unreadable rest noBlank classified]
    simp
  | refused state piece rest token error noBlank classified refused =>
    rw [run_refused rest noBlank classified refused]
    simpa using notDeep refused
  | passed state piece rest token next noBlank classified stepped ih =>
    rwa [run_passed rest noBlank classified stepped]

end Calculator.Scan
