import Calculator.Proofs.Progress

/-!
# Termination

The parsers of the levels call each other in a circle that parentheses close. The limit to their
nesting breaks the circle, but it is not what makes the parsers end. To show that, the descent is
repeated here by plain recursion without such a limit. Instead the calls that are open at once are
counted down, and with them the turns of the loops. A number that is linear in the tokens ahead is
always enough for them, and the outcome is then that of the parsers, unless these have met their
limit.

A whole source is read in a number of advances that its pieces alone decide.
-/

namespace Calculator

/-- The operators between the operands of a level. -/
def Level.joins (level : Level) (s : Symbol) : Bool := s.level? = some level

/-- There are five levels. -/
theorem Level.rank_bounds (level : Level) : 1 ≤ level.rank ∧ level.rank ≤ 5 := by
  cases level <;> decide

namespace Parser

variable {α β : Type} {condition : Symbol → Bool} {next inner : Parser Tree} {lexer : Lexer}

/-! ## Jobs -/

/-- What is left to do at some point of the descent. -/
inductive Job where
  /-- To parse a phrase of the level. -/
  | phrase (level : Level)
  /-- To extend a tree to the right by operators of the level. -/
  | extend (level : Level) (tree : Tree)
  /-- To collect powers behind the operands that are given, the latest of them apart. -/
  | collect (right : Tree) (earlier : List Tree)

namespace Job

/-- Does a job by plain recursion. Parentheses may be nested as they like, but what a job calls gets
one unit of fuel less, and so does each turn of a loop. To run out of fuel is the error of too deep
a nesting, for which there is no other reason here. -/
def run : (fuel : Nat) → Job → Parser Tree
  | 0, _ => throw (.parse .nestedTooDeeply)
  | fuel + 1, phrase .operands => operand (run fuel (phrase .maxima))
  | fuel + 1, phrase .powers => do
    let first ← run fuel (phrase .operands)
    run fuel (collect first [])
  | fuel + 1, phrase level => do
    let first ← run fuel (phrase level.tighter)
    run fuel (extend level first)
  | fuel + 1, extend level tree => do
    match ← turn level.joins (run fuel (phrase level.tighter)) with
    | none => return tree
    | some (symbol, right) => run fuel (extend level (.branch symbol.text tree right))
  | fuel + 1, collect right earlier => do
    match ← turn (· = .power) (run fuel (phrase .operands)) with
    | none => return groupPowers right earlier
    | some (_, further) => run fuel (collect further (right :: earlier))

/-- The fuel that is enough for a job where so much is ahead. A level hands on to the next tighter
one at the same place, and only the tightest has a token to read before it begins anew. -/
def enough : Job → (ahead : Nat) → Nat
  | phrase level, ahead => 5 * ahead + (6 - level.rank)
  | extend _ _, ahead | collect _ _, ahead => 5 * ahead + 1

/-- The parser that does the job, given the levels of nesting and the turns that are left. -/
def within (levels : Nat) (turns : List String) : Job → Parser Tree
  | phrase level => ofLevel level (expression levels)
  | extend level tree =>
    extendLeft level.joins (ofLevel level.tighter (expression levels)) turns tree
  | collect right earlier => collectPowers (operand (expression levels)) turns right earlier

end Job

/-- The parser has given up because it has come too deep. -/
def GaveUp (result : EStateM.Result SyntaxError Lexer α) : Prop :=
  ∃ last, result = .error (.parse .nestedTooDeeply) last

/-- What a limited descent gives in comparison with an unlimited one. -/
structure Agrees (reason : Prop) (limited result : EStateM.Result SyntaxError Lexer α) : Prop where
  /-- The unlimited descent does not give up. -/
  goesOn : ¬GaveUp result
  /-- The limited one has the same outcome, or it has given up for the reason. -/
  outcome : limited = result ∨ GaveUp limited ∧ reason

/-- Nothing follows a parser that gives up. -/
theorem GaveUp.bind {first : Parser α} {next : α → Parser β} {lexer : Lexer}
    (gaveUp : GaveUp (first lexer)) : GaveUp ((first >>= next) lexer) := by
  obtain ⟨last, failed⟩ := gaveUp
  exact ⟨last, bind_of_error failed⟩

/-- Parsers one after the other do not give up if none of them does. -/
theorem not_gaveUp_bind {first : Parser α} {next : α → Parser β} {lexer : Lexer}
    (head : ¬GaveUp (first lexer))
    (rest : ∀ value middle, first lexer = .ok value middle → ¬GaveUp (next value middle)) :
    ¬GaveUp ((first >>= next) lexer) := by
  rintro ⟨last, gaveUp⟩
  cases outcome : first lexer with
  | error error stuck =>
    rw [bind_of_error outcome] at gaveUp
    cases gaveUp
    exact head ⟨last, outcome⟩
  | ok value middle =>
    rw [bind_of_ok outcome] at gaveUp
    exact rest value middle outcome ⟨last, gaveUp⟩

namespace Agrees

variable {reason weaker : Prop} {limited result : EStateM.Result SyntaxError Lexer α}

/-- What does not give up agrees with itself. -/
theorem same (goesOn : ¬GaveUp result) : Agrees reason result result := ⟨goesOn, .inl rfl⟩

/-- A reason may be replaced by one that follows from it. -/
theorem mono (agrees : Agrees reason limited result) (implies : reason → weaker) :
    Agrees weaker limited result :=
  ⟨agrees.goesOn, agrees.outcome.imp_right fun ⟨gaveUp, because⟩ => ⟨gaveUp, implies because⟩⟩

/-- To give a value is no giving up. -/
theorem pure (value : α) (lexer : Lexer) : Agrees reason
    ((Pure.pure value : Parser α) lexer) ((Pure.pure value : Parser α) lexer) :=
  same fun ⟨_, gaveUp⟩ => nomatch gaveUp

/-- An advance gives up for no lack of levels. -/
theorem advance (lexer : Lexer) : Agrees reason (Lexer.advance lexer) (Lexer.advance lexer) := by
  refine same fun ⟨last, gaveUp⟩ => ?_
  obtain ⟨_, _, _, _, _, _, _, isLexical⟩ := Lexer.advance_error_cases gaveUp
  cases isLexical

/-- Descents that agree may be gone on with by descents that do. -/
theorem bind {first full : Parser α} {next fullNext : α → Parser β} {lexer : Lexer}
    (head : Agrees reason (first lexer) (full lexer))
    (rest : ∀ value middle, full lexer = .ok value middle →
      Agrees reason (next value middle) (fullNext value middle)) :
    Agrees reason ((first >>= next) lexer) ((full >>= fullNext) lexer) := by
  refine ⟨not_gaveUp_bind head.goesOn fun value middle parsed =>
    (rest value middle parsed).goesOn, ?_⟩
  obtain same | ⟨gaveUp, because⟩ := head.outcome
  · cases parsed : full lexer with
    | error error last =>
      rw [bind_of_error (same.trans parsed), bind_of_error parsed]
      exact .inl rfl
    | ok value middle =>
      rw [bind_of_ok (same.trans parsed), bind_of_ok parsed]
      exact (rest value middle parsed).outcome
  · exact .inr ⟨gaveUp.bind, because⟩

/-- To step over a token of some kind gives up for no lack of levels. -/
theorem expect (kind : TokenKind) (tree : Tree) (lexer : Lexer) : Agrees reason
    ((expect kind >>= fun _ => Pure.pure tree : Parser Tree) lexer)
    ((expect kind >>= fun _ => Pure.pure tree : Parser Tree) lexer) := by
  by_cases matching : lexer.current.kind = kind
  · rw [expect_bind_of_eq _ matching]
    exact (advance lexer).bind fun _ middle _ => pure tree middle
  · rw [expect_bind_of_ne _ matching]
    exact same fun ⟨_, gaveUp⟩ => nomatch gaveUp

/-- Operands agree if the parsers of what stands in parentheses do, one token further. -/
theorem operand {lexer : Lexer} {full : Parser Tree}
    (content : ∀ middle : Lexer, lexer.ahead = middle.ahead + 1 →
      Agrees reason (inner middle) (full middle)) :
    Agrees reason (operand inner lexer) (operand full lexer) := by
  cases current : lexer.current with
  | number value =>
    rw [operand_of_number _ current, operand_of_number _ current]
    exact (advance lexer).bind fun _ middle _ => pure _ middle
  | endOfInput =>
    rw [operand_of_other _ (by simp [current]) (by simp [current]),
      operand_of_other _ (by simp [current]) (by simp [current])]
    exact same fun ⟨_, gaveUp⟩ => nomatch gaveUp
  | symbol s =>
    by_cases isOpen : lexer.current = .symbol .openParen
    · rw [operand_of_openParen _ isOpen, operand_of_openParen _ isOpen]
      refine (advance lexer).bind fun _ middle moved => ?_
      have nearer := Lexer.ahead_advance (by simp [current]) moved
      exact (content middle nearer).bind fun tree behind _ => expect _ tree behind
    · rw [operand_of_other _ (by simp [current]) isOpen,
        operand_of_other _ (by simp [current]) isOpen]
      exact same fun ⟨_, gaveUp⟩ => nomatch gaveUp

/-- Turns agree if the parsers of the operand do, one token further. -/
theorem turn {lexer : Lexer} {full : Parser Tree}
    (operands : ∀ middle : Lexer, lexer.ahead = middle.ahead + 1 →
      Agrees reason (next middle) (full middle)) :
    Agrees reason (turn condition next lexer) (turn condition full lexer) := by
  obtain ⟨s, isSymbol, holds⟩ | other := operator_or_other condition lexer
  · rw [turn_of_operator isSymbol holds, turn_of_operator isSymbol holds]
    refine (advance lexer).bind fun _ middle moved => ?_
    have nearer := Lexer.ahead_advance (by simp [isSymbol]) moved
    exact (operands middle nearer).bind fun right behind _ => pure _ behind
  · rw [turn_of_other other, turn_of_other other]
    exact pure none lexer

end Agrees

namespace Job

/-- The three loosest levels extend a phrase of the next tighter one to the right. -/
theorem ofLevel_eq_leftAssociative {level : Level} (notPowers : level ≠ .powers)
    (notOperands : level ≠ .operands) (inner : Parser Tree) :
    ofLevel level inner = leftAssociative level.joins (ofLevel level.tighter inner) := by
  cases level with
  | operands => exact absurd rfl notOperands
  | powers => exact absurd rfl notPowers
  | products =>
    have same : Symbol.isProduct = Level.products.joins := by
      funext s
      cases s <;> rfl
    exact congrArg (leftAssociative · _) same
  | sums =>
    have same : Symbol.isSum = Level.sums.joins := by
      funext s
      cases s <;> rfl
    exact congrArg (leftAssociative · _) same
  | maxima =>
    have same : Symbol.isMaximum = Level.maxima.joins := by
      funext s
      cases s <;> rfl
    exact congrArg (leftAssociative · _) same

/-- So does the plain recursion. -/
theorem run_phrase {level : Level} (notPowers : level ≠ .powers) (notOperands : level ≠ .operands)
    (fuel : Nat) :
    run (fuel + 1) (phrase level) =
      (run fuel (phrase level.tighter) >>= fun first => run fuel (extend level first)) := by
  cases level with
  | operands => exact absurd rfl notOperands
  | powers => exact absurd rfl notPowers
  | _ => rfl

/-- The plain recursion only advances the lexer. -/
theorem onlyAdvances_run (fuel : Nat) (job : Job) : OnlyAdvances (run fuel job) := by
  induction fuel generalizing job with
  | zero => exact .throw _
  | succ fuel ih =>
    cases job with
    | phrase level =>
      by_cases isOperands : level = .operands
      · subst isOperands
        exact (ih _).operand
      by_cases isPowers : level = .powers
      · subst isPowers
        exact (ih _).bind fun first => ih _
      · rw [run_phrase isPowers isOperands]
        exact (ih _).bind fun first => ih _
    | extend level tree =>
      rw [run]
      refine (ih _).turn.bind fun found => ?_
      split
      · exact .pure tree
      · exact ih _
    | collect right earlier =>
      rw [run]
      refine (ih _).turn.bind fun found => ?_
      split
      · exact .pure _
      · exact ih _

/-- A phrase that the plain recursion has read brings the lexer nearer to its end. -/
theorem progresses_run (fuel : Nat) (level : Level) : Progresses (run fuel (phrase level)) := by
  induction fuel generalizing level with
  | zero =>
    intro lexer tree last parsed
    cases parsed
  | succ fuel ih =>
    by_cases isOperands : level = .operands
    · subst isOperands
      exact progresses_operand (onlyAdvances_run fuel _)
    by_cases isPowers : level = .powers
    · subst isPowers
      exact (ih _).bind fun first => onlyAdvances_run fuel _
    · rw [run_phrase isPowers isOperands]
      exact (ih _).bind fun first => onlyAdvances_run fuel _

/-- The next tighter level needs less fuel at the same place, except for the tightest. -/
theorem rank_lt_tighter {level : Level} (notOperands : level ≠ .operands) :
    level.rank < level.tighter.rank := by
  cases level with
  | operands => exact absurd rfl notOperands
  | _ => decide

/-- With enough fuel the plain recursion does a job as the parser that has levels and turns does it,
and that parser gives up only where more is ahead than there are levels. -/
def Reaches (fuel : Nat) (job : Job) : Prop :=
  ∀ (lexer : Lexer) (levels : Nat) (turns : List String), job.enough lexer.ahead ≤ fuel →
    lexer.ahead ≤ turns.length →
      Agrees (levels < lexer.ahead) (job.within levels turns lexer) (run fuel job lexer)

variable {fuel levels : Nat} {level : Level}

/-- The turns that are left do not matter to phrases. -/
theorem Reaches.agrees (reaches : Reaches fuel (phrase level)) (levels : Nat)
    (plenty : (phrase level).enough lexer.ahead ≤ fuel) :
    Agrees (levels < lexer.ahead) (ofLevel level (expression levels) lexer)
      (run fuel (phrase level) lexer) :=
  reaches lexer levels ("" :: lexer.unread) plenty lexer.ahead_le

/-- The fuel for operands is enough for what stands in parentheses. -/
theorem reaches_operands (inner : Reaches fuel (phrase .maxima)) :
    Reaches (fuel + 1) (phrase .operands) := by
  intro lexer levels turns plenty _
  refine Agrees.operand fun middle nearer => ?_
  have plentyThen : (phrase .maxima).enough middle.ahead ≤ fuel := by
    simp only [enough, Level.rank] at plenty ⊢
    omega
  cases levels with
  | zero =>
    have further := (inner.agrees 0 plentyThen).goesOn
    exact ⟨further, .inr ⟨⟨middle, rfl⟩, by omega⟩⟩
  | succ levels =>
    have further : Agrees (levels < middle.ahead) (expression (levels + 1) middle)
        (run fuel (phrase .maxima) middle) := inner.agrees levels plentyThen
    exact further.mono (by omega)

/-- The fuel for powers is enough for the first operand and for the loop behind it. -/
theorem reaches_powers (operands : Reaches fuel (phrase .operands))
    (further : ∀ right earlier, Reaches fuel (collect right earlier)) :
    Reaches (fuel + 1) (phrase .powers) := by
  intro lexer levels turns plenty _
  simp only [enough, Level.rank] at plenty
  have plentyFirst : (phrase .operands).enough lexer.ahead ≤ fuel := by
    simp only [enough, Level.rank]
    omega
  refine (operands.agrees levels plentyFirst).bind fun first middle parsed => ?_
  have nearer := progresses_run fuel .operands parsed
  have bounded := lexer.ahead_le
  have plentyThen : (collect first []).enough middle.ahead ≤ fuel := by
    simp only [enough]
    omega
  exact (further first [] middle levels lexer.unread plentyThen (by omega)).mono (by omega)

/-- The fuel for the three loosest levels is enough for the first phrase of the next tighter one and
for the loop behind it. -/
theorem reaches_leftAssociative (notPowers : level ≠ .powers) (notOperands : level ≠ .operands)
    (tighter : Reaches fuel (phrase level.tighter))
    (further : ∀ tree, Reaches fuel (extend level tree)) :
    Reaches (fuel + 1) (phrase level) := by
  intro lexer levels turns plenty _
  have lower := rank_lt_tighter notOperands
  have bounds := level.tighter.rank_bounds
  simp only [enough] at plenty
  have plentyFirst : (phrase level.tighter).enough lexer.ahead ≤ fuel := by
    simp only [enough]
    omega
  rw [within, ofLevel_eq_leftAssociative notPowers notOperands, leftAssociative_eq,
    run_phrase notPowers notOperands]
  refine (tighter.agrees levels plentyFirst).bind fun first middle parsed => ?_
  have nearer := progresses_run fuel level.tighter parsed
  have bounded := lexer.ahead_le
  have plentyThen : (extend level first).enough middle.ahead ≤ fuel := by
    simp only [enough]
    omega
  exact (further first middle levels lexer.unread plentyThen (by omega)).mono (by omega)

/-- The fuel for a loop is enough for the operand of a turn. -/
theorem reaches_turn {condition : Symbol → Bool} (operands : Reaches fuel (phrase level))
    (tight : 2 ≤ level.rank) (plenty : 5 * lexer.ahead ≤ fuel) :
    Agrees (levels < lexer.ahead) (turn condition (ofLevel level (expression levels)) lexer)
      (turn condition (run fuel (phrase level)) lexer) := by
  refine Agrees.turn fun middle nearer => ?_
  have plentyThen : (phrase level).enough middle.ahead ≤ fuel := by
    simp only [enough]
    omega
  exact (operands.agrees levels plentyThen).mono (by omega)

/-- The fuel for a loop of operators that group to the left is enough for a turn and for the loop
behind it. -/
theorem reaches_extend (tighter : Reaches fuel (phrase level.tighter))
    (further : ∀ tree, Reaches fuel (extend level tree)) (tree : Tree) :
    Reaches (fuel + 1) (extend level tree) := by
  intro lexer levels turns plenty enoughTurns
  simp only [enough] at plenty
  cases turns with
  | nil =>
    have atEnd := Lexer.current_of_ahead (Nat.le_zero.mp enoughTurns)
    rw [run, bind_of_ok (turn_of_other (by simp [atEnd]))]
    exact .pure tree lexer
  | cons item turns =>
    have tight : 2 ≤ level.tighter.rank := by
      cases level <;> decide
    rw [within, extendLeft_cons, run]
    refine (reaches_turn tighter tight (by omega)).bind fun found middle parsed => ?_
    obtain ⟨rfl, rfl⟩ | ⟨s, right, rfl, _, nearer⟩ :=
      turn_cases (progresses_run fuel level.tighter) parsed
    · exact .pure tree middle
    · have plentyThen : (extend level (.branch s.text tree right)).enough middle.ahead ≤ fuel := by
        simp only [enough]
        omega
      rw [List.length_cons] at enoughTurns
      exact (further _ middle levels turns plentyThen (by omega)).mono (by omega)

/-- The same of the loop of powers. -/
theorem reaches_collect (operands : Reaches fuel (phrase .operands))
    (further : ∀ right earlier, Reaches fuel (collect right earlier)) (right : Tree)
    (earlier : List Tree) : Reaches (fuel + 1) (collect right earlier) := by
  intro lexer levels turns plenty enoughTurns
  simp only [enough] at plenty
  cases turns with
  | nil =>
    have atEnd := Lexer.current_of_ahead (Nat.le_zero.mp enoughTurns)
    rw [run, bind_of_ok (turn_of_other (by simp [atEnd]))]
    exact .pure _ lexer
  | cons item turns =>
    rw [within, collectPowers_cons, run]
    refine (reaches_turn operands (by decide) (by omega)).bind fun found middle parsed => ?_
    obtain ⟨rfl, rfl⟩ | ⟨s, next, rfl, _, nearer⟩ :=
      turn_cases (progresses_run fuel .operands) parsed
    · exact .pure _ middle
    · have plentyThen : (collect next (right :: earlier)).enough middle.ahead ≤ fuel := by
        simp only [enough]
        omega
      rw [List.length_cons] at enoughTurns
      exact (further _ _ middle levels turns plentyThen (by omega)).mono (by omega)

/-- The fuel that is enough for a job is never exhausted. The induction is on the fuel: what a job
calls, it calls with one unit less. -/
theorem reaches (fuel : Nat) (job : Job) : Reaches fuel job := by
  induction fuel generalizing job with
  | zero =>
    intro lexer levels turns plenty _
    cases job with
    | phrase level =>
      have bounds := level.rank_bounds
      simp only [enough] at plenty
      omega
    | extend level tree => exact absurd plenty (by simp [enough])
    | collect right earlier => exact absurd plenty (by simp [enough])
  | succ fuel ih =>
    cases job with
    | phrase level =>
      by_cases isOperands : level = .operands
      · subst isOperands
        exact reaches_operands (ih _)
      by_cases isPowers : level = .powers
      · subst isPowers
        exact reaches_powers (ih _) fun right earlier => ih _
      · exact reaches_leftAssociative isPowers isOperands (ih _) fun tree => ih _
    | extend level tree => exact reaches_extend (ih _) (fun tree => ih _) tree
    | collect right earlier =>
      exact reaches_collect (ih _) (fun right earlier => ih _) right earlier

end Job

/-! ## Whole sources -/

/-- A whole source, parsed by plain recursion. -/
def sourceBy (fuel : Nat) : Parser Tree := do
  Lexer.advance
  let tree ← Job.run fuel (.phrase .maxima)
  let _ ← expect .endOfInput
  return tree

/-- A source only advances the lexer. -/
theorem OnlyAdvances.source (limit : Nat) : OnlyAdvances (source limit) := by
  unfold Parser.source
  refine OnlyAdvances.advance.bind fun _ => ?_
  refine ((OnlyAdvances.expression limit).ofLevel .maxima).bind fun tree => ?_
  exact (OnlyAdvances.expect _).bind fun _ => .pure tree

/-- The plain recursion parses a source as the parser does, if its fuel is enough for the pieces. -/
theorem agrees_sourceBy {fuel : Nat} {text : String} (limit : Nat)
    (plenty : 5 * ((Lexer.ofSource text).unreadCount + 1) ≤ fuel) :
    Agrees (limit < (Lexer.ofSource text).unreadCount) (runOn limit text)
      (sourceBy fuel (Lexer.ofSource text)) := by
  refine (Agrees.advance _).bind fun _ first started => ?_
  have ahead := Lexer.ahead_of_advance started
  have plentyThen : (Job.phrase .maxima).enough first.ahead ≤ fuel := by
    simp only [Job.enough, Level.rank]
    omega
  have agrees := (Job.reaches fuel _).agrees limit plentyThen
  exact (agrees.mono (by omega)).bind fun tree middle _ => .expect _ tree middle

/-- The lexer behind a parse notes as many advances as a source with so many pieces takes: two more
than that to accept it, one being the first and one the last, and fewer to refuse it. -/
def Takes (pieces : Nat) : EStateM.Result SyntaxError Lexer Tree → Prop
  | .ok _ last => last.journal.length = pieces + 2
  | .error _ last => last.journal.length ≤ pieces + 1

/-- A parse that fails takes no more than the steps of the source. -/
theorem takes_of_steps {pieces : Nat} {last : Lexer} (error : SyntaxError)
    (steps : last.steps = pieces + 1) : Takes pieces (.error error last) :=
  Nat.le.intro steps

/-- The journal behind a source notes how often it has been advanced. -/
theorem advanceCount_source (limit : Nat) (text : String) :
    (source limit).advanceCount (Lexer.ofSource text) =
      match runOn limit text with
      | .ok _ last => last.journal.length
      | .error _ last => last.journal.length := by
  have ran : source limit (Lexer.ofSource text) = runOn limit text := rfl
  rw [advanceCount, after, ran]
  cases runOn limit text <;> rfl

/-- Only the end of the input is of its kind. -/
theorem kind_eq_endOfInput_iff (token : Token) :
    token.kind = .endOfInput ↔ token = .endOfInput := by
  cases token <;> simp [Token.kind]

/-- The end of the input is stepped over where no steps are left. -/
theorem takes_end {pieces : Nat} {middle : Lexer} (tree : Tree) (ends : middle.EndsInput)
    (steps : middle.steps = pieces + 1) :
    Takes pieces ((expect .endOfInput >>= fun _ => pure tree : Parser Tree) middle) := by
  by_cases isEnd : middle.current.kind = .endOfInput
  · have atEnd := (kind_eq_endOfInput_iff _).mp isEnd
    have nothing := ends atEnd
    have noStep : middle.ahead = 0 := by
      rw [Lexer.ahead, if_pos atEnd, Lexer.unreadCount, nothing, List.countP_nil]
    rw [Lexer.steps, noStep, Nat.add_zero] at steps
    rw [expect_bind_of_eq _ isEnd, bind_of_ok (Lexer.AtEnd.advance_eq ⟨atEnd, nothing⟩)]
    exact congrArg (· + 1) steps
  · rw [expect_bind_of_ne _ isEnd]
    exact takes_of_steps _ steps

/-- The first advance on a source leaves it with one step for each piece, and the one that it is. -/
theorem steps_of_started {text : String} {first : Lexer}
    (started : Lexer.advance (Lexer.ofSource text) = .ok () first) :
    first.steps = (Lexer.ofSource text).unreadCount + 1 := by
  have noted : first.journal.length = 1 := by
    have advanced := (Lexer.ofSource text).length_journal_advanced
    rw [Lexer.advanced, after, started] at advanced
    exact advanced
  rw [Lexer.steps, noted, Lexer.ahead_of_advance started, Nat.add_comm]

/-- The pieces of a source decide how many advances it takes. -/
theorem takes_runOn (limit : Nat) (text : String) :
    Takes (Lexer.ofSource text).unreadCount (runOn limit text) := by
  rw [runOn_eq]
  cases started : Lexer.advance (Lexer.ofSource text) with
  | error error last =>
    have noted := (Lexer.ofSource text).length_journal_advanced
    rw [Lexer.advanced, after, started] at noted
    rw [bind_of_error started]
    exact Nat.le_trans (Nat.le_of_eq noted) (Nat.le_add_left _ _)
  | ok value first =>
    have steps : (after (maxima (expression limit)) first).steps =
        (Lexer.ofSource text).unreadCount + 1 :=
      ((KeepsSteps.expression limit).ofLevel .maxima first).trans (steps_of_started started)
    have ends : (after (maxima (expression limit)) first).EndsInput :=
      Lexer.endsInput_run started [.parse .maxima limit]
    rw [bind_of_ok started]
    cases parsed : maxima (expression limit) first with
    | error error last =>
      rw [after, parsed] at steps
      rw [bind_of_error parsed]
      exact takes_of_steps error steps
    | ok tree middle =>
      rw [after, parsed] at steps ends
      rw [bind_of_ok parsed]
      exact takes_end tree ends steps

/-- The parsers make progress and end. A parser of any level only advances the lexer, each time, be
it that it fails, one token nearer to the end, and at least once if it succeeds. The loops over
operators consist of turns, and a turn that is completed brings the lexer nearer by an operator and
an operand. Plain recursion, whose fuel bounds the calls that are open at once and the turns, never
runs out of a fuel that is linear in the tokens ahead, and the outcome is the same, unless the
parser meets its limit where more tokens are ahead than there are levels left. An advance at the end
of the input consumes nothing. A source is accepted with two advances more than it has pieces that
are no blanks, and refused with fewer. -/
theorem progress_and_end :
    (∀ (level : Level) (levels : Nat) (lexer : Lexer),
      let parser := ofLevel level (expression levels)
      parser.after lexer = Lexer.advanced^[parser.advanceCount lexer] lexer ∧
      parser.advanceCount lexer + (parser.after lexer).ahead = lexer.ahead ∧
      (∀ tree last, parser lexer = .ok tree last → last.ahead < lexer.ahead) ∧
      (∀ condition found last, turn condition parser lexer = .ok (some found) last →
        last.ahead + 2 ≤ lexer.ahead) ∧
      ∀ fuel, 5 * lexer.ahead + 5 ≤ fuel →
        Agrees (levels < lexer.ahead) (parser lexer) (Job.run fuel (.phrase level) lexer)) ∧
    (∀ condition next item turns tree,
      extendLeft condition next (item :: turns) tree =
        turn condition next >>= fun found =>
          match found with
          | none => pure tree
          | some (symbol, right) =>
            extendLeft condition next turns (.branch symbol.text tree right)) ∧
    (∀ next item turns right earlier,
      collectPowers next (item :: turns) right earlier =
        turn (· = .power) next >>= fun found =>
          match found with
          | none => pure (groupPowers right earlier)
          | some (_, further) => collectPowers next turns further (right :: earlier)) ∧
    (∀ lexer : Lexer, lexer.AtEnd →
      Lexer.advance lexer = .ok () ⟨.endOfInput, [], .ok .endOfInput :: lexer.journal⟩) ∧
    ∀ limit text,
      let start := Lexer.ofSource text
      (source limit).after start = Lexer.advanced^[(source limit).advanceCount start] start ∧
      (∀ tree last, runOn limit text = .ok tree last →
        (source limit).advanceCount start = start.unreadCount + 2) ∧
      (∀ error last, runOn limit text = .error error last →
        (source limit).advanceCount start ≤ start.unreadCount + 1) ∧
      ∀ fuel, 5 * (start.unreadCount + 1) ≤ fuel →
        Agrees (limit < start.unreadCount) (runOn limit text) (sourceBy fuel start) := by
  refine ⟨fun level levels lexer => ?_, fun _ _ => extendLeft_cons, fun _ => collectPowers_cons,
    fun _ => Lexer.AtEnd.advance_eq, fun limit text => ?_⟩
  · have only := (OnlyAdvances.expression levels).ofLevel level
    have keeps := (KeepsSteps.expression levels).ofLevel level
    have progresses := progresses_ofLevel (.expression levels) level
    refine ⟨only.after_eq lexer, keeps.advanceCount_add_ahead only lexer,
      fun _ _ parsed => progresses parsed, fun condition found last parsed => ?_,
      fun fuel plenty => ?_⟩
    · obtain ⟨none, _⟩ | ⟨_, _, _, _, nearer⟩ := turn_cases progresses parsed
      · cases none
      · exact nearer
    · have bounds := level.rank_bounds
      refine (Job.reaches fuel _).agrees levels ?_
      simp only [Job.enough]
      omega
  · have takes := takes_runOn limit text
    refine ⟨(OnlyAdvances.source limit).after_eq _, fun tree last accepted => ?_,
      fun error last refused => ?_, fun fuel => agrees_sourceBy limit⟩
    · rw [accepted] at takes
      rw [advanceCount_source, accepted]
      exact takes
    · rw [refused] at takes
      rw [advanceCount_source, refused]
      exact takes

/-- A source of five pieces is accepted with seven advances, and thirty units of fuel are enough for
it. A lone parenthesis is refused with at most two advances. An operand leaves the operator behind
it, and a turn leaves nothing of that operator and the last operand. -/
theorem progress_and_end_enclosed :
    (source 1).advanceCount (Lexer.ofSource "(1)#1") = 7 ∧
      ¬GaveUp (sourceBy 30 (Lexer.ofSource "(1)#1")) ∧
      (source 0).advanceCount (Lexer.ofSource "(") ≤ 2 ∧
      (∃ tree last, ofLevel .operands (expression 0) ⟨.number .one, ["#", "1"], []⟩ =
        .ok tree last ∧ last.ahead < 3) ∧
      (∃ found last, turn Symbol.isMaximum (ofLevel .operands (expression 0))
        ⟨.symbol .maximum, ["1"], []⟩ = .ok (some found) last ∧ last.ahead + 2 ≤ 2) := by
  obtain ⟨levels, _, _, _, sources⟩ := progress_and_end
  obtain ⟨_, accepts, _, ends⟩ := sources 1 "(1)#1"
  obtain ⟨_, _, refuses, _⟩ := sources 0 "("
  obtain ⟨_, _, operand, _, _⟩ := levels .operands 0 ⟨.number .one, ["#", "1"], []⟩
  obtain ⟨_, _, _, turns, _⟩ := levels .operands 0 ⟨.symbol .maximum, ["1"], []⟩
  have five : (Lexer.ofSource "(1)#1").unreadCount = 5 := by decide +kernel
  have accepted : ∃ tree last, runOn 1 "(1)#1" = .ok tree last := by
    have isOk : (parseWithin 1 "(1)#1").toBool = true := by decide +kernel
    cases ran : runOn 1 "(1)#1" with
    | ok tree last => exact ⟨tree, last, rfl⟩
    | error error last =>
      rw [parseWithin, ran] at isOk
      cases isOk
  have moved : Lexer.advance ⟨.symbol .maximum, ["1"], []⟩ =
      .ok () ⟨.number .one, [], [.ok (.number .one)]⟩ := by
    have classified : (Token.ofPiece "1").toOption = some (.number .one) := by decide +kernel
    have noBlank : ["1"].dropWhile Piece.isBlank = ["1"] := by decide +kernel
    cases found : Token.ofPiece "1" with
    | ok token =>
      rw [found] at classified
      cases classified
      simp only [Lexer.advance, noBlank, found]
    | error error =>
      rw [found] at classified
      cases classified
  have turned : turn Symbol.isMaximum (ofLevel .operands (expression 0))
      ⟨.symbol .maximum, ["1"], []⟩ =
        .ok (some (.maximum, .leaf Double.one.text))
          ⟨.endOfInput, [], [.ok .endOfInput, .ok (.number .one)]⟩ :=
    (turn_of_operator rfl rfl).trans (bind_of_ok moved)
  obtain ⟨tree, last, parsed⟩ := accepted
  refine ⟨?_, ?_, refuses (.parse .nestedTooDeeply) _ rfl, ⟨_, _, rfl, operand _ _ rfl⟩,
    ⟨_, _, turned, turns _ _ _ turned⟩⟩
  · rw [accepts tree last parsed, five]
  · exact (ends 30 (by omega)).goesOn

end Parser

end Calculator
