import Calculator.Parser
import Calculator.Proofs.Grammar
import Calculator.Proofs.Reading
import Calculator.Proofs.Scan

/-!
# The descent through the grammar

What every parser of a level does with every lexer: it gives the tree of a phrase of its level and
rests on the first token that cannot continue the phrase, or it fails where the scan fails, with
the same error, and what it has read up to then begins a phrase. The statements are assembled in the
way the parsers are, from one lemma for each way to build a parser from others.
-/

namespace Calculator

/-- The token is one that the error asks for. -/
def ParseError.AsksFor : ParseError → Token → Prop
  | expected kind, token => token.kind = kind
  | expectedOperand, token | nestedTooDeeply, token =>
    token.kind = .number ∨ token = .symbol .openParen

/-- A parser of phrases fails with the error when it is started on a lexer and the scan within the
limit on a state, and it leaves the last lexer behind. What it has read up to then begins a phrase:
a token that cannot stand where it does has not been stepped over, and a piece that is no token has
been read. -/
inductive Fails (limit : Nat) (phrase : List Token → Tree → Prop) (start : Scan.State)
    (lexer : Lexer) : SyntaxError → Lexer → Prop where
  /-- The current token cannot stand here, where one that the error asks for leads to a phrase. -/
  | refused {tokens rest : List Token} {asked : Token} {tree : Tree} {state : Scan.State}
      {error : ParseError} {last : Lexer} (reads : Lexer.Reads lexer tokens last)
      (passes : Scan.Passes (Scan.State.stepWithin limit) start tokens state)
      (refusal : state.stepWithin limit last.current = .error error)
      (asks : error.AsksFor asked) (goesOn : phrase (tokens ++ asked :: rest) tree) :
      Fails limit phrase start lexer (.parse error) last
  /-- The current token can stand here and leads to a phrase, but what follows it is no token. -/
  | unreadable {tokens rest : List Token} {tree : Tree} {state : Scan.State} {error : SyntaxError}
      {middle last : Lexer} (reads : Lexer.Reads lexer tokens middle)
      (passes : Scan.Passes (Scan.State.stepWithin limit) start (tokens ++ [middle.current]) state)
      (advanced : Lexer.advance middle = .error error last)
      (goesOn : phrase (tokens ++ middle.current :: rest) tree) :
      Fails limit phrase start lexer error last

namespace Fails

variable {limit : Nat} {phrase : List Token → Tree → Prop} {start : Scan.State}
  {lexer last : Lexer} {error : SyntaxError}

/-- What fails behind some tokens fails in front of them. -/
theorem behind {next : Scan.State} {middle : Lexer} {front : List Token}
    (reads : Lexer.Reads lexer front middle)
    (passes : Scan.Passes (Scan.State.stepWithin limit) start front next)
    (fails : Fails limit (fun others => phrase (front ++ others)) next middle error last) :
    Fails limit phrase start lexer error last := by
  cases fails with
  | refused further passesOn refusal asks goesOn =>
    rw [← List.append_assoc] at goesOn
    exact refused (reads.append further) (passes.append passesOn) refusal asks goesOn
  | unreadable further passesOn advanced goesOn =>
    have passesAll := passes.append passesOn
    rw [← List.append_assoc] at goesOn passesAll
    exact unreadable (reads.append further) passesAll advanced goesOn

/-- A parser of what may be completed to phrases fails as a parser of phrases. -/
theorem complete {front : List Token → Tree → Prop}
    (fails : Fails limit front start lexer error last)
    (completes : ∀ {tokens tree}, front tokens tree →
      ∃ others whole, phrase (tokens ++ others) whole) :
    Fails limit phrase start lexer error last := by
  cases fails with
  | refused reads passes refusal asks goesOn =>
    obtain ⟨others, whole, isPhrase⟩ := completes goesOn
    rw [List.append_assoc] at isPhrase
    exact refused reads passes refusal asks isPhrase
  | unreadable reads passes advanced goesOn =>
    obtain ⟨others, whole, isPhrase⟩ := completes goesOn
    rw [List.append_assoc] at isPhrase
    exact unreadable reads passes advanced isPhrase

/-- The scan gives the error. -/
theorem runFrom_eq (fails : Fails limit phrase start lexer error last) :
    Scan.runFrom (Scan.State.stepWithin limit) start lexer = .error error := by
  cases fails with
  | refused reads passes refusal => rw [Scan.runFrom_of_reads reads passes, Scan.runFrom, refusal]
  | unreadable reads passes advanced =>
    obtain ⟨state, passesFront, passesLast⟩ := passes.exists_of_append
    cases passesLast with
    | next stepped =>
      rw [Scan.runFrom_of_reads reads passesFront, Scan.runFrom, stepped]
      exact Scan.run_unread_of_error advanced

end Fails

/-- The outcome of a parser is exact for a relation between tokens and trees. Either the parser has
read tokens with their tree, which lead the scan within the limit from the starting state to the
goal, and rests on a token that does not continue a phrase of the level; or it has failed where that
scan fails. -/
inductive Exact (limit : Nat) (phrase : List Token → Tree → Prop) (level : Level)
    (start goal : Scan.State) (lexer : Lexer) :
    EStateM.Result SyntaxError Lexer Tree → Prop where
  /-- The parser has read a phrase. -/
  | accepted {tokens : List Token} {tree : Tree} {last : Lexer} (isPhrase : phrase tokens tree)
      (reads : Lexer.Reads lexer tokens last)
      (passes : Scan.Passes (Scan.State.stepWithin limit) start tokens goal)
      (stops : level.continuedBy last.current = false) :
      Exact limit phrase level start goal lexer (.ok tree last)
  /-- The parser has failed. -/
  | failed {error : SyntaxError} {last : Lexer}
      (fails : Fails limit phrase start lexer error last) :
      Exact limit phrase level start goal lexer (.error error last)

namespace Parser

/-! ## How parsers are run -/

/-- What a parser does behind one that succeeds. -/
theorem bind_of_ok {α β : Type} {first : Parser α} {next : α → Parser β} {lexer middle : Lexer}
    {value : α} (succeeds : first lexer = .ok value middle) :
    (first >>= next) lexer = next value middle := by
  change EStateM.bind first next lexer = next value middle
  rw [EStateM.bind, succeeds]

/-- Nothing follows a parser that fails. -/
theorem bind_of_error {α β : Type} {first : Parser α} {next : α → Parser β} {lexer last : Lexer}
    {error : SyntaxError} (fails : first lexer = .error error last) :
    (first >>= next) lexer = .error error last := by
  change EStateM.bind first next lexer = .error error last
  rw [EStateM.bind, fails]

/-- Parsers that begin alike are alike if what follows where the beginning succeeds is. -/
theorem bind_congr_of_ok {α β : Type} {first : Parser α} {next other : α → Parser β} {lexer : Lexer}
    (same : ∀ value middle, first lexer = .ok value middle →
      next value middle = other value middle) :
    (first >>= next) lexer = (first >>= other) lexer := by
  cases outcome : first lexer with
  | error error last => rw [bind_of_error outcome, bind_of_error outcome]
  | ok value middle => rw [bind_of_ok outcome, bind_of_ok outcome, same value middle outcome]

/-- The outcome of a beginning decides what follows it. -/
theorem bind_congr_of_eq {α β : Type} {first second : Parser α} (next : α → Parser β)
    {lexer other : Lexer} (same : first lexer = second other) :
    (first >>= next) lexer = (second >>= next) other := by
  cases outcome : second other with
  | error error last => rw [bind_of_error (same.trans outcome), bind_of_error outcome]
  | ok value middle => rw [bind_of_ok (same.trans outcome), bind_of_ok outcome]

/-- A source is parsed from its first token on. -/
theorem runOn_eq (limit : Nat) (text : String) :
    runOn limit text =
      (Lexer.advance >>= fun _ => maxima (expression limit) >>= fun tree =>
        expect .endOfInput >>= fun _ => pure tree : Parser Tree) (Lexer.ofSource text) := rfl

/-- A token of the expected kind is stepped over and handed on. -/
theorem expect_bind_of_eq {α : Type} {kind : TokenKind} (next : Token → Parser α) {lexer : Lexer}
    (matching : lexer.current.kind = kind) :
    (expect kind >>= next) lexer = (Lexer.advance >>= fun _ => next lexer.current) lexer := by
  have expected : expect kind lexer =
      (Lexer.advance >>= fun _ => pure lexer.current : Parser Token) lexer := by
    change (if lexer.current.kind = kind then _ else _ : Parser Token) lexer = _
    rw [if_pos matching]
  cases advanced : Lexer.advance lexer with
  | ok value middle =>
    rw [bind_of_ok advanced] at expected ⊢
    exact bind_of_ok expected
  | error error last =>
    rw [bind_of_error advanced] at expected ⊢
    exact bind_of_error expected

/-- A token of another kind is an error. -/
theorem expect_bind_of_ne {α : Type} {kind : TokenKind} (next : Token → Parser α) {lexer : Lexer}
    (other : lexer.current.kind ≠ kind) :
    (expect kind >>= next) lexer = .error (.parse (.expected kind)) lexer := by
  have refused : expect kind lexer = .error (.parse (.expected kind)) lexer := by
    change (if lexer.current.kind = kind then _ else _ : Parser Token) lexer = _
    rw [if_neg other]
    rfl
  exact bind_of_error refused

end Parser

namespace Exact

variable {limit : Nat} {phrase : List Token → Tree → Prop} {level : Level}
  {start middle goal : Scan.State} {lexer : Lexer}

/-- A parser that reads nothing is exact where the phrase may be empty. -/
theorem stop {tree : Tree} (empty : phrase [] tree)
    (stops : level.continuedBy lexer.current = false) :
    Exact limit phrase level goal goal lexer (.ok tree lexer) :=
  accepted empty (.done lexer) (.done goal) stops

/-- A parser that refuses what the scan refuses is exact where a phrase begins with a token that the
error asks for. -/
theorem refuse {error : ParseError} {asked : Token} {rest : List Token} {tree : Tree}
    (refusal : start.stepWithin limit lexer.current = .error error)
    (asks : error.AsksFor asked) (goesOn : phrase (asked :: rest) tree) :
    Exact limit phrase level start goal lexer (.error (.parse error) lexer) :=
  failed (.refused (.done lexer) (.done start) refusal asks goesOn)

/-- A phrase may be replaced by whatever follows from it. -/
theorem mono {other : List Token → Tree → Prop} {result : EStateM.Result SyntaxError Lexer Tree}
    (exact : Exact limit phrase level start goal lexer result)
    (implies : ∀ {tokens tree}, phrase tokens tree → other tokens tree) :
    Exact limit other level start goal lexer result := by
  cases exact with
  | accepted isPhrase reads passes stops => exact accepted (implies isPhrase) reads passes stops
  | failed fails =>
    refine failed (fails.complete fun {tokens tree} isPhrase => ⟨[], tree, ?_⟩)
    rw [List.append_nil]
    exact implies isPhrase

/-- A parser that steps over a token which begins a phrase is exact if the rest of it is exact for
what follows. -/
theorem advance {next : Parser Tree}
    (stepped : start.stepWithin limit lexer.current = .ok middle)
    (begins : ∃ rest tree, phrase (lexer.current :: rest) tree)
    (rest : ∀ following, Lexer.advance lexer = .ok () following →
      Exact limit (fun tokens => phrase (lexer.current :: tokens)) level middle goal following
        (next following)) :
    Exact limit phrase level start goal lexer ((Lexer.advance >>= fun _ => next) lexer) := by
  cases advanced : Lexer.advance lexer with
  | error error last =>
    rw [Parser.bind_of_error advanced]
    obtain ⟨others, tree, goesOn⟩ := begins
    exact failed (.unreadable (.done lexer) (.next stepped (.done middle)) advanced goesOn)
  | ok value following =>
    rw [Parser.bind_of_ok advanced]
    have readsFirst : Lexer.Reads lexer [lexer.current] following :=
      .next advanced (.done following)
    have passesFirst : Scan.Passes (Scan.State.stepWithin limit) start [lexer.current] middle :=
      .next stepped (.done middle)
    have outcome := rest following advanced
    cases found : next following with
    | ok tree last =>
      rw [found] at outcome
      cases outcome with
      | accepted isPhrase reads passes stops =>
        exact accepted isPhrase (readsFirst.append reads) (passesFirst.append passes) stops
    | error error last =>
      rw [found] at outcome
      cases outcome with
      | failed fails => exact failed (fails.behind readsFirst passesFirst)

/-- Two parsers one after the other are exact if the first one is exact for something that may be
completed to a phrase, and the second one for what follows that. -/
theorem bind {front : List Token → Tree → Prop} {inner : Level} {first : Parser Tree}
    {next : Tree → Parser Tree} (head : Exact limit front inner start middle lexer (first lexer))
    (completes : ∀ {tokens tree}, front tokens tree →
      ∃ others whole, phrase (tokens ++ others) whole)
    (rest : ∀ {tokens tree following}, front tokens tree → Lexer.Reads lexer tokens following →
      inner.continuedBy following.current = false →
        Exact limit (fun others => phrase (tokens ++ others)) level middle goal following
          (next tree following)) :
    Exact limit phrase level start goal lexer ((first >>= next) lexer) := by
  cases parsed : first lexer with
  | error error last =>
    rw [parsed] at head
    rw [Parser.bind_of_error parsed]
    cases head with
    | failed fails => exact failed (fails.complete completes)
  | ok tree following =>
    rw [parsed] at head
    rw [Parser.bind_of_ok parsed]
    cases head with
    | accepted isFront reads passes stops =>
      have outcome := rest isFront reads stops
      cases found : next tree following with
      | ok whole last =>
        rw [found] at outcome
        cases outcome with
        | accepted isPhrase further passesOn stopsThere =>
          exact accepted isPhrase (reads.append further) (passes.append passesOn) stopsThere
      | error error last =>
        rw [found] at outcome
        cases outcome with
        | failed fails => exact failed (fails.behind reads passes)

end Exact

namespace Parser

variable {limit : Nat}

/-! ## Operands -/

/-- An operand that is a number. -/
theorem operand_of_number (inner : Parser Tree) {lexer : Lexer} {value : Double}
    (isNumber : lexer.current = .number value) :
    operand inner lexer =
      (Lexer.advance >>= fun _ => pure (.leaf value.text) : Parser Tree) lexer := by
  obtain ⟨current, unread, journal⟩ := lexer
  cases isNumber
  rfl

/-- An operand that is an expression in parentheses. -/
theorem operand_of_openParen (inner : Parser Tree) {lexer : Lexer}
    (isOpen : lexer.current = .symbol .openParen) :
    operand inner lexer =
      (Lexer.advance >>= fun _ => inner >>= fun tree =>
        expect (.symbol .closeParen) >>= fun _ => pure tree : Parser Tree) lexer := by
  obtain ⟨current, unread, journal⟩ := lexer
  cases isOpen
  rfl

/-- No other token begins an operand. -/
theorem operand_of_other (inner : Parser Tree) {lexer : Lexer}
    (notNumber : ∀ value, lexer.current ≠ .number value)
    (notOpen : lexer.current ≠ .symbol .openParen) :
    operand inner lexer = .error (.parse .expectedOperand) lexer := by
  obtain ⟨current, unread, journal⟩ := lexer
  cases current with
  | number value => exact absurd rfl (notNumber value)
  | symbol s =>
    cases s with
    | openParen => exact absurd rfl notOpen
    | _ => rfl
  | endOfInput => rfl

/-- Some token ends the expression inside so many open parentheses. -/
theorem exists_kind_closing (opened : Nat) :
    ∃ token : Token, token.kind = Scan.State.closing opened := by
  cases opened with
  | zero => exact ⟨.endOfInput, rfl⟩
  | succ opened => exact ⟨.symbol .closeParen, rfl⟩

/-- Stepping over what ends an expression is exact behind one. -/
theorem exact_expect {phrase : List Token → Tree → Prop} {opened : Nat} {lexer : Lexer}
    {tree : Tree} (stops : lexer.current.isOperator = false)
    (ending : ∀ token, token.kind = Scan.State.closing opened → phrase [token] tree) :
    Exact limit phrase .operands (.afterOperand opened) (.afterOperand (opened - 1)) lexer
      ((expect (Scan.State.closing opened) >>= fun _ => pure tree : Parser Tree) lexer) := by
  have unlimited : (Scan.State.afterOperand opened).stepWithin limit lexer.current =
      (Scan.State.afterOperand opened).step lexer.current := rfl
  by_cases matching : lexer.current.kind = Scan.State.closing opened
  · rw [expect_bind_of_eq _ matching]
    have stepped : (Scan.State.afterOperand opened).step lexer.current =
        .ok (.afterOperand (opened - 1)) := by
      simp [Scan.State.step, stops, matching]
    exact .advance (unlimited.trans stepped) ⟨[], tree, ending lexer.current matching⟩
      fun following _ => .stop (ending lexer.current matching)
        (Level.continuedBy_operands following.current)
  · rw [expect_bind_of_ne _ matching]
    obtain ⟨asked, asks⟩ := exists_kind_closing opened
    exact .refuse (unlimited.trans (Scan.State.step_error stops matching)) asks
      (ending asked asks)

/-- Operands are exact if what stands in parentheses is. -/
theorem exact_operand {opened : Nat} {inner : Parser Tree} (within : opened ≤ limit)
    (exactInner : ∀ lexer, Exact limit (Derives .maxima) .maxima (.beforeOperand (opened + 1))
      (.afterOperand (opened + 1)) lexer (inner lexer)) (lexer : Lexer) :
    Exact limit (Derives .operands) .operands (.beforeOperand opened) (.afterOperand opened) lexer
      (operand inner lexer) := by
  have unlimited : (Scan.State.beforeOperand opened).stepWithin limit lexer.current =
      (Scan.State.beforeOperand opened).step lexer.current :=
    Scan.State.stepWithin_eq within lexer.current
  cases current : lexer.current with
  | number value =>
    rw [operand_of_number inner current]
    have isPhrase : Derives .operands [lexer.current] (.leaf value.text) := by
      rw [current]
      exact .number value
    exact .advance (unlimited.trans (by rw [current]; rfl)) ⟨[], _, isPhrase⟩ fun following _ =>
      .stop isPhrase (Level.continuedBy_operands following.current)
  | endOfInput =>
    rw [operand_of_other inner (by simp [current]) (by simp [current])]
    exact .refuse (unlimited.trans (by rw [current]; rfl)) (.inl rfl) (.number .one)
  | symbol s =>
    by_cases isOpen : s = .openParen
    · subst isOpen
      rw [operand_of_openParen inner current]
      have enclosed : ∀ {tokens tree}, Derives .maxima tokens tree →
          Derives .operands (lexer.current :: (tokens ++ [.symbol .closeParen])) tree := by
        intro tokens tree expression
        rw [current]
        exact .enclosed expression
      refine .advance (unlimited.trans (by rw [current]; rfl))
        ⟨_, _, enclosed (.ofNumber .maxima .one)⟩ fun following _ => ?_
      refine .bind (exactInner following) (fun {tokens tree} expression =>
        ⟨_, tree, enclosed expression⟩) fun {tokens tree behind} expression _ stops => ?_
      rw [Level.continuedBy_maxima] at stops
      refine exact_expect stops fun token isClose => ?_
      have isClosing : token = .symbol .closeParen := by
        cases token with
        | symbol t => cases isClose; rfl
        | _ => cases isClose
      rw [isClosing]
      exact enclosed expression
    · rw [operand_of_other inner (by simp [current]) (by simpa [current] using isOpen)]
      refine .refuse (unlimited.trans ?_) (.inl rfl) (.number .one)
      rw [current]
      cases s with
      | openParen => exact absurd rfl isOpen
      | _ => rfl

/-! ## Operators -/

/-- Behind a phrase the lexer is nearer to its end than before it. -/
theorem ahead_of_phrase {level : Level} {tokens : List Token} {tree : Tree} {lexer behind : Lexer}
    (phrase : Derives level tokens tree) (reads : Lexer.Reads lexer tokens behind) :
    behind.ahead < lexer.ahead := by
  have counted := reads.ahead_eq phrase.endOfInput_not_mem
  have nonempty := List.length_pos_iff.mpr phrase.ne_nil
  omega

/-- A symbol that satisfies the condition is found. -/
theorem symbolWhere?_of_holds {condition : Symbol → Bool} {lexer : Lexer} {s : Symbol}
    (isSymbol : lexer.current = .symbol s) (holds : condition s = true) :
    symbolWhere? condition lexer = .ok (some s) lexer := by
  obtain ⟨current, unread, journal⟩ := lexer
  cases isSymbol
  change EStateM.Result.ok (if condition s then some s else none) _ = _
  rw [if_pos holds]

/-- No other token is found. -/
theorem symbolWhere?_of_other {condition : Symbol → Bool} {lexer : Lexer}
    (other : ∀ s, lexer.current = .symbol s → condition s = false) :
    symbolWhere? condition lexer = .ok none lexer := by
  obtain ⟨current, unread, journal⟩ := lexer
  cases current with
  | symbol s =>
    change EStateM.Result.ok (if condition s then some s else none) _ = _
    rw [other s rfl]
    rfl
  | _ => rfl

/-- A turn at an operator reads it and the operand behind it. -/
theorem extendLeft_of_operator {condition : Symbol → Bool} {next : Parser Tree} {turn : String}
    {turns : List String} {tree : Tree} {lexer : Lexer} {s : Symbol}
    (isSymbol : lexer.current = .symbol s) (holds : condition s = true) :
    extendLeft condition next (turn :: turns) tree lexer =
      (Lexer.advance >>= fun _ => next >>= fun right =>
        extendLeft condition next turns (.branch s.text tree right) : Parser Tree) lexer :=
  bind_of_ok (symbolWhere?_of_holds isSymbol holds)

/-- No other token lets a loop go on. -/
theorem extendLeft_of_other {condition : Symbol → Bool} {next : Parser Tree}
    {turns : List String} {tree : Tree} {lexer : Lexer}
    (other : ∀ s, lexer.current = .symbol s → condition s = false) :
    extendLeft condition next turns tree lexer = .ok tree lexer := by
  cases turns with
  | nil => rfl
  | cons turn turns => exact bind_of_ok (symbolWhere?_of_other other)

section LeftAssociative

variable (level : Level) {opened : Nat} {condition : Symbol → Bool} {next : Parser Tree}

/-- A loop over the operators of a level is exact for what continues a phrase of the level, if it
may take as many turns as there are tokens ahead. -/
theorem exact_extendLeft (agrees : ∀ s, condition s = decide (s.level? = some level))
    (notPower : level ≠ .powers)
    (exactNext : ∀ lexer, Exact limit (Derives level.tighter) level.tighter (.beforeOperand opened)
      (.afterOperand opened) lexer (next lexer))
    {turns : List String} {tree : Tree} {lexer : Lexer} (enough : lexer.ahead ≤ turns.length)
    (stops : level.tighter.continuedBy lexer.current = false) :
    Exact limit (Continues level tree) level (.afterOperand opened) (.afterOperand opened) lexer
      (extendLeft condition next turns tree lexer) := by
  induction turns generalizing tree lexer with
  | nil =>
    have atEnd : lexer.current = .endOfInput := Lexer.current_of_ahead (Nat.le_zero.mp enough)
    exact .stop .done (by rw [atEnd]; rfl)
  | cons turn turns ih =>
    by_cases going : ∃ s, lexer.current = .symbol s ∧ s.level? = some level
    · obtain ⟨s, isSymbol, operator⟩ := going
      have holds : condition s = true := by rw [agrees, operator]; simp
      have isOperator : lexer.current.isOperator = true := by
        simp [isSymbol, Token.isOperator, operator]
      rw [extendLeft_of_operator isSymbol holds]
      have oneMore : ∀ {tokens right}, Derives level.tighter tokens right →
          Continues level tree (lexer.current :: (tokens ++ [])) (.branch s.text tree right) := by
        intro tokens right operand
        rw [isSymbol]
        exact .left operator notPower operand .done
      refine .advance (Scan.State.step_operator isOperator)
        ⟨_, _, oneMore (.ofNumber level.tighter .one)⟩ fun following advanced => ?_
      refine .bind (exactNext following) (fun operand => ⟨[], _, oneMore operand⟩)
        fun {tokens right behind} operand reads stopsThere => ?_
      have notAtEnd : lexer.current ≠ .endOfInput := by simp [isSymbol]
      have nearer := Lexer.ahead_advance notAtEnd advanced
      have nearerStill := ahead_of_phrase operand reads
      rw [List.length_cons] at enough
      rw [isSymbol]
      exact (ih (by omega) stopsThere).mono fun further => .left operator notPower operand further
    · have other : ∀ s, lexer.current = .symbol s → s.level? ≠ some level := by
        intro s isSymbol operator
        exact going ⟨s, isSymbol, operator⟩
      rw [extendLeft_of_other fun s isSymbol => by rw [agrees, decide_eq_false (other s isSymbol)]]
      refine .stop .done ?_
      cases current : lexer.current with
      | symbol s =>
        rw [current] at stops
        rw [Level.continuedBy_symbol, stops, decide_eq_false (other s current)]
        rfl
      | _ => rfl

/-- A level whose operators group to the left is exact if the tighter level is. -/
theorem exact_leftAssociative (agrees : ∀ s, condition s = decide (s.level? = some level))
    (notPower : level ≠ .powers) (notOperands : level ≠ .operands)
    (exactNext : ∀ lexer, Exact limit (Derives level.tighter) level.tighter (.beforeOperand opened)
      (.afterOperand opened) lexer (next lexer)) (lexer : Lexer) :
    Exact limit (Derives level) level (.beforeOperand opened) (.afterOperand opened) lexer
      (leftAssociative condition next lexer) := by
  change Exact limit _ _ _ _ _ ((next >>= fun first =>
    extendLeft condition next lexer.unread first) lexer)
  have alone : ∀ {tokens tree}, Derives level.tighter tokens tree →
      Derives level (tokens ++ []) tree := by
    intro tokens tree operand
    rw [List.append_nil]
    exact .alone notOperands operand
  refine .bind (exactNext lexer) (fun operand => ⟨[], _, alone operand⟩)
    fun {tokens first following} operand reads stops => ?_
  have nearer := ahead_of_phrase operand reads
  have bounded := lexer.ahead_le
  refine (exact_extendLeft level agrees notPower exactNext (by omega) stops).mono fun further => ?_
  exact further.derives_of_notPower notPower (.alone notOperands operand)

end LeftAssociative

/-- A turn at a power reads it and the operand behind it. -/
theorem collectPowers_of_power {next : Parser Tree} {turn : String} {turns : List String}
    {last : Tree} {earlier : List Tree} {lexer : Lexer} (isPower : lexer.current = .symbol .power) :
    collectPowers next (turn :: turns) last earlier lexer =
      (Lexer.advance >>= fun _ => next >>= fun right =>
        collectPowers next turns right (last :: earlier) : Parser Tree) lexer := by
  obtain ⟨current, unread, journal⟩ := lexer
  cases isPower
  rfl

/-- No other token lets the collection go on. -/
theorem collectPowers_of_other {next : Parser Tree} {turns : List String} {last : Tree}
    {earlier : List Tree} {lexer : Lexer} (other : lexer.current ≠ .symbol .power) :
    collectPowers next turns last earlier lexer = .ok (groupPowers last earlier) lexer := by
  cases turns with
  | nil => rfl
  | cons turn turns =>
    change (if lexer.current = .symbol .power then _ else _ : Parser Tree) lexer = _
    rw [if_neg other]
    rfl

/-- The collection of operands is exact for what continues the last one, with the earlier ones
joined to its tree, if it may take as many turns as there are tokens ahead. -/
theorem exact_collectPowers {opened : Nat} {next : Parser Tree}
    (exactNext : ∀ lexer, Exact limit (Derives .operands) .operands (.beforeOperand opened)
      (.afterOperand opened) lexer (next lexer))
    {turns : List String} {last : Tree} {earlier : List Tree} {lexer : Lexer}
    (enough : lexer.ahead ≤ turns.length) :
    Exact limit (fun tokens whole => ∃ tree, Continues .powers last tokens tree ∧
        whole = groupPowers tree earlier)
      .powers (.afterOperand opened) (.afterOperand opened) lexer
      (collectPowers next turns last earlier lexer) := by
  induction turns generalizing last earlier lexer with
  | nil =>
    have atEnd : lexer.current = .endOfInput := Lexer.current_of_ahead (Nat.le_zero.mp enough)
    exact .stop ⟨last, .done, rfl⟩ (by rw [atEnd]; rfl)
  | cons turn turns ih =>
    by_cases isPower : lexer.current = .symbol .power
    · rw [collectPowers_of_power isPower]
      have isOperator : lexer.current.isOperator = true := by rw [isPower]; rfl
      have oneMore : ∀ {tokens right}, Derives .operands tokens right →
          ∃ whole tree, Continues .powers last (lexer.current :: (tokens ++ [])) tree ∧
            whole = groupPowers tree earlier := by
        intro tokens right operand
        rw [isPower]
        exact ⟨_, _, .right operand .done, rfl⟩
      refine .advance (Scan.State.step_operator isOperator)
        ⟨_, oneMore (.number .one)⟩ fun following advanced => ?_
      refine .bind (exactNext following) (fun operand => ⟨[], oneMore operand⟩)
        fun {tokens right behind} operand reads _ => ?_
      have notAtEnd : lexer.current ≠ .endOfInput := by simp [isPower]
      have nearer := Lexer.ahead_advance notAtEnd advanced
      have nearerStill := ahead_of_phrase operand reads
      rw [List.length_cons] at enough
      refine (ih (by omega)).mono ?_
      rintro others whole ⟨tree, further, rfl⟩
      rw [isPower]
      exact ⟨_, .right operand further, rfl⟩
    · rw [collectPowers_of_other isPower]
      refine .stop ⟨last, .done, rfl⟩ ?_
      cases current : lexer.current with
      | symbol s =>
        cases s with
        | power => exact absurd current isPower
        | _ => rfl
      | _ => rfl

/-! ## Levels -/

section Levels

variable {opened : Nat} {inner : Parser Tree} (within : opened ≤ limit)
  (exactInner : ∀ lexer, Exact limit (Derives .maxima) .maxima (.beforeOperand (opened + 1))
    (.afterOperand (opened + 1)) lexer (inner lexer))

include within exactInner

/-- Powers are exact if what stands in parentheses is. -/
theorem exact_powers (lexer : Lexer) :
    Exact limit (Derives .powers) .powers (.beforeOperand opened) (.afterOperand opened) lexer
      (powers inner lexer) := by
  have exactOperand := exact_operand within exactInner
  change Exact limit _ _ _ _ _ ((operand inner >>= fun first =>
    collectPowers (operand inner) lexer.unread first []) lexer)
  refine .bind (exactOperand lexer) (fun {tokens tree} base => ⟨[], tree, ?_⟩)
    fun {tokens first following} base reads _ => ?_
  · rw [List.append_nil]
    exact .alone (by decide) base
  have nearer := ahead_of_phrase base reads
  have bounded := lexer.ahead_le
  refine (exact_collectPowers exactOperand (by omega)).mono ?_
  rintro others whole ⟨tree, further, rfl⟩
  exact further.derives_powers base

/-- Products are exact if what stands in parentheses is. -/
theorem exact_products (lexer : Lexer) :
    Exact limit (Derives .products) .products (.beforeOperand opened) (.afterOperand opened) lexer
      (products inner lexer) :=
  exact_leftAssociative .products (by intro s; cases s <;> rfl) (by decide) (by decide)
    (exact_powers within exactInner) lexer

/-- Sums are exact if what stands in parentheses is. -/
theorem exact_sums (lexer : Lexer) :
    Exact limit (Derives .sums) .sums (.beforeOperand opened) (.afterOperand opened) lexer
      (sums inner lexer) :=
  exact_leftAssociative .sums (by intro s; cases s <;> rfl) (by decide) (by decide)
    (exact_products within exactInner) lexer

/-- Maxima are exact if what stands in parentheses is. -/
theorem exact_maxima (lexer : Lexer) :
    Exact limit (Derives .maxima) .maxima (.beforeOperand opened) (.afterOperand opened) lexer
      (maxima inner lexer) :=
  exact_leftAssociative .maxima (by intro s; cases s <;> rfl) (by decide) (by decide)
    (exact_sums within exactInner) lexer

end Levels

/-- Expressions are exact inside as many parentheses as the levels that are left allow. -/
theorem exact_expression {levels opened : Nat} (together : opened + levels = limit + 1)
    (lexer : Lexer) :
    Exact limit (Derives .maxima) .maxima (.beforeOperand opened) (.afterOperand opened) lexer
      (expression levels lexer) := by
  induction levels generalizing opened lexer with
  | zero =>
    have tooDeep : limit < opened := by omega
    exact .refuse (if_pos tooDeep) (.inl rfl) (.ofNumber .maxima .one)
  | succ levels ih => exact exact_maxima (by omega) (ih (by omega)) lexer

/-- The expression that no parentheses enclose is exact. -/
theorem exact_outermost (lexer : Lexer) :
    Exact limit (Derives .maxima) .maxima (.beforeOperand 0) (.afterOperand 0) lexer
      (maxima (expression limit) lexer) :=
  exact_maxima (Nat.zero_le limit) (exact_expression (Nat.add_comm 1 limit)) lexer

end Parser

end Calculator
