import Calculator.Proofs.LexerRuns
import Calculator.Token.Entry

/-!
# Chains of powers

The grammar writes powers as a recursive rule: an operand, and behind a power sign the rule again.
The parser of powers is a loop instead, which first collects the operands of a whole chain and then
groups them from the right. Since every operand brings a lexer nearer to its end, the rule has
exactly one solution, and the main statement is that the loop is that solution, inside parentheses
of every depth. It also keeps the operands and the operators of a chain apart, in two lists, and
shows that the grouping never lacks an operand.
-/

namespace Calculator

/-! ## Progress -/

namespace Lexer

/-- An advance that fails brings a lexer nearer to its end too, since it has read a piece. -/
theorem ahead_of_advance_error {lexer last : Lexer} {error : SyntaxError}
    (failed : advance lexer = .error error last) : last.ahead + 1 = lexer.ahead := by
  obtain ⟨blanks, piece, _, allBlank, apart, noBlank, _⟩ := advance_error_cases failed
  have oneLess : lexer.unreadCount = last.unreadCount + 1 :=
    unreadCount_of_piece allBlank apart noBlank
  rw [ahead, ahead, oneLess, current_of_advance_error failed]
  omega

/-- An advance, be it that it fails, never takes a lexer away from its end. -/
theorem ahead_advanced_le (lexer : Lexer) : lexer.advanced.ahead ≤ lexer.ahead := by
  rw [advanced, Parser.after]
  cases moved : advance lexer with
  | ok value next => exact ahead_of_advance moved ▸ Nat.le_add_right _ _
  | error error last => exact Nat.le.intro (ahead_of_advance_error moved)

end Lexer

namespace Parser

/-- What only advances a lexer never takes it away from its end. -/
theorem OnlyAdvances.ahead_le {α : Type} {parser : Parser α} (advances : OnlyAdvances parser)
    {lexer last : Lexer} {value : α} (parsed : parser lexer = .ok value last) :
    last.ahead ≤ lexer.ahead := by
  obtain ⟨count, reached⟩ := advances lexer
  have isLast : parser.after lexer = last := by rw [after, parsed]
  rw [← isLast, reached]
  clear reached isLast
  induction count with
  | zero => exact Nat.le_refl _
  | succ count ih =>
    rw [Function.iterate_succ_apply']
    exact Nat.le_trans (Lexer.ahead_advanced_le _) ih

/-- The parser, where it succeeds, leaves the lexer nearer to its end. -/
def Progresses (parser : Parser Tree) : Prop :=
  ∀ ⦃lexer : Lexer⦄ ⦃tree : Tree⦄ ⦃last : Lexer⦄,
    parser lexer = .ok tree last → last.ahead < lexer.ahead

/-- To step over a token that is not the end of the input brings a lexer nearer to it, whatever
follows. -/
theorem ahead_lt_of_advance {rest : Parser Tree} (advances : OnlyAdvances rest)
    {lexer last : Lexer} {tree : Tree} (notAtEnd : lexer.current ≠ .endOfInput)
    (parsed : (Lexer.advance >>= fun _ => rest) lexer = .ok tree last) :
    last.ahead < lexer.ahead := by
  cases moved : Lexer.advance lexer with
  | error error stuck =>
    rw [bind_of_error moved] at parsed
    cases parsed
  | ok value next =>
    rw [bind_of_ok moved] at parsed
    have oneLess := Lexer.ahead_advance notAtEnd moved
    have noMore := advances.ahead_le parsed
    omega

/-- Operands bring a lexer nearer to its end. -/
theorem progresses_operand {inner : Parser Tree} (content : OnlyAdvances inner) :
    Progresses (operand inner) := by
  intro lexer tree last parsed
  cases current : lexer.current with
  | number value =>
    rw [operand_of_number inner current] at parsed
    exact ahead_lt_of_advance (.pure _) (by simp [current]) parsed
  | endOfInput =>
    rw [operand_of_other inner (by simp [current]) (by simp [current])] at parsed
    cases parsed
  | symbol s =>
    by_cases isOpen : s = .openParen
    · rw [operand_of_openParen inner (by rw [current, isOpen])] at parsed
      have advances : OnlyAdvances (inner >>= fun tree =>
          expect (.symbol .closeParen) >>= fun _ => pure tree) :=
        content.bind fun tree => (OnlyAdvances.expect _).bind fun _ => .pure tree
      exact ahead_lt_of_advance advances (by simp [current]) parsed
    · rw [operand_of_other inner (by simp [current]) (by simpa [current] using isOpen)] at parsed
      cases parsed

/-! ## The rule -/

/-- The rule of powers, as a step from the parser that stands for the rule behind a power sign. -/
def powerRule (operand rule : Parser Tree) : Parser Tree := do
  let base ← operand
  if (← look) = .symbol .power then
    let _ ← expect (.symbol .power)
    let exponent ← rule
    return .branch Symbol.power.text base exponent
  else return base

variable {next rule other : Parser Tree} {lexer middle : Lexer} {base : Tree}

/-- A token is a power sign exactly if its kind is that of power signs. -/
theorem kind_eq_power_iff (token : Token) :
    token.kind = .symbol .power ↔ token = .symbol .power := by
  cases token <;> simp [Token.kind]

/-- Without its operand the rule fails. -/
theorem powerRule_of_error {error : SyntaxError} (failed : next lexer = .error error middle) :
    powerRule next rule lexer = .error error middle :=
  bind_of_error failed

/-- An operand alone is all of it where no power sign follows. -/
theorem powerRule_of_other (parsed : next lexer = .ok base middle)
    (noPower : middle.current ≠ .symbol .power) :
    powerRule next rule lexer = .ok base middle := by
  have otherKind : middle.current.kind ≠ .symbol .power :=
    fun same => noPower ((kind_eq_power_iff _).mp same)
  refine (bind_of_ok parsed).trans ?_
  change (if middle.current.kind = .symbol .power then _ else _ : Parser Tree) middle = _
  rw [if_neg otherKind]
  rfl

/-- Behind an operand and a power sign the rule is applied again. -/
theorem powerRule_of_power (parsed : next lexer = .ok base middle)
    (isPower : middle.current = .symbol .power) :
    powerRule next rule lexer =
      (Lexer.advance >>= fun _ => rule >>= fun exponent =>
        pure (.branch Symbol.power.text base exponent) : Parser Tree) middle := by
  have sameKind : middle.current.kind = .symbol .power := (kind_eq_power_iff _).mpr isPower
  refine (bind_of_ok parsed).trans ?_
  change (if middle.current.kind = .symbol .power then _ else _ : Parser Tree) middle = _
  rw [if_pos sameKind]
  exact expect_bind_of_eq _ sameKind

/-- The rule at a lexer depends only on what stands for it at lexers that are nearer to the end. -/
theorem powerRule_congr (progresses : Progresses next)
    (agree : ∀ nearer : Lexer, nearer.ahead < lexer.ahead → rule nearer = other nearer) :
    powerRule next rule lexer = powerRule next other lexer := by
  cases parsed : next lexer with
  | error error last => rw [powerRule_of_error parsed, powerRule_of_error parsed]
  | ok base middle =>
    have nearer := progresses parsed
    by_cases isPower : middle.current = .symbol .power
    · rw [powerRule_of_power parsed isPower, powerRule_of_power parsed isPower]
      refine bind_congr_of_ok fun _ following moved => bind_congr_of_eq _ ?_
      have notAtEnd : middle.current ≠ .endOfInput := by simp [isPower]
      have oneLess := Lexer.ahead_advance notAtEnd moved
      exact agree following (by omega)
    · rw [powerRule_of_other parsed isPower, powerRule_of_other parsed isPower]

/-- The rule has at most one solution. -/
theorem powerRule_unique (progresses : Progresses next) (solves : rule = powerRule next rule)
    (otherSolves : other = powerRule next other) : rule = other := by
  have upTo : ∀ bound, ∀ lexer : Lexer, lexer.ahead < bound → rule lexer = other lexer := by
    intro bound
    induction bound with
    | zero => exact fun lexer below => absurd below (Nat.not_lt_zero _)
    | succ bound ih =>
      intro lexer below
      rw [solves, otherSolves]
      exact powerRule_congr progresses fun nearer before => ih nearer (by omega)
  exact funext fun lexer => upTo (lexer.ahead + 1) lexer (Nat.lt_succ_self _)

/-! ## The loop -/

/-- Of the turns that a collection may take only as many matter as there are tokens ahead. -/
theorem collectPowers_turns (progresses : Progresses next) {turns otherTurns : List String}
    {last : Tree} {earlier : List Tree} {lexer : Lexer} (enough : lexer.ahead ≤ turns.length)
    (otherEnough : lexer.ahead ≤ otherTurns.length) :
    collectPowers next turns last earlier lexer =
      collectPowers next otherTurns last earlier lexer := by
  induction turns generalizing otherTurns last earlier lexer with
  | nil =>
    have atEnd := Lexer.current_of_ahead (Nat.le_zero.mp enough)
    rw [collectPowers_of_other (by simp [atEnd]), collectPowers_of_other (by simp [atEnd])]
  | cons turn turns ih =>
    by_cases isPower : lexer.current = .symbol .power
    · have notAtEnd : lexer.current ≠ .endOfInput := by simp [isPower]
      cases otherTurns with
      | nil => exact absurd (Lexer.current_of_ahead (Nat.le_zero.mp otherEnough)) notAtEnd
      | cons otherTurn otherTurns =>
        rw [collectPowers_of_power isPower, collectPowers_of_power isPower]
        refine bind_congr_of_ok fun _ following moved =>
          bind_congr_of_ok fun right behind parsed => ?_
        have oneLess := Lexer.ahead_advance notAtEnd moved
        have nearer := progresses parsed
        rw [List.length_cons] at enough otherEnough
        exact ih (by omega) (by omega)
    · rw [collectPowers_of_other isPower, collectPowers_of_other isPower]

/-- The first operand of a collection joins the tree of what is collected behind it. -/
theorem collectPowers_first (turns : List String) (last first : Tree) (earlier : List Tree) :
    collectPowers next turns last (earlier ++ [first]) =
      (collectPowers next turns last earlier >>= fun exponent =>
        pure (.branch Symbol.power.text first exponent) : Parser Tree) := by
  have grouped : ∀ last earlier, groupPowers last (earlier ++ [first]) =
      .branch Symbol.power.text first (groupPowers last earlier) := by
    intro last earlier
    rw [groupPowers, List.foldl_append]
    rfl
  induction turns generalizing last earlier with
  | nil => rw [collectPowers, collectPowers, grouped, pure_bind]
  | cons turn turns ih =>
    rw [collectPowers, collectPowers, bind_assoc]
    congr 1
    funext token
    split
    · simp only [bind_assoc, ← List.cons_append, ih]
    · rw [grouped, pure_bind]

/-- Powers are an operand and what is collected behind it. -/
theorem powers_eq (inner : Parser Tree) (lexer : Lexer) :
    powers inner lexer = (operand inner >>= fun first =>
      collectPowers (operand inner) lexer.unread first []) lexer := rfl

/-- What is collected behind an operand and a power sign is the operand joined to the powers that
stand there, if the collection may take enough turns. -/
theorem collectPowers_eq_powers {inner : Parser Tree} (progresses : Progresses (operand inner))
    {turns : List String} (enough : lexer.ahead ≤ turns.length + 1) :
    (operand inner >>= fun right => collectPowers (operand inner) turns right [base]) lexer =
      (powers inner >>= fun exponent =>
        pure (.branch Symbol.power.text base exponent) : Parser Tree) lexer := by
  have whole := powers_eq inner lexer
  cases parsed : operand inner lexer with
  | error error stuck =>
    rw [bind_of_error parsed] at whole ⊢
    rw [bind_of_error whole]
  | ok right behind =>
    have nearer := progresses parsed
    have bounded := lexer.ahead_le
    rw [bind_of_ok parsed] at whole ⊢
    have joined : collectPowers (operand inner) turns right [base] =
        (collectPowers (operand inner) turns right [] >>= fun exponent =>
          pure (.branch Symbol.power.text base exponent)) := collectPowers_first turns right base []
    have sameTurns : collectPowers (operand inner) turns right [] behind =
        collectPowers (operand inner) lexer.unread right [] behind :=
      collectPowers_turns progresses (by omega) (by omega)
    rw [joined]
    exact bind_congr_of_eq _ (sameTurns.trans whole.symm)

/-- The loop obeys the rule. -/
theorem powers_eq_powerRule {inner : Parser Tree} (content : OnlyAdvances inner) :
    powers inner = powerRule (operand inner) (powers inner) := by
  have progresses := progresses_operand content
  funext lexer
  cases parsed : operand inner lexer with
  | error error stuck => rw [powers_eq, bind_of_error parsed, powerRule_of_error parsed]
  | ok base middle =>
    rw [powers_eq, bind_of_ok parsed]
    by_cases isPower : middle.current = .symbol .power
    · have notAtEnd : middle.current ≠ .endOfInput := by simp [isPower]
      have nearer := progresses parsed
      have bounded := lexer.ahead_le
      rw [powerRule_of_power parsed isPower]
      cases unread : lexer.unread with
      | nil =>
        -- The operand was the last token then, and no power sign could follow it.
        rw [unread, List.length_nil] at bounded
        exact absurd (Lexer.current_of_ahead (by omega)) notAtEnd
      | cons turn turns =>
        rw [unread, List.length_cons] at bounded
        rw [collectPowers_of_power isPower]
        refine bind_congr_of_ok fun _ following moved => ?_
        have oneLess := Lexer.ahead_advance notAtEnd moved
        exact collectPowers_eq_powers progresses (by omega)
    · rw [collectPowers_of_other isPower, powerRule_of_other parsed isPower]
      rfl

/-! ## The whole grammar -/

/-- Expressions whose powers are parsed as given, for each number of parentheses that may still be
opened. -/
def expressionBy (rule : Nat → Parser Tree) : Nat → Parser Tree
  | 0 => throw (.parse .nestedTooDeeply)
  | levels + 1 =>
    leftAssociative Symbol.isMaximum
      (leftAssociative Symbol.isSum (leftAssociative Symbol.isProduct (rule levels)))

/-- With the loop for the powers these are the expressions. -/
theorem expressionBy_powers {rule : Nat → Parser Tree} {levels : Nat}
    (same : ∀ fewer < levels, rule fewer = powers (expression fewer)) :
    expressionBy rule levels = expression levels := by
  cases levels with
  | zero => rfl
  | succ levels =>
    rw [expressionBy, same levels (Nat.lt_succ_self levels)]
    rfl

/-- Parsers that obey the rule in a grammar of their own are the loop in every depth. -/
theorem eq_powers_of_rule {rule : Nat → Parser Tree}
    (solves : ∀ levels,
      rule levels = powerRule (operand (expressionBy rule levels)) (rule levels))
    (levels : Nat) : rule levels = powers (expression levels) := by
  induction levels using Nat.strongRecOn with
  | ind levels ih =>
    have content := OnlyAdvances.expression levels
    have inGrammar := solves levels
    rw [expressionBy_powers ih] at inGrammar
    exact powerRule_unique (progresses_operand content) inGrammar (powers_eq_powerRule content)

end Parser

/-! ## Operands and operators apart -/

/-- A chain of powers that has been read: its operands and its operators, each the latest first. -/
structure Chain where
  /-- The trees of the operands. -/
  operands : List Tree
  /-- The tokens between them. -/
  operators : List Token

namespace Chain

/-- Joins a tree from the right to operands by operators, for each operator the next operand; none
if an operand is missing. -/
def join? : (operators : List Token) → (operands : List Tree) → (right : Tree) → Option Tree
  | [], _, right => some right
  | _ :: _, [], _ => none
  | operator :: operators, left :: operands, right =>
    join? operators operands (.branch operator.entry.value.shown left right)

/-- The tree of a chain: its last operand, joined to the earlier ones; none if one is missing. -/
def tree? (chain : Chain) : Option Tree :=
  match chain.operands with
  | [] => none
  | last :: earlier => join? chain.operators earlier last

/-- The loop over a chain, which keeps operands and operators apart, for at most the given turns. -/
def gather (next : Parser Tree) : (turns : List String) → Chain → Parser Chain
  | [], chain => return chain
  | _ :: turns, chain => do
    if (← Parser.look) = .symbol .power then
      let operator ← Parser.expect (.symbol .power)
      let operand ← next
      gather next turns ⟨operand :: chain.operands, operator :: chain.operators⟩
    else return chain

/-- The whole of a chain. -/
def read (inner : Parser Tree) : Parser Chain := do
  let turns := (← get).unread
  let first ← Parser.operand inner
  gather (Parser.operand inner) turns ⟨[first], []⟩

/-- What a chain has to do with the powers that are parsed in its place: it has one more operand
than operators, no operand is missing when they are joined, and they are joined to the tree of the
powers; or both fail in the same way. -/
inductive Yields :
    EStateM.Result SyntaxError Lexer Chain → EStateM.Result SyntaxError Lexer Tree → Prop where
  /-- The chain has been read. -/
  | accepted {chain : Chain} {tree : Tree} {last : Lexer}
      (balanced : chain.operands.length = chain.operators.length + 1)
      (joined : chain.tree? = some tree) : Yields (.ok chain last) (.ok tree last)
  /-- The chain has been given up. -/
  | failed {error : SyntaxError} {last : Lexer} : Yields (.error error last) (.error error last)

/-- As many operands as power signs are joined to a tree from the right. -/
theorem join?_powers {operators : List Token} {operands : List Tree} (right : Tree)
    (allPowers : ∀ operator ∈ operators, operator = .symbol .power)
    (balanced : operands.length = operators.length) :
    join? operators operands right = some (Parser.groupPowers right operands) := by
  induction operators generalizing operands right with
  | nil =>
    obtain rfl := List.length_eq_zero_iff.mp balanced
    rfl
  | cons operator operators ih =>
    rw [List.forall_mem_cons] at allPowers
    cases operands with
    | nil => cases balanced
    | cons left operands =>
      rw [join?, ih _ allPowers.2 (Nat.succ.inj balanced), allPowers.1]
      rfl

/-- A turn at a power sign keeps it and the operand behind it. -/
theorem gather_of_power {next : Parser Tree} {turn : String} {turns : List String} {chain : Chain}
    {lexer : Lexer} (isPower : lexer.current = .symbol .power) :
    gather next (turn :: turns) chain lexer =
      (Lexer.advance >>= fun _ => next >>= fun operand =>
        gather next turns ⟨operand :: chain.operands, .symbol .power :: chain.operators⟩ :
          Parser Chain) lexer := by
  have sameKind : lexer.current.kind = .symbol .power := by rw [isPower]; rfl
  change (if lexer.current.kind = .symbol .power then _ else _ : Parser Chain) lexer = _
  rw [if_pos sameKind, Parser.expect_bind_of_eq _ sameKind, isPower]

/-- No other token lets the loop go on. -/
theorem gather_of_other {next : Parser Tree} {turns : List String} {chain : Chain} {lexer : Lexer}
    (noPower : lexer.current ≠ .symbol .power) :
    gather next turns chain lexer = .ok chain lexer := by
  cases turns with
  | nil => rfl
  | cons turn turns =>
    have otherKind : lexer.current.kind ≠ .symbol .power :=
      fun same => noPower ((Parser.kind_eq_power_iff _).mp same)
    change (if lexer.current.kind = .symbol .power then _ else _ : Parser Chain) lexer = _
    rw [if_neg otherKind]
    rfl

/-- What begins alike yields the powers if all that may follow does. -/
theorem Yields.bind {α : Type} {first : Parser α} {chains : α → Parser Chain}
    {trees : α → Parser Tree} {lexer : Lexer}
    (following : ∀ value middle, Yields (chains value middle) (trees value middle)) :
    Yields ((first >>= chains) lexer) ((first >>= trees) lexer) := by
  cases outcome : first lexer with
  | error error last =>
    rw [Parser.bind_of_error outcome, Parser.bind_of_error outcome]
    exact .failed
  | ok value middle =>
    rw [Parser.bind_of_ok outcome, Parser.bind_of_ok outcome]
    exact following value middle

/-- The loop that keeps operators yields what the loop without them collects. What it has read so
far is a last operand and as many earlier ones as power signs. -/
theorem yields_gather {next : Parser Tree} {operators : List Token} {earlier : List Tree}
    (turns : List String) (last : Tree) (lexer : Lexer)
    (allPowers : ∀ operator ∈ operators, operator = .symbol .power)
    (balanced : earlier.length = operators.length) :
    Yields (gather next turns ⟨last :: earlier, operators⟩ lexer)
      (Parser.collectPowers next turns last earlier lexer) := by
  induction turns generalizing operators earlier last lexer with
  | nil => exact .accepted (congrArg (· + 1) balanced) (join?_powers last allPowers balanced)
  | cons turn turns ih =>
    by_cases isPower : lexer.current = .symbol .power
    · rw [gather_of_power isPower, Parser.collectPowers_of_power isPower]
      refine .bind fun _ following => .bind fun right behind => ?_
      have allPowersThen : ∀ operator ∈ Token.symbol .power :: operators,
          operator = .symbol .power := List.forall_mem_cons.mpr ⟨rfl, allPowers⟩
      exact ih right behind allPowersThen (congrArg (· + 1) balanced)
    · rw [gather_of_other isPower, Parser.collectPowers_of_other isPower]
      exact .accepted (congrArg (· + 1) balanced) (join?_powers last allPowers balanced)

/-- A chain that is read yields the powers in its place. -/
theorem yields_read (inner : Parser Tree) (lexer : Lexer) :
    Yields (read inner lexer) (Parser.powers inner lexer) := by
  have unfolded : read inner lexer = (Parser.operand inner >>= fun first =>
      gather (Parser.operand inner) lexer.unread ⟨[first], []⟩) lexer := rfl
  rw [unfolded, Parser.powers_eq]
  exact .bind fun first following => yields_gather lexer.unread first following (by simp) rfl

end Chain

/-- The loop over powers is what the recursive rule of the grammar defines. Parsers for all depths
of nesting obey the rule, with operands from the grammar that they make up themselves, exactly if
they are the loops: at every lexer they give the same tree or the same error and leave the same
lexer. The loop reads operands and operators of a chain of any length in step, so that there is one
operand more than there are operators, and when the chain is grouped from the right none is
missing. -/
theorem powers_solve_recursive_rule :
    (∀ rule : Nat → Parser Tree,
      (∀ levels, rule levels =
        Parser.powerRule (Parser.operand (Parser.expressionBy rule levels)) (rule levels)) ↔
      ∀ levels lexer, rule levels lexer = Parser.powers (Parser.expression levels) lexer) ∧
    ∀ inner lexer, Chain.Yields (Chain.read inner lexer) (Parser.powers inner lexer) := by
  constructor
  · intro rule
    constructor
    · intro solves levels lexer
      rw [Parser.eq_powers_of_rule solves levels]
    · intro same levels
      have sameParser : ∀ levels, rule levels = Parser.powers (Parser.expression levels) :=
        fun levels => funext (same levels)
      rw [Parser.expressionBy_powers fun fewer _ => sameParser fewer, sameParser levels]
      exact Parser.powers_eq_powerRule (.expression levels)
  · exact Chain.yields_read

end Calculator
