import Calculator.Proofs.Chains

/-!
# Progress

Every operand and every operator brings a lexer nearer to its end, in a parse that succeeds and in
one that fails. The journal makes that exact: as long as the end of the input is not stepped over,
each advance, be it that it fails, takes one from what is ahead. So the advances that a lexer has
made and the tokens that are ahead of it have the same sum before and behind every parser.
-/

namespace Calculator

/-! ## Counting advances -/

namespace Lexer

/-- The advances that a lexer has made, and those that lead it to the end of its input. -/
def steps (lexer : Lexer) : Nat := lexer.journal.length + lexer.ahead

/-- Every advance is noted once, be it that it fails. -/
theorem length_journal_advanced (lexer : Lexer) :
    lexer.advanced.journal.length = lexer.journal.length + 1 := by
  obtain ⟨_, _, ⟨_, outcome⟩ | ⟨_, _, _, _, ⟨_, _, outcome⟩ | ⟨_, _, outcome⟩⟩⟩ :=
    lexer.advanced_cases
  all_goals
    rw [outcome]
    rfl

/-- So the journal tells how often a lexer has been advanced. -/
theorem length_journal_iterate (count : Nat) (lexer : Lexer) :
    (advanced^[count] lexer).journal.length = lexer.journal.length + count := by
  induction count with
  | zero => rfl
  | succ count ih =>
    rw [Function.iterate_succ_apply', length_journal_advanced, ih]
    rfl

/-- An advance that does not step over the end of the input is one of those that lead there. -/
theorem steps_advanced {lexer : Lexer} (notAtEnd : lexer.current ≠ .endOfInput) :
    lexer.advanced.steps = lexer.steps := by
  have noted := lexer.length_journal_advanced
  have nearer : lexer.advanced.ahead + 1 = lexer.ahead := by
    rw [advanced, Parser.after]
    cases moved : advance lexer with
    | ok value next => exact (ahead_advance notAtEnd moved).symm
    | error error last => exact ahead_of_advance_error moved
  rw [steps, steps]
  omega

end Lexer

namespace Parser

variable {α β : Type}

/-- The number of times that a parser advances a lexer. -/
def advanceCount (parser : Parser α) (lexer : Lexer) : Nat :=
  (parser.after lexer).journal.length - lexer.journal.length

/-- The lexer that is left is the one that was given, advanced that often. -/
theorem OnlyAdvances.after_eq {parser : Parser α} (only : OnlyAdvances parser) (lexer : Lexer) :
    parser.after lexer = Lexer.advanced^[parser.advanceCount lexer] lexer := by
  obtain ⟨count, reached⟩ := only lexer
  have counted : parser.advanceCount lexer = count := by
    rw [advanceCount, reached, Lexer.length_journal_iterate, Nat.add_sub_cancel_left]
  rw [counted, reached]

/-- The parser does not step over the end of the input, so that each of its advances, be it that it
fails, is one of those that lead there. -/
def KeepsSteps (parser : Parser α) : Prop := ∀ lexer, (parser.after lexer).steps = lexer.steps

/-- Parsers one after the other keep the steps at a lexer if the first one does, and the second one
everywhere. -/
theorem steps_after_bind {first : Parser α} {next : α → Parser β} {lexer : Lexer}
    (head : (first.after lexer).steps = lexer.steps) (rest : ∀ value, KeepsSteps (next value)) :
    ((first >>= next).after lexer).steps = lexer.steps := by
  rw [after] at head
  cases outcome : first lexer with
  | error error last => rw [after_bind_of_error outcome, ← head, outcome]
  | ok value middle =>
    rw [outcome] at head
    rw [after_bind_of_ok outcome, rest value middle, head]

/-- To step over a token that is not the end of the input keeps the steps. -/
theorem steps_after_advance {next : Parser α} {lexer : Lexer}
    (notAtEnd : lexer.current ≠ .endOfInput) (rest : KeepsSteps next) :
    (after (Lexer.advance >>= fun _ => next) lexer).steps = lexer.steps :=
  steps_after_bind (Lexer.steps_advanced notAtEnd) fun _ => rest

/-! ## The turns of a loop -/

/-- One turn of a loop over operators: the operator that is read, if one stands there that satisfies
the condition, and the operand behind it. -/
def turn (condition : Symbol → Bool) (next : Parser Tree) : Parser (Option (Symbol × Tree)) := do
  match ← symbolWhere? condition with
  | none => return none
  | some symbol =>
    Lexer.advance
    let right ← next
    return some (symbol, right)

variable {condition : Symbol → Bool} {next inner : Parser Tree} {lexer last : Lexer}

/-- Either an operator that satisfies the condition stands at the lexer or none. -/
theorem operator_or_other (condition : Symbol → Bool) (lexer : Lexer) :
    (∃ s, lexer.current = .symbol s ∧ condition s = true) ∨
      ∀ s, lexer.current = .symbol s → condition s = false := by
  by_cases found : ∃ s, lexer.current = .symbol s ∧ condition s = true
  · exact .inl found
  · refine .inr fun s isSymbol => ?_
    by_contra holds
    exact found ⟨s, isSymbol, by simpa using holds⟩

/-- A turn at an operator. -/
theorem turn_of_operator {s : Symbol} (isSymbol : lexer.current = .symbol s)
    (holds : condition s = true) :
    turn condition next lexer =
      (Lexer.advance >>= fun _ => next >>= fun right =>
        pure (some (s, right)) : Parser (Option (Symbol × Tree))) lexer :=
  bind_of_ok (symbolWhere?_of_holds isSymbol holds)

/-- There is no turn at another token. -/
theorem turn_of_other (other : ∀ s, lexer.current = .symbol s → condition s = false) :
    turn condition next lexer = .ok none lexer :=
  bind_of_ok (symbolWhere?_of_other other)

/-- The loop of operators that group to the left takes turns. -/
theorem extendLeft_cons (item : String) (turns : List String) (tree : Tree) :
    extendLeft condition next (item :: turns) tree =
      (turn condition next >>= fun found =>
        match found with
        | none => pure tree
        | some (symbol, right) =>
          extendLeft condition next turns (.branch symbol.text tree right)) := by
  rw [extendLeft, turn, bind_assoc]
  congr 1
  funext found
  cases found with
  | none => rw [pure_bind]
  | some symbol => simp only [bind_assoc, pure_bind]

/-- The loop of powers takes turns. -/
theorem collectPowers_cons (item : String) (turns : List String) (right : Tree)
    (earlier : List Tree) :
    collectPowers next (item :: turns) right earlier =
      (turn (· = .power) next >>= fun found =>
        match found with
        | none => pure (groupPowers right earlier)
        | some (_, further) => collectPowers next turns further (right :: earlier)) := by
  funext lexer
  obtain ⟨s, isSymbol, holds⟩ | other := operator_or_other (· = .power) lexer
  · obtain rfl := of_decide_eq_true holds
    rw [collectPowers_of_power isSymbol, bind_congr_of_eq _ (turn_of_operator isSymbol holds)]
    simp only [bind_assoc, pure_bind]
  · have noPower : lexer.current ≠ .symbol .power :=
      fun isPower => absurd (other _ isPower) (by decide)
    rw [collectPowers_of_other noPower, bind_of_ok (turn_of_other other)]
    rfl

/-- A turn that is completed brings a lexer nearer to its end, by the operator and by the operand. A
turn that is not taken leaves the lexer as it is. -/
theorem turn_cases (progresses : Progresses next) {found : Option (Symbol × Tree)}
    (parsed : turn condition next lexer = .ok found last) :
    (found = none ∧ last = lexer) ∨
      ∃ symbol right, found = some (symbol, right) ∧ condition symbol = true ∧
        last.ahead + 2 ≤ lexer.ahead := by
  obtain ⟨s, isSymbol, holds⟩ | other := operator_or_other condition lexer
  · rw [turn_of_operator isSymbol holds] at parsed
    cases moved : Lexer.advance lexer with
    | error error stuck =>
      rw [bind_of_error moved] at parsed
      cases parsed
    | ok value middle =>
      rw [bind_of_ok moved] at parsed
      have oneLess := Lexer.ahead_advance (by simp [isSymbol]) moved
      cases read : next middle with
      | error error stuck =>
        rw [bind_of_error read] at parsed
        cases parsed
      | ok right behind =>
        rw [bind_of_ok read] at parsed
        cases parsed
        have nearer := progresses read
        exact .inr ⟨s, right, rfl, holds, by omega⟩
  · rw [turn_of_other other] at parsed
    cases parsed
    exact .inl ⟨rfl, rfl⟩

/-- A turn only advances if the parser of the operand does. -/
theorem OnlyAdvances.turn (operands : OnlyAdvances next) : OnlyAdvances (turn condition next) := by
  unfold Parser.turn
  refine (symbolWhere? condition).bind fun found => ?_
  split
  · exact pure none
  · exact advance.bind fun _ => operands.bind fun right => pure _

/-! ## Progress of the parsers -/

/-- What begins with progress makes progress. -/
theorem Progresses.bind {first : Parser Tree} {rest : Tree → Parser Tree}
    (head : Progresses first) (only : ∀ tree, OnlyAdvances (rest tree)) :
    Progresses (first >>= rest) := by
  intro lexer tree last parsed
  cases read : first lexer with
  | error error stuck =>
    rw [bind_of_error read] at parsed
    cases parsed
  | ok value middle =>
    rw [bind_of_ok read] at parsed
    exact Nat.lt_of_le_of_lt ((only value).ahead_le parsed) (head read)

/-- Operands with operators between them are the first operand and what extends it. -/
theorem leftAssociative_eq (lexer : Lexer) :
    leftAssociative condition next lexer =
      (next >>= extendLeft condition next lexer.unread) lexer := rfl

/-- Operands with operators between them make progress if the first operand does. -/
theorem progresses_leftAssociative (condition : Symbol → Bool) (operands : OnlyAdvances next)
    (progresses : Progresses next) : Progresses (leftAssociative condition next) := by
  intro lexer tree last parsed
  rw [leftAssociative_eq] at parsed
  exact progresses.bind (operands.extendLeft lexer.unread) parsed

/-- Powers make progress. -/
theorem progresses_powers (content : OnlyAdvances inner) : Progresses (powers inner) := by
  intro lexer tree last parsed
  rw [powers_eq] at parsed
  exact (progresses_operand content).bind
    (fun first => content.operand.collectPowers lexer.unread first []) parsed

/-- The parsers of all levels make progress. -/
theorem progresses_ofLevel (content : OnlyAdvances inner) (level : Level) :
    Progresses (ofLevel level inner) := by
  have powers := progresses_powers content
  have products :=
    progresses_leftAssociative Symbol.isProduct (content.ofLevel .powers) powers
  have sums := progresses_leftAssociative Symbol.isSum (content.ofLevel .products) products
  cases level with
  | operands => exact progresses_operand content
  | powers => exact powers
  | products => exact products
  | sums => exact sums
  | maxima => exact progresses_leftAssociative Symbol.isMaximum (content.ofLevel .sums) sums

/-! ## The steps that parsers keep -/

namespace KeepsSteps

/-- To give a value keeps the steps. -/
theorem pure (value : α) : KeepsSteps (Pure.pure value : Parser α) := fun _ => rfl

/-- Parsers one after the other keep the steps if each of them does. -/
theorem bind {first : Parser α} {next : α → Parser β} (head : KeepsSteps first)
    (rest : ∀ value, KeepsSteps (next value)) : KeepsSteps (first >>= next) :=
  fun lexer => steps_after_bind (head lexer) rest

/-- To close parentheses keeps the steps. -/
theorem close (tree : Tree) :
    KeepsSteps (expect (.symbol .closeParen) >>= fun _ => Pure.pure tree : Parser Tree) := by
  intro lexer
  by_cases isClose : lexer.current.kind = .symbol .closeParen
  · rw [after_congr (expect_bind_of_eq _ isClose)]
    have notAtEnd : lexer.current ≠ .endOfInput := by
      intro atEnd
      rw [atEnd] at isClose
      cases isClose
    exact steps_after_advance notAtEnd (pure tree)
  · rw [after, expect_bind_of_ne _ isClose]

/-- An operand keeps the steps if what stands in parentheses does. -/
theorem operand (content : KeepsSteps inner) : KeepsSteps (operand inner) := by
  intro lexer
  cases current : lexer.current with
  | number value =>
    rw [after_congr (operand_of_number inner current)]
    exact steps_after_advance (by simp [current]) (pure _)
  | endOfInput =>
    rw [after, operand_of_other inner (by simp [current]) (by simp [current])]
  | symbol s =>
    by_cases isOpen : s = .openParen
    · rw [after_congr (operand_of_openParen inner (by rw [current, isOpen]))]
      exact steps_after_advance (by simp [current]) (content.bind close)
    · rw [after, operand_of_other inner (by simp [current]) (by simpa [current] using isOpen)]

/-- A turn keeps the steps if the parser of the operand does. -/
theorem turn (operands : KeepsSteps next) : KeepsSteps (turn condition next) := by
  intro lexer
  obtain ⟨s, isSymbol, holds⟩ | other := operator_or_other condition lexer
  · rw [after_congr (turn_of_operator isSymbol holds)]
    exact steps_after_advance (by simp [isSymbol]) (operands.bind fun right => pure _)
  · rw [after, turn_of_other other]

/-- A loop over operators keeps the steps, since each of its turns does. -/
theorem extendLeft (operands : KeepsSteps next) (turns : List String) (tree : Tree) :
    KeepsSteps (extendLeft condition next turns tree) := by
  induction turns generalizing tree with
  | nil => exact pure tree
  | cons item turns ih =>
    rw [extendLeft_cons]
    refine operands.turn.bind fun found => ?_
    split
    · exact pure tree
    · exact ih _

/-- The loop over powers keeps the steps in the same way. -/
theorem collectPowers (operands : KeepsSteps next) (turns : List String) (right : Tree)
    (earlier : List Tree) : KeepsSteps (collectPowers next turns right earlier) := by
  induction turns generalizing right earlier with
  | nil => exact pure _
  | cons item turns ih =>
    rw [collectPowers_cons]
    refine operands.turn.bind fun found => ?_
    split
    · exact pure _
    · exact ih _ _

/-- Operands with operators between them keep the steps. -/
theorem leftAssociative (operands : KeepsSteps next) :
    KeepsSteps (leftAssociative condition next) := by
  intro lexer
  rw [after_congr (leftAssociative_eq lexer)]
  exact operands.bind (operands.extendLeft lexer.unread) lexer

/-- The parser of a level keeps the steps if that of what stands in parentheses does. -/
theorem ofLevel (content : KeepsSteps inner) (level : Level) :
    KeepsSteps (ofLevel level inner) := by
  have ofPowers : KeepsSteps (powers inner) := by
    intro lexer
    rw [after_congr (powers_eq inner lexer)]
    exact content.operand.bind
      (fun first => content.operand.collectPowers lexer.unread first []) lexer
  cases level with
  | operands => exact content.operand
  | powers => exact ofPowers
  | products => exact ofPowers.leftAssociative
  | sums => exact ofPowers.leftAssociative.leftAssociative
  | maxima => exact ofPowers.leftAssociative.leftAssociative.leftAssociative

/-- Expressions keep the steps, however many parentheses may still be opened. -/
theorem expression (levels : Nat) : KeepsSteps (expression levels) := by
  induction levels with
  | zero => exact fun _ => rfl
  | succ levels ih => exact ih.ofLevel .maxima

/-- Where the steps are kept, each advance takes one from what is ahead. -/
theorem advanceCount_add_ahead {parser : Parser α} (keeps : KeepsSteps parser)
    (only : OnlyAdvances parser) (lexer : Lexer) :
    parser.advanceCount lexer + (parser.after lexer).ahead = lexer.ahead := by
  have steps := keeps lexer
  have noted : (parser.after lexer).journal.length =
      lexer.journal.length + parser.advanceCount lexer := by
    rw [← Lexer.length_journal_iterate, ← only.after_eq]
  rw [Lexer.steps, Lexer.steps] at steps
  omega

end KeepsSteps

end Parser

end Calculator
