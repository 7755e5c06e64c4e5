import Calculator.Proofs.Descent
import Mathlib.Logic.Function.Iterate

/-!
# Runs of a lexer

A lexer may be asked and advanced step by step, and parsers may be let loose on it that stop
halfway with an error. All that any of this does to a lexer is to advance it a number of times. So
whatever one advance preserves holds of a lexer after every run, in states that no ordinary parse
reaches as well.
-/

namespace Calculator

namespace Parser

/-- The lexer that a parser leaves behind, be it that the parser fails. -/
def after {α : Type} (parser : Parser α) (lexer : Lexer) : Lexer :=
  match parser lexer with
  | .ok _ last => last
  | .error _ last => last

section

variable {α β : Type}

/-- Two parsers with the same outcome leave the same lexer. -/
theorem after_congr {first second : Parser α} {lexer : Lexer}
    (same : first lexer = second lexer) : first.after lexer = second.after lexer := by
  rw [after, after, same]

/-- What is left behind the first of two parsers that succeeds is handed on to the second. -/
theorem after_bind_of_ok {first : Parser α} {next : α → Parser β} {lexer middle : Lexer} {value : α}
    (succeeds : first lexer = .ok value middle) :
    (first >>= next).after lexer = (next value).after middle := by
  rw [after, bind_of_ok succeeds]
  rfl

/-- What is left behind the first of two parsers that fails is left behind both. -/
theorem after_bind_of_error {first : Parser α} {next : α → Parser β} {lexer last : Lexer}
    {error : SyntaxError} (fails : first lexer = .error error last) :
    (first >>= next).after lexer = last := by
  rw [after, bind_of_error fails]

end

/-- The parser of a level, given the parser of what stands in parentheses. -/
def ofLevel : Level → Parser Tree → Parser Tree
  | .maxima => maxima
  | .sums => sums
  | .products => products
  | .powers => powers
  | .operands => operand

end Parser

/-- The lexer after an advance, be it that the advance fails. -/
def Lexer.advanced (lexer : Lexer) : Lexer := Parser.after Lexer.advance lexer

/-- What can be done with a lexer in one step. -/
inductive Action where
  /-- Asks for the current token. -/
  | current
  /-- Asks for the kind of the current token. -/
  | look
  /-- Advances to the next token. -/
  | advance
  /-- Steps over a token of the kind. -/
  | expect (kind : TokenKind)
  /-- Parses a phrase of the level, inside as many open parentheses as leave these levels. -/
  | parse (level : Level) (levels : Nat)

namespace Action

/-- The lexer that the step leaves behind, be it that the step fails. -/
def after : Action → Lexer → Lexer
  | current => Parser.after Parser.current
  | look => Parser.after Parser.look
  | advance => Lexer.advanced
  | expect kind => Parser.after (Parser.expect kind)
  | parse level levels => Parser.after (Parser.ofLevel level (Parser.expression levels))

/-- The lexer that the steps leave behind one after the other. A step that fails does not keep the
next one from being taken. -/
def run (actions : List Action) (lexer : Lexer) : Lexer :=
  actions.foldl (fun lexer action => action.after lexer) lexer

end Action

/-! ## All steps are advances -/

/-- The parser does nothing to a lexer but to advance it. -/
def Parser.OnlyAdvances {α : Type} (parser : Parser α) : Prop :=
  ∀ lexer, ∃ count, parser.after lexer = Lexer.advanced^[count] lexer

namespace Parser.OnlyAdvances

variable {α β : Type}

/-- To give a value leaves the lexer as it is. -/
theorem pure (value : α) : OnlyAdvances (Pure.pure value : Parser α) := fun _ => ⟨0, rfl⟩

/-- To give up leaves the lexer as it is. -/
theorem throw (error : SyntaxError) : OnlyAdvances (MonadExcept.throw error : Parser α) :=
  fun _ => ⟨0, rfl⟩

/-- To look at the lexer leaves it as it is. -/
theorem get : OnlyAdvances (MonadState.get : Parser Lexer) := fun _ => ⟨0, rfl⟩

/-- To ask for the current token leaves the lexer as it is. -/
theorem current : OnlyAdvances current := fun _ => ⟨0, rfl⟩

/-- An advance is one advance. -/
theorem advance : OnlyAdvances Lexer.advance := fun _ => ⟨1, rfl⟩

/-- Parsers one after the other advance the lexer one after the other. -/
theorem bind {first : Parser α} {next : α → Parser β} (head : OnlyAdvances first)
    (rest : ∀ value, OnlyAdvances (next value)) : OnlyAdvances (first >>= next) := by
  intro lexer
  obtain ⟨count, reached⟩ := head lexer
  cases found : first lexer with
  | error error last =>
    have behindFirst : first.after lexer = last := by
      rw [after, found]
    exact ⟨count, by rw [after_bind_of_error found, ← reached, behindFirst]⟩
  | ok value middle =>
    have behindFirst : first.after lexer = middle := by
      rw [after, found]
    obtain ⟨further, reachedThen⟩ := rest value middle
    refine ⟨further + count, ?_⟩
    rw [after_bind_of_ok found, reachedThen, Function.iterate_add_apply, ← reached, behindFirst]

/-- To step over a token of some kind advances once or not at all. -/
theorem expect (kind : TokenKind) : OnlyAdvances (expect kind) := by
  unfold Parser.expect
  refine current.bind fun token => ?_
  split
  · exact advance.bind fun _ => pure token
  · exact throw _

/-- To look for a symbol leaves the lexer as it is. -/
theorem symbolWhere? (condition : Symbol → Bool) : OnlyAdvances (symbolWhere? condition) := by
  unfold Parser.symbolWhere?
  refine current.bind fun token => ?_
  split
  · exact pure _
  · exact pure _

variable {inner next : Parser Tree} {condition : Symbol → Bool}

/-- An operand only advances if what stands in parentheses does. -/
theorem operand (content : OnlyAdvances inner) : OnlyAdvances (operand inner) := by
  unfold Parser.operand
  refine current.bind fun token => ?_
  split
  · refine advance.bind fun _ => content.bind fun tree => ?_
    exact (expect _).bind fun _ => pure tree
  · exact advance.bind fun _ => pure _
  · exact throw _

/-- A loop over operators only advances if the parser of their operands does. -/
theorem extendLeft (operands : OnlyAdvances next) (turns : List String) (tree : Tree) :
    OnlyAdvances (extendLeft condition next turns tree) := by
  induction turns generalizing tree with
  | nil => exact pure tree
  | cons turn others ih =>
    unfold Parser.extendLeft
    refine (symbolWhere? condition).bind fun found => ?_
    split
    · exact pure tree
    · exact advance.bind fun _ => operands.bind fun right => ih _

/-- The same of the operands with the first of them. -/
theorem leftAssociative (operands : OnlyAdvances next) :
    OnlyAdvances (leftAssociative condition next) := by
  unfold Parser.leftAssociative
  exact get.bind fun lexer => operands.bind fun first => extendLeft operands lexer.unread first

/-- A loop over powers only advances if the parser of their operands does. -/
theorem collectPowers (operands : OnlyAdvances next) (turns : List String) (last : Tree)
    (earlier : List Tree) : OnlyAdvances (collectPowers next turns last earlier) := by
  induction turns generalizing last earlier with
  | nil => exact pure _
  | cons turn others ih =>
    unfold Parser.collectPowers
    refine current.bind fun token => ?_
    split
    · exact advance.bind fun _ => operands.bind fun right => ih right (last :: earlier)
    · exact pure _

/-- The parser of a level only advances if that of what stands in parentheses does. -/
theorem ofLevel (content : OnlyAdvances inner) (level : Level) :
    OnlyAdvances (ofLevel level inner) := by
  have ofPowers : OnlyAdvances (powers inner) := by
    unfold powers
    exact get.bind fun lexer => content.operand.bind fun first =>
      content.operand.collectPowers lexer.unread first []
  cases level with
  | operands => exact content.operand
  | powers => exact ofPowers
  | products => exact ofPowers.leftAssociative
  | sums => exact ofPowers.leftAssociative.leftAssociative
  | maxima => exact ofPowers.leftAssociative.leftAssociative.leftAssociative

/-- An expression only advances, however many parentheses may still be opened. -/
theorem expression (levels : Nat) : OnlyAdvances (expression levels) := by
  induction levels with
  | zero => exact throw _
  | succ levels ih => exact ih.ofLevel .maxima

end Parser.OnlyAdvances

namespace Action

/-- A step only advances the lexer. -/
theorem exists_after_eq (action : Action) (lexer : Lexer) :
    ∃ count, action.after lexer = Lexer.advanced^[count] lexer := by
  cases action with
  | current => exact ⟨0, rfl⟩
  | look => exact ⟨0, rfl⟩
  | advance => exact ⟨1, rfl⟩
  | expect kind => exact Parser.OnlyAdvances.expect kind lexer
  | parse level levels => exact (Parser.OnlyAdvances.expression levels).ofLevel level lexer

/-- Steps only advance the lexer. -/
theorem exists_run_eq (actions : List Action) (lexer : Lexer) :
    ∃ count, run actions lexer = Lexer.advanced^[count] lexer := by
  induction actions generalizing lexer with
  | nil => exact ⟨0, rfl⟩
  | cons action others ih =>
    obtain ⟨count, stepped⟩ := action.exists_after_eq lexer
    obtain ⟨further, ran⟩ := ih (action.after lexer)
    refine ⟨further + count, ?_⟩
    rw [Function.iterate_add_apply, ← stepped, ← ran]
    rfl

/-- What an advance preserves holds after a run if it holds before it. -/
theorem run_invariant (invariant : Lexer → Prop)
    (preserves : ∀ lexer, invariant lexer → invariant lexer.advanced) (actions : List Action)
    {lexer : Lexer} (holds : invariant lexer) : invariant (run actions lexer) := by
  obtain ⟨count, ran⟩ := exists_run_eq actions lexer
  rw [ran]
  clear ran
  induction count with
  | zero => exact holds
  | succ count ih =>
    rw [Function.iterate_succ_apply']
    exact preserves _ ih

end Action

/-! ## What an advance preserves -/

/-- None of some blanks is examined, and none is a token. -/
theorem Piece.skip_blanks {blanks : List String}
    (allBlank : ∀ piece ∈ blanks, isBlank piece = true) :
    blanks.filter (fun piece => !isBlank piece) = [] ∧
      blanks.filterMap (fun piece => (Token.ofPiece piece).toOption) = [] := by
  rw [List.filter_eq_nil_iff, List.filterMap_eq_nil_iff]
  constructor
  · intro piece among
    simp [allBlank piece among]
  · intro piece among
    obtain rfl | rfl | rfl | rfl := blank_cases (allBlank piece among) <;> decide

namespace Lexer

/-- An entry of the journal is about a piece, not about the end of the input. -/
def isExamination : Except LexError Token → Bool
  | .ok .endOfInput => false
  | _ => true

/-- The state of a lexer that has consumed some of the pieces of a source. -/
structure Consumed (pieces consumed : List String) (lexer : Lexer) : Prop where
  /-- The other pieces are unread. -/
  apart : pieces = consumed ++ lexer.unread
  /-- Those of the consumed pieces that are no blanks have been examined, each once, in order. -/
  examined : lexer.journal.reverse.filter isExamination =
    (consumed.filter fun piece => !Piece.isBlank piece).map Token.ofPiece
  /-- The current token is the end of the input or that of the last consumed piece that is one. -/
  current : lexer.current = .endOfInput ∨
    (consumed.filterMap fun piece => (Token.ofPiece piece).toOption).getLast? = some lexer.current

/-- Nothing is unread where the end of the input has been reached. -/
def EndsInput (lexer : Lexer) : Prop := lexer.current = .endOfInput → lexer.unread = []

/-- The lexer is at the end of the input. -/
def AtEnd (lexer : Lexer) : Prop := lexer.current = .endOfInput ∧ lexer.unread = []

/-- What one advance leaves behind, whether it fails or not. -/
theorem advanced_cases (lexer : Lexer) :
    ∃ blanks, (∀ piece ∈ blanks, Piece.isBlank piece = true) ∧
      ((lexer.unread = blanks ∧
          lexer.advanced = ⟨.endOfInput, [], .ok .endOfInput :: lexer.journal⟩) ∨
        ∃ piece rest, lexer.unread = blanks ++ piece :: rest ∧ Piece.isBlank piece = false ∧
          ((∃ token, Token.ofPiece piece = .ok token ∧
              lexer.advanced = ⟨token, rest, .ok token :: lexer.journal⟩) ∨
            ∃ error, Token.ofPiece piece = .error error ∧
              lexer.advanced = ⟨lexer.current, rest, .error error :: lexer.journal⟩)) := by
  obtain ⟨blanks, allBlank, ⟨atEnd, outcome⟩ | ⟨piece, rest, apart, noBlank, outcomes⟩⟩ :=
    lexer.advance_cases
  · refine ⟨blanks, allBlank, .inl ⟨atEnd, ?_⟩⟩
    rw [advanced, Parser.after, outcome]
  · refine ⟨blanks, allBlank, .inr ⟨piece, rest, apart, noBlank, ?_⟩⟩
    obtain ⟨token, classified, outcome⟩ | ⟨error, classified, outcome⟩ := outcomes
    · refine .inl ⟨token, classified, ?_⟩
      rw [advanced, Parser.after, outcome]
    · refine .inr ⟨error, classified, ?_⟩
      rw [advanced, Parser.after, outcome]

/-- An advance leaves unread a suffix of what was unread. -/
theorem unread_advanced (lexer : Lexer) : lexer.advanced.unread <:+ lexer.unread := by
  obtain ⟨blanks, _, ⟨_, outcome⟩ | ⟨piece, rest, apart, _, outcomes⟩⟩ := lexer.advanced_cases
  · rw [outcome]
    exact List.nil_suffix
  · have left : lexer.advanced.unread = rest := by
      obtain ⟨token, _, outcome⟩ | ⟨error, _, outcome⟩ := outcomes <;> rw [outcome]
    rw [left, apart]
    exact ⟨blanks ++ [piece], by simp⟩

/-- An advance that fails keeps the current token. -/
theorem current_of_advance_error {lexer last : Lexer} {error : SyntaxError}
    (failed : advance lexer = .error error last) : last.current = lexer.current := by
  obtain ⟨_, _, ⟨_, outcome⟩ | ⟨_, _, _, _, ⟨_, _, outcome⟩ | ⟨_, _, outcome⟩⟩⟩ :=
    lexer.advance_cases
  all_goals
    rw [outcome] at failed
    cases failed
  rfl

/-- An advance at the end of the input consumes nothing. -/
theorem AtEnd.advance_eq {lexer : Lexer} (atEnd : lexer.AtEnd) :
    advance lexer = .ok () ⟨.endOfInput, [], .ok .endOfInput :: lexer.journal⟩ := by
  rw [advance, atEnd.2]
  rfl

/-- An advance at the end of the input stays there. -/
theorem AtEnd.advanced {lexer : Lexer} (atEnd : lexer.AtEnd) : lexer.advanced.AtEnd := by
  rw [Lexer.advanced, Parser.after, atEnd.advance_eq]
  exact ⟨rfl, rfl⟩

/-- An advance reaches the end of the input only where it leaves nothing unread. -/
theorem EndsInput.advanced {lexer : Lexer} (ends : lexer.EndsInput) : lexer.advanced.EndsInput := by
  intro atEnd
  obtain ⟨blanks, _, ⟨_, outcome⟩ | ⟨piece, rest, apart, _, outcomes⟩⟩ := lexer.advanced_cases
  · rw [outcome]
  · obtain ⟨token, classified, outcome⟩ | ⟨error, _, outcome⟩ := outcomes
    · rw [outcome] at atEnd
      change token = .endOfInput at atEnd
      rw [atEnd] at classified
      exact absurd classified (Token.ofPiece_ne_endOfInput piece)
    · -- The current token has stayed, so it was the end already, while this piece was unread.
      rw [outcome] at atEnd
      have nothing := ends atEnd
      rw [apart] at nothing
      simp at nothing

/-- An advance consumes further pieces. -/
theorem Consumed.advanced {pieces consumed : List String} {lexer : Lexer}
    (before : Consumed pieces consumed lexer) :
    ∃ further, Consumed pieces (consumed ++ further) lexer.advanced := by
  obtain ⟨blanks, allBlank, cases⟩ := lexer.advanced_cases
  obtain ⟨noneExamined, noToken⟩ := Piece.skip_blanks allBlank
  obtain ⟨atEnd, outcome⟩ | ⟨piece, rest, apart, noBlank, outcomes⟩ := cases
  · refine ⟨blanks, ?_⟩
    rw [outcome]
    refine ⟨?_, ?_, .inl rfl⟩
    · rw [before.apart, atEnd, List.append_nil]
    · rw [List.reverse_cons, List.filter_append, before.examined, List.filter_append, noneExamined]
      simp [isExamination]
  · have consumes : pieces = consumed ++ (blanks ++ [piece]) ++ rest := by
      rw [before.apart, apart]
      simp
    have examines : ∀ entry, isExamination entry = true → Token.ofPiece piece = entry →
        (entry :: lexer.journal).reverse.filter isExamination =
          ((consumed ++ (blanks ++ [piece])).filter fun piece => !Piece.isBlank piece).map
            Token.ofPiece := by
      intro entry isExamination classified
      rw [List.reverse_cons, List.filter_append, before.examined, List.filter_append,
        List.filter_append, noneExamined]
      simp [isExamination, noBlank, classified]
    refine ⟨blanks ++ [piece], ?_⟩
    obtain ⟨token, classified, outcome⟩ | ⟨error, classified, outcome⟩ := outcomes
    · rw [outcome]
      have isPiece : isExamination (.ok token) = true := by
        cases token with
        | endOfInput => exact absurd classified (Token.ofPiece_ne_endOfInput piece)
        | _ => rfl
      refine ⟨consumes, examines _ isPiece classified, .inr ?_⟩
      simp [classified, Except.toOption]
    · rw [outcome]
      have noOther : [piece].filterMap (fun piece => (Token.ofPiece piece).toOption) = [] := by
        simp [classified, Except.toOption]
      refine ⟨consumes, examines _ rfl classified, ?_⟩
      rw [List.filterMap_append, List.filterMap_append, noToken, noOther, List.append_nil,
        List.append_nil]
      exact before.current

/-- After every run of a lexer that was started on a source, nothing is unread at its end. -/
theorem endsInput_run {text : String} {first : Lexer}
    (started : advance (ofSource text) = .ok () first) (actions : List Action) :
    (Action.run actions first).EndsInput := by
  apply Action.run_invariant EndsInput fun _ => EndsInput.advanced
  intro atEnd
  obtain ⟨_, _, ⟨_, _, nothing⟩ | ⟨piece, _, _, classified⟩⟩ := advance_ok_cases started
  · exact nothing
  · rw [atEnd] at classified
    exact absurd classified (Token.ofPiece_ne_endOfInput piece)

/-- After every run of a lexer that was started on a source, it has consumed some of the pieces. -/
theorem exists_consumed_run {text : String} {first : Lexer}
    (started : advance (ofSource text) = .ok () first) (actions : List Action) :
    ∃ consumed, Consumed (Piece.split text) consumed (Action.run actions first) := by
  have moreConsumed : ∀ lexer, (∃ consumed, Consumed (Piece.split text) consumed lexer) →
      ∃ consumed, Consumed (Piece.split text) consumed lexer.advanced := by
    intro lexer ⟨consumed, before⟩
    obtain ⟨further, behind⟩ := before.advanced
    exact ⟨consumed ++ further, behind⟩
  have nothingYet : Consumed (Piece.split text) [] (ofSource text) := ⟨rfl, rfl, .inl rfl⟩
  have firstAdvanced : (ofSource text).advanced = first := by
    rw [advanced, Parser.after, started]
  apply Action.run_invariant _ moreConsumed
  rw [← firstAdvanced]
  exact moreConsumed _ ⟨[], nothingYet⟩

end Lexer

/-- Once a lexer has been started on a source, all that is done with it, whether it fails or not,
advances it a number of times. The unread pieces are what is left of those of the source, none of
them is examined twice or out of order, and the current token is the last one that was found, or
the end of the input. That is reached only where nothing is unread, and it is never left. An advance
that fails consumes the blanks in front of the bad piece and that piece, and keeps the current
token; to ask for the current token or its kind changes nothing. -/
theorem lexer_invariant_of_run {text : String} {first lexer : Lexer} {actions : List Action}
    (started : Lexer.advance (Lexer.ofSource text) = .ok () first)
    (reached : Action.run actions first = lexer) :
    (∃ count, lexer = Lexer.advanced^[count] first) ∧
    (∃ consumed, Lexer.Consumed (Piece.split text) consumed lexer) ∧
    (lexer.current = .endOfInput → lexer.unread = []) ∧
    (∀ later, (Action.run later lexer).unread <:+ lexer.unread ∧
      (lexer.current = .endOfInput → (Action.run later lexer).current = .endOfInput)) ∧
    (∀ error last, Lexer.advance lexer = .error error last →
      last.current = lexer.current ∧
        ∃ blanks piece lexError, (∀ blank ∈ blanks, Piece.isBlank blank = true) ∧
          lexer.unread = blanks ++ piece :: last.unread ∧ Piece.isBlank piece = false ∧
          Token.ofPiece piece = .error lexError ∧ error = .lex lexError) ∧
    Parser.current lexer = .ok lexer.current lexer ∧
    Parser.look lexer = .ok lexer.current.kind lexer := by
  have advances := Action.exists_run_eq actions first
  have consumes := Lexer.exists_consumed_run started actions
  have ends := Lexer.endsInput_run started actions
  rw [reached] at advances consumes ends
  refine ⟨advances, consumes, ends, fun later => ⟨?_, fun atEnd => ?_⟩, fun error last failed => ?_,
    rfl, rfl⟩
  · apply Action.run_invariant (·.unread <:+ lexer.unread)
    · intro middle isSuffix
      exact middle.unread_advanced.trans isSuffix
    · exact List.suffix_rfl
  · have stays : (Action.run later lexer).AtEnd :=
      Action.run_invariant Lexer.AtEnd (fun _ => Lexer.AtEnd.advanced) later ⟨atEnd, ends atEnd⟩
    exact stays.1
  · exact ⟨Lexer.current_of_advance_error failed, Lexer.advance_error_cases failed⟩

/-- An operand is refused for its second piece, and the lexer goes on behind it to the end. -/
theorem lexer_invariant_of_run_badPiece :
    ∃ first last : Lexer, Lexer.advance (Lexer.ofSource "($)") = .ok () first ∧
      Lexer.advance first = .error (.lex (.illegalCharacter "$")) last ∧
      last.current = first.current ∧
      (Action.run [.parse .operands 1, .advance, .advance] first).current = .endOfInput ∧
      (Action.run [.parse .operands 1, .advance, .advance] first).unread = [] := by
  have started : Lexer.advance (Lexer.ofSource "($)") =
      .ok () ⟨.symbol .openParen, ["$", ")"], [.ok (.symbol .openParen)]⟩ := rfl
  obtain ⟨_, _, _, _, keeps, _⟩ := lexer_invariant_of_run started (rfl : Action.run [] _ = _)
  obtain ⟨_, _, ends, _⟩ := lexer_invariant_of_run started
    (rfl : Action.run [.parse .operands 1, .advance, .advance] _ = _)
  exact ⟨_, _, started, rfl, (keeps _ _ rfl).1, rfl, ends rfl⟩

end Calculator
