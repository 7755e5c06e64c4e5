import Calculator.Parser
import Calculator.Proofs.Phrases
import Calculator.Proofs.Scan
import Mathlib.Data.List.Infix

/-!
# Nesting of parentheses

How deep a text nests its parentheses, counted by its characters alone, and what that says about a
scan of the text: the scan never has more parentheses open than the characters before it do. Two
depths are named that the limits of the parser lie between.
-/

namespace Calculator

/-- At most so many parentheses are open anywhere in the text: every beginning of it has at most so
many opening parentheses more than closing ones. -/
def Text.NestsWithin (limit : Nat) (text : String) : Prop :=
  ∀ head, head <+: text.toList →
    head.count Symbol.openParen.char ≤ head.count Symbol.closeParen.char + limit

/-- Whether a text keeps to a nesting can be decided on its beginnings. -/
instance (limit : Nat) (text : String) : Decidable (Text.NestsWithin limit text) :=
  decidable_of_iff
    (∀ head ∈ text.toList.inits,
      head.count Symbol.openParen.char ≤ head.count Symbol.closeParen.char + limit)
    (by simp only [List.mem_inits, Text.NestsWithin])

/-- A text that keeps to a nesting keeps to every deeper one. -/
theorem Text.NestsWithin.mono {limit other : Nat} {text : String}
    (nests : Text.NestsWithin limit text) (le : limit ≤ other) : Text.NestsWithin other text :=
  fun head begins => Nat.le_trans (nests head begins) (Nat.add_le_add_left le _)

/-- A text without opening parentheses keeps to every nesting. -/
theorem Text.nestsWithin_of_not_mem {text : String}
    (noParenthesis : Symbol.openParen.char ∉ text.toList) (limit : Nat) :
    Text.NestsWithin limit text := by
  intro head begins
  have absent : Symbol.openParen.char ∉ head := fun among => noParenthesis (begins.subset among)
  rw [List.count_eq_zero_of_not_mem absent]
  exact Nat.zero_le _

/-- Parentheses around a text nest it one deeper. -/
theorem Text.NestsWithin.enclosed {limit : Nat} {text : String}
    (nests : Text.NestsWithin limit text) : Text.NestsWithin (limit + 1) (Text.enclosed text) := by
  intro head begins
  have written : (Text.enclosed text).toList =
      Symbol.openParen.char :: (text.toList ++ [Symbol.closeParen.char]) := by
    simp [Text.enclosed_eq, Symbol.toList_text]
  have other : Symbol.openParen.char ≠ Symbol.closeParen.char := by decide
  rw [written] at begins
  obtain rfl | ⟨inner, rfl, inside⟩ := List.prefix_cons_iff.mp begins
  · exact Nat.zero_le _
  · rw [List.count_cons_self, List.count_cons_of_ne other]
    obtain rfl | inText := List.prefix_concat_iff.mp inside
    · have bounded := nests text.toList (List.prefix_refl _)
      rw [List.count_append, List.count_append, List.count_singleton_self,
        List.count_singleton]
      simp only [beq_iff_eq, other.symm, if_false]
      omega
    · have bounded := nests inner inText
      omega

/-- So many parentheses around a text nest it so much deeper. -/
theorem Text.NestsWithin.iterate_enclosed {limit : Nat} {text : String}
    (nests : Text.NestsWithin limit text) (depth : Nat) :
    Text.NestsWithin (limit + depth) (Text.enclosed^[depth] text) := by
  induction depth with
  | zero => exact nests
  | succ depth ih =>
    rw [Function.iterate_succ_apply']
    exact ih.enclosed

namespace Parser

/-- A nesting that every expression may have. -/
def guaranteedNesting : Nat := 150

/-- A nesting that no expression may have. -/
def refusedNesting : Nat := 400

/-- The parser follows the guaranteed nesting, with the log and without. -/
theorem guaranteedNesting_le (logged : Bool) : guaranteedNesting ≤ nestingLimit logged := by
  cases logged <;> decide

/-- The parser does not follow the refused nesting. -/
theorem nestingLimit_lt_refusedNesting (logged : Bool) :
    nestingLimit logged + 1 < refusedNesting := by
  cases logged <;> decide

/-- Keeping the log leaves fewer calls for parentheses. -/
theorem nestingLimit_logged_le : nestingLimit true ≤ nestingLimit false := by decide

example : nestingLimit true = 194 ∧ nestingLimit false = 197 := by decide

/-- A scan that keeps to the guaranteed nesting keeps to the limit of the parser. -/
theorem opened_le_nestingLimit {states : List Scan.State}
    (within : ∀ visited ∈ states, visited.opened ≤ guaranteedNesting) (logged : Bool) :
    ∀ visited ∈ states, visited.opened ≤ nestingLimit logged :=
  fun visited among => Nat.le_trans (within visited among) (guaranteedNesting_le logged)

end Parser

namespace Scan

/-- A scan has as many parentheses open as the pieces before it opened and did not close. -/
theorem exists_front_of_mem_trail {state visited : State} {pieces : List String}
    (among : visited ∈ trail state pieces) :
    ∃ front, front <+: pieces ∧
      visited.opened + front.count Symbol.closeParen.text =
        state.opened + front.count Symbol.openParen.text := by
  have atStart : ∀ {here : State} {pieces : List String}, visited ∈ [here] →
      ∃ front, front <+: pieces ∧
        visited.opened + front.count Symbol.closeParen.text =
          here.opened + front.count Symbol.openParen.text := by
    intro here pieces found
    obtain rfl := List.mem_singleton.mp found
    exact ⟨[], List.nil_prefix, rfl⟩
  induction state, pieces using scan_induction with
  | atEnd state => exact atStart among
  | blank state piece rest isBlank ih =>
    rw [trail_blank rest isBlank] at among
    obtain ⟨front, begins, counted⟩ := ih among
    have noSymbol : ∀ symbol : Symbol, piece ≠ symbol.text := by
      rintro symbol rfl
      rw [Piece.isBlank_text] at isBlank
      cases isBlank
    refine ⟨piece :: front, List.prefix_cons_inj piece |>.mpr begins, ?_⟩
    rw [List.count_cons_of_ne (noSymbol _), List.count_cons_of_ne (noSymbol _)]
    exact counted
  | unreadable state piece rest error noBlank classified =>
    rw [trail_unreadable rest noBlank classified] at among
    exact atStart among
  | refused state piece rest token error noBlank classified refused =>
    rw [trail_refused rest noBlank classified refused] at among
    exact atStart among
  | passed state piece rest token next noBlank classified stepped ih =>
    rw [trail_passed rest noBlank classified stepped] at among
    obtain here | further := List.mem_cons.mp among
    · exact atStart (List.mem_singleton.mpr here)
    · obtain ⟨front, begins, counted⟩ := ih further
      have isSymbol : ∀ symbol : Symbol, piece = symbol.text ↔ token = .symbol symbol := by
        intro symbol
        rw [← Token.ofPiece_eq_symbol_iff, classified, Except.ok.injEq]
      have moved := State.opened_step stepped
      refine ⟨piece :: front, List.prefix_cons_inj piece |>.mpr begins, ?_⟩
      simp only [List.count_cons, beq_iff_eq, isSymbol]
      omega

/-- A scan of a text keeps to the nesting of the text. -/
theorem opened_le_of_nestsWithin {limit : Nat} {text : String}
    (nests : Text.NestsWithin limit text) :
    ∀ visited ∈ trailOfSource text, visited.opened ≤ limit := by
  intro visited among
  obtain ⟨front, begins, counted⟩ := exists_front_of_mem_trail among
  obtain ⟨head, headBegins, sameCount⟩ := Piece.exists_head_of_prefix begins
  have bounded := nests head headBegins
  rw [sameCount, sameCount] at bounded
  have fromZero : (State.beforeOperand 0).opened = 0 := rfl
  omega

/-- Where too many parentheses are open, a scan does not go past the next token. -/
theorem run_stepWithin_beyond {limit opened : Nat} (beyond : limit < opened) {pieces : List String}
    {tokens : List Token} (read : Token.ofPieces pieces = (tokens ++ [.endOfInput], none))
    (nonempty : tokens ≠ []) (rest : List String) :
    run (State.stepWithin limit) (.beforeOperand opened) (pieces ++ rest) =
      .error (.parse .nestedTooDeeply) := by
  induction pieces with
  | nil =>
    obtain rfl : tokens = [] := by simpa [Token.ofPieces] using read
    exact absurd rfl nonempty
  | cons piece others ih =>
    rw [List.cons_append]
    obtain ⟨blank, further⟩ | ⟨token, _, noBlank, classified, _, _⟩ :=
      Token.ofPieces_cons_cases read
    · rw [run_blank _ blank, ih further]
    · exact run_refused _ noBlank classified (if_pos beyond)

/-- An expression inside more parentheses than the limit allows is refused for the nesting. -/
theorem run_stepWithin_iterate_enclosed {limit depth opened : Nat} {text : String} {tree : Tree}
    (expression : Phrase .maxima text tree) (deep : limit < opened + depth) (rest : List String) :
    run (State.stepWithin limit) (.beforeOperand opened)
        (Piece.split (Text.enclosed^[depth] text) ++ rest) =
      .error (.parse .nestedTooDeeply) := by
  induction depth generalizing opened rest with
  | zero =>
    obtain ⟨tokens, read, derived⟩ := expression
    exact run_stepWithin_beyond deep read derived.ne_nil rest
  | succ depth ih =>
    by_cases beyond : limit < opened
    · obtain ⟨tokens, read, derived⟩ := expression.iterate_enclosed (depth + 1)
      exact run_stepWithin_beyond beyond read derived.ne_nil rest
    · have classified : Token.ofPiece Symbol.openParen.text = .ok (.symbol .openParen) :=
        Token.ofPiece_eq_symbol_iff.mpr rfl
      have stepped : (State.beforeOperand opened).stepWithin limit (.symbol .openParen) =
          .ok (.beforeOperand (opened + 1)) := if_neg beyond
      rw [Function.iterate_succ_apply', Piece.split_enclosed, List.cons_append,
        run_passed _ (Piece.isBlank_text .openParen) classified stepped, List.append_assoc]
      exact ih (by omega) _

/-- The scan of opening parentheses and nothing else opens them all. -/
theorem mem_trail_replicate (opened count : Nat) :
    .beforeOperand (opened + count) ∈
      trail (.beforeOperand opened) (List.replicate count Symbol.openParen.text) := by
  induction count generalizing opened with
  | zero => exact List.mem_singleton.mpr rfl
  | succ count ih =>
    have classified : Token.ofPiece Symbol.openParen.text = .ok (.symbol .openParen) :=
      Token.ofPiece_eq_symbol_iff.mpr rfl
    have stepped : (State.beforeOperand opened).step (.symbol .openParen) =
        .ok (.beforeOperand (opened + 1)) := rfl
    rw [List.replicate_succ, trail_passed _ (Piece.isBlank_text .openParen) classified stepped]
    have further := ih (opened + 1)
    rw [Nat.add_right_comm] at further
    exact List.mem_cons_of_mem _ further

end Scan

end Calculator
