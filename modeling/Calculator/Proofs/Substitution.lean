import Calculator.Proofs.Parsing
import Calculator.Proofs.Phrases
import Calculator.Proofs.Recursion

/-!
# Replacing one expression in parentheses by another

Whatever surrounds an expression in parentheses, it meets the expression only by its tree, and a
value only by the value of that tree. The scan steps over the parentheses and what they enclose as
over one operand, and the grammar derives the tree of the whole from the trees of its parts.
-/

namespace Calculator

namespace Derives

/-- A phrase closes as many parentheses as it opens. -/
theorem count_closeParen {level : Level} {tokens : List Token} {tree : Tree}
    (phrase : Derives level tokens tree) :
    tokens.count (.symbol .closeParen) = tokens.count (.symbol .openParen) := by
  have counted := (Scan.passes_of_derives phrase 0).opened_add_count
  simpa [Scan.State.opened] using counted

/-- No beginning of a phrase closes more parentheses than it opens. -/
theorem count_closeParen_le {level : Level} {front back : List Token} {tree : Tree}
    (phrase : Derives level (front ++ back) tree) :
    front.count (.symbol .closeParen) ≤ front.count (.symbol .openParen) := by
  obtain ⟨state, passes, _⟩ := (Scan.passes_of_derives phrase 0).exists_of_append
  have counted := passes.opened_add_count
  simp only [Scan.State.opened] at counted
  omega

/-- A phrase does not end inside a parenthesis that it opens. -/
theorem ne_append_openParen {level : Level} {tokens before inside : List Token} {tree : Tree}
    (phrase : Derives level tokens tree)
    (balanced : inside.count (.symbol .closeParen) ≤ inside.count (.symbol .openParen)) :
    tokens ≠ before ++ .symbol .openParen :: inside := by
  rintro rfl
  have whole := phrase.count_closeParen
  have begins := phrase.count_closeParen_le
  rw [List.count_append, List.count_append, List.count_cons_self,
    List.count_cons_of_ne (by decide)] at whole
  omega

/-- An expression in parentheses next to a phrase and an operator lies on one side of the
operator. -/
theorem enclosed_beside {level : Level} {s : Symbol}
    {left right before after inner : List Token} {leftTree tree : Tree}
    (phrase : Derives level left leftTree) (expression : Derives .maxima inner tree)
    (operator : s.level?.isSome = true)
    (same : left ++ .symbol s :: right = before ++ Token.enclosed inner ++ after) :
    (∃ rest, left = before ++ Token.enclosed inner ++ rest ∧ after = rest ++ .symbol s :: right) ∨
      ∃ front, before = left ++ .symbol s :: front ∧
        right = front ++ Token.enclosed inner ++ after := by
  have notOpen : s ≠ .openParen := by
    rintro rfl
    cases operator
  rw [List.append_assoc] at same
  obtain ⟨front, begins, ends⟩ | ⟨front, begins, ends⟩ := List.append_eq_append_iff.mp same
  · -- The operator stands in front of the parentheses.
    cases front with
    | nil =>
      obtain ⟨isOpen, _⟩ := List.cons.inj ends
      exact absurd (Token.symbol.inj isOpen) notOpen
    | cons first rest =>
      obtain ⟨rfl, others⟩ := List.cons.inj ends
      rw [List.append_eq, ← List.append_assoc] at others
      exact .inr ⟨rest, begins, others⟩
  · obtain ⟨rest, closed, further⟩ | ⟨rest, closed, further⟩ := List.append_eq_append_iff.mp ends
    · -- The operator stands behind the parentheses.
      rw [closed, ← List.append_assoc] at begins
      exact .inl ⟨rest, begins, further⟩
    · -- The operator cannot stand inside of them, unless the phrase ended before they are closed.
      cases front with
      | nil =>
        rw [List.nil_append] at closed
        rw [← closed] at further
        obtain ⟨isOpen, _⟩ := List.cons.inj further
        exact absurd (Token.symbol.inj isOpen) notOpen
      | cons first inside =>
        obtain ⟨rfl, content⟩ := List.cons.inj closed
        obtain whole | part := List.prefix_concat_iff.mp ⟨rest, content.symm⟩
        · obtain rfl : rest = [] := by simpa [whole] using content
          refine .inl ⟨[], ?_, by simpa using further.symm⟩
          rw [begins, whole, List.append_nil]
          rfl
        · obtain ⟨tail, rfl⟩ := part
          exact absurd begins (phrase.ne_append_openParen expression.count_closeParen_le)

end Derives

/-- An expression in parentheses anywhere in the tokens has a place in the tree, and with any other
expression in the parentheses the tokens are a phrase again, with the tree of the other expression
in that place. -/
def KeepsPlaces (level : Level) (tokens : List Token) (whole : Tree) : Prop :=
  ∀ ⦃before inner after : List Token⦄ ⦃tree : Tree⦄,
    tokens = before ++ Token.enclosed inner ++ after → Derives .maxima inner tree →
      ∃ context : Tree.Context, whole = context.fill tree ∧
        ∀ ⦃others : List Token⦄ ⦃otherTree : Tree⦄, Derives .maxima others otherTree →
          Derives level (before ++ Token.enclosed others ++ after) (context.fill otherTree)

namespace KeepsPlaces

/-- The parentheses of an operand are the place of the whole tree, and all other places are places
of the expression inside. -/
theorem enclosed {content : List Token} {whole : Tree} (expression : Derives .maxima content whole)
    (inside : KeepsPlaces .maxima content whole) :
    KeepsPlaces .operands (Token.enclosed content) whole := by
  intro before inner after tree same innerExpression
  cases before with
  | nil =>
    -- The parentheses are the same ones, since an expression ends at the first place it can.
    obtain ⟨_, same⟩ := List.cons.inj same
    have atClose : ∀ rest, Level.maxima.StopsAt (.symbol .closeParen :: rest) := by
      intro rest
      rw [Level.stopsAt_cons]
      rfl
    simp only [List.append_eq, List.append_assoc, List.cons_append, List.nil_append] at same
    obtain ⟨rfl, rfl⟩ := expression.unique innerExpression same (atClose _) (atClose _)
    obtain rfl : after = [] := by simpa using same
    refine ⟨.hole, rfl, fun others otherTree otherExpression => ?_⟩
    rw [List.nil_append, List.append_nil]
    exact .enclosed otherExpression
  | cons first front =>
    obtain ⟨rfl, further⟩ := List.cons.inj same
    change content ++ [.symbol .closeParen] = front ++ Token.enclosed inner ++ after at further
    obtain rfl | ⟨rest, last, rfl⟩ := List.eq_nil_or_concat after
    · -- The last parenthesis would close both, and the expression would end inside a parenthesis.
      have cut : content ++ [.symbol .closeParen] =
          (front ++ .symbol .openParen :: inner) ++ [.symbol .closeParen] := by
        rw [further, Token.enclosed]
        simp
      have isCut := List.append_cancel_right cut
      exact absurd isCut (expression.ne_append_openParen innerExpression.count_closeParen.le)
    · rw [List.concat_eq_append, ← List.append_assoc] at further
      obtain ⟨isContent, isLast⟩ := List.append_inj' further rfl
      obtain ⟨context, filled, others⟩ := inside isContent innerExpression
      refine ⟨context, filled, fun tokens otherTree otherExpression => ?_⟩
      have again := Derives.enclosed (others otherExpression)
      rw [isLast] at again
      simpa [List.append_assoc] using again

/-- The places of a branch are those of its operands. -/
theorem branch {level leftLevel rightLevel : Level} {s : Symbol} {left right : List Token}
    {first second : Tree} (operator : s.level?.isSome = true)
    (leftPhrase : Derives leftLevel left first) (rightPhrase : Derives rightLevel right second)
    (leftPlaces : KeepsPlaces leftLevel left first)
    (rightPlaces : KeepsPlaces rightLevel right second)
    (join : ∀ {before after one other}, Derives leftLevel before one →
      Derives rightLevel after other →
        Derives level (before ++ .symbol s :: after) (.branch s.text one other)) :
    KeepsPlaces level (left ++ .symbol s :: right) (.branch s.text first second) := by
  intro before inner after tree same expression
  obtain ⟨rest, isLeft, rfl⟩ | ⟨front, rfl, isRight⟩ :=
    leftPhrase.enclosed_beside expression operator same
  · obtain ⟨context, rfl, others⟩ := leftPlaces isLeft expression
    refine ⟨.left s.text context second, rfl, fun tokens otherTree otherExpression => ?_⟩
    have again := join (others otherExpression) rightPhrase
    rw [Tree.Context.fill]
    simpa [List.append_assoc] using again
  · obtain ⟨context, rfl, others⟩ := rightPlaces isRight expression
    refine ⟨.right s.text first context, rfl, fun tokens otherTree otherExpression => ?_⟩
    have again := join leftPhrase (others otherExpression)
    rw [Tree.Context.fill]
    simpa [List.append_assoc] using again

end KeepsPlaces

/-- Every phrase keeps the places of the expressions in parentheses. -/
theorem Derives.keepsPlaces {level : Level} {tokens : List Token} {whole : Tree}
    (phrase : Derives level tokens whole) : KeepsPlaces level tokens whole := by
  induction phrase with
  | number value =>
    intro before inner after tree same _
    have isNumber : Token.symbol .openParen ∈ [Token.number value] := by
      simp [same, Token.enclosed]
    simp at isNumber
  | enclosed expression ih => exact .enclosed expression ih
  | alone notOperands _ ih =>
    intro before inner after tree same expression
    obtain ⟨context, filled, others⟩ := ih same expression
    exact ⟨context, filled, fun _ _ otherExpression => .alone notOperands (others otherExpression)⟩
  | left operator notPower leftPhrase rightPhrase leftPlaces rightPlaces =>
    have isOperator := Option.isSome_of_eq_some operator
    exact .branch isOperator leftPhrase rightPhrase leftPlaces rightPlaces (.left operator notPower)
  | right base exponent basePlaces exponentPlaces =>
    exact .branch rfl base exponent basePlaces exponentPlaces .right

/-! ## Sources with an expression in parentheses -/

/-- The tokens of a text in parentheses stand between those of what surrounds it, and another text
in the parentheses changes no other token. -/
theorem Token.exists_around_enclosed {front text back : String} {tokens inner : List Token}
    (read : ofSource (front ++ Text.enclosed text ++ back) = (tokens ++ [endOfInput], none))
    (readInner : ofSource text = (inner ++ [endOfInput], none)) :
    ∃ before after, tokens = before ++ enclosed inner ++ after ∧
      ∀ {other : String} {others : List Token},
        ofSource other = (others ++ [endOfInput], none) →
          ofSource (front ++ Text.enclosed other ++ back) =
            (before ++ enclosed others ++ after ++ [endOfInput], none) := by
  rw [ofSource, Piece.split_append_enclosed] at read
  obtain ⟨upTo, after, rfl, readUpTo, readAfter⟩ := exists_of_ofPieces_append read
  obtain ⟨before, middle, rfl, readBefore, readMiddle⟩ := exists_of_ofPieces_append readUpTo
  have found := (ofSource_enclosed readInner).symm.trans readMiddle
  obtain rfl := List.append_cancel_right (Prod.mk.inj found).1
  refine ⟨before, after, rfl, fun {other others} readOther => ?_⟩
  have readEnclosed := ofSource_enclosed readOther
  rw [ofSource] at readEnclosed
  have readFront : ofPieces (Piece.split front ++ Piece.split (Text.enclosed other)) =
      (before ++ enclosed others ++ [endOfInput], none) := by
    rw [ofPieces_append _ readBefore, readEnclosed, List.append_assoc]
  rw [ofSource, Piece.split_append_enclosed, ofPieces_append _ readFront, readAfter]
  simp only [List.append_assoc]

namespace Scan

/-- Behind an operand no parenthesis can be opened. -/
theorem run_openParen (opened : Nat) (rest : List String) :
    run State.step (.afterOperand opened) (Symbol.openParen.text :: rest) =
      .error (.parse (.expected (State.closing opened))) := by
  have classified : Token.ofPiece Symbol.openParen.text = .ok (.symbol .openParen) :=
    Token.ofPiece_eq_symbol_iff.mpr rfl
  have refused : (State.afterOperand opened).step (.symbol .openParen) =
      .error (.expected (State.closing opened)) := by
    cases opened <;> rfl
  exact run_refused rest (Piece.isBlank_text .openParen) classified refused

/-- What follows an expression in parentheses is scanned in the same way whatever the expression
is. -/
theorem run_enclosed_congr {text other : String} {tree otherTree : Tree}
    (expression : Phrase .maxima text tree) (otherExpression : Phrase .maxima other otherTree)
    (rest : List String) (state : State) :
    run State.step state (Piece.split (Text.enclosed text) ++ rest) =
      run State.step state (Piece.split (Text.enclosed other) ++ rest) := by
  cases state with
  | beforeOperand opened =>
    obtain ⟨tokens, read, derived⟩ := expression.enclosed
    obtain ⟨others, otherRead, otherDerived⟩ := otherExpression.enclosed
    rw [run_append rest read (passes_of_derives derived opened),
      run_append rest otherRead (passes_of_derives otherDerived opened)]
  | afterOperand opened =>
    rw [Piece.split_enclosed, Piece.split_enclosed, List.cons_append, List.cons_append,
      run_openParen, run_openParen]

end Scan

/-- Whatever surrounds one of two expressions in parentheses, it is scanned in the same way. -/
theorem Scan.ofSource_enclosed_congr {text other : String} {tree otherTree : Tree}
    (expression : Phrase .maxima text tree) (otherExpression : Phrase .maxima other otherTree)
    (front back : String) :
    ofSource (front ++ Text.enclosed text ++ back) =
      ofSource (front ++ Text.enclosed other ++ back) := by
  rw [ofSource, ofSource, Piece.split_append_enclosed, Piece.split_append_enclosed,
    List.append_assoc, List.append_assoc]
  exact run_append_congr (run_enclosed_congr expression otherExpression _) _ _

/-- An expression with a value has a tree with that value. -/
theorem exists_tree_of_interpret {text : String} {value : Double}
    (hasValue : interpret text = .ok value) :
    ∃ tree, parse text = .ok tree ∧ tree.evaluate = .ok value := by
  rw [interpret] at hasValue
  cases parsed : parse text with
  | error error =>
    rw [parsed] at hasValue
    cases hasValue
  | ok tree =>
    simp only [parsed] at hasValue
    cases evaluated : tree.evaluate with
    | error error =>
      rw [evaluated] at hasValue
      cases hasValue
    | ok found =>
      rw [evaluated] at hasValue
      cases hasValue
      exact ⟨tree, rfl, evaluated⟩

/-- Two sources that differ in an expression in parentheses only are refused with one error, or
parsed to trees that differ in the subtree of that expression only. -/
theorem Parser.parse_enclosed {text other : String} {tree otherTree : Tree}
    (parsed : parse text = .ok tree) (otherParsed : parse other = .ok otherTree)
    {front back : String}
    (nests : Text.NestsWithin guaranteedNesting (front ++ Text.enclosed text ++ back))
    (otherNests : Text.NestsWithin guaranteedNesting (front ++ Text.enclosed other ++ back)) :
    (∃ error, parse (front ++ Text.enclosed text ++ back) = .error error ∧
        parse (front ++ Text.enclosed other ++ back) = .error error) ∨
      ∃ context : Tree.Context,
        parse (front ++ Text.enclosed text ++ back) = .ok (context.fill tree) ∧
          parse (front ++ Text.enclosed other ++ back) = .ok (context.fill otherTree) := by
  have expression := derives_of_parse parsed
  have otherExpression := derives_of_parse otherParsed
  cases outcome : parse (front ++ Text.enclosed text ++ back) with
  | error error =>
    have reported := parse_map_eq_ofSource (Scan.opened_le_of_nestsWithin nests)
    have otherReported := parse_map_eq_ofSource (Scan.opened_le_of_nestsWithin otherNests)
    rw [Scan.ofSource_enclosed_congr expression otherExpression, ← otherReported, outcome]
      at reported
    cases otherOutcome : parse (front ++ Text.enclosed other ++ back) with
    | error otherError =>
      rw [otherOutcome] at reported
      cases reported
      exact .inl ⟨error, rfl, rfl⟩
    | ok whole =>
      rw [otherOutcome] at reported
      cases reported
  | ok whole =>
    obtain ⟨inner, readInner, derivedInner⟩ := expression
    obtain ⟨others, readOthers, derivedOthers⟩ := otherExpression
    obtain ⟨tokens, read, derived⟩ := derives_of_parse outcome
    obtain ⟨before, after, same, readAround⟩ := Token.exists_around_enclosed read readInner
    obtain ⟨context, rfl, derivedAround⟩ := derived.keepsPlaces same derivedInner
    refine .inr ⟨context, rfl, ?_⟩
    exact parse_of_derives otherNests (readAround readOthers) (derivedAround derivedOthers)

/-- Two expressions with the same value may replace each other in parentheses, whatever surrounds
them: the sources have the same value or fail for the same reason. If the expressions have the same
tree too, then so have the sources. -/
theorem interpret_enclosed_congr (front back text other : String) (value : Double)
    (hasValue : interpret text = .ok value) (otherHasValue : interpret other = .ok value)
    (nests : Text.NestsWithin Parser.guaranteedNesting (front ++ Text.enclosed text ++ back))
    (otherNests : Text.NestsWithin Parser.guaranteedNesting
      (front ++ Text.enclosed other ++ back)) :
    interpret (front ++ Text.enclosed text ++ back) =
        interpret (front ++ Text.enclosed other ++ back) ∧
      (parse text = parse other →
        parse (front ++ Text.enclosed text ++ back) =
          parse (front ++ Text.enclosed other ++ back)) := by
  obtain ⟨tree, parsed, evaluated⟩ := exists_tree_of_interpret hasValue
  obtain ⟨otherTree, otherParsed, otherEvaluated⟩ := exists_tree_of_interpret otherHasValue
  have same : tree.evaluate = otherTree.evaluate := evaluated.trans otherEvaluated.symm
  obtain ⟨error, outcome, otherOutcome⟩ | ⟨context, outcome, otherOutcome⟩ :=
    Parser.parse_enclosed parsed otherParsed nests otherNests
  · rw [interpret, interpret, outcome, otherOutcome]
    exact ⟨rfl, fun _ => rfl⟩
  · have sameWhole : (context.fill tree).evaluate = (context.fill otherTree).evaluate :=
      Tree.evaluateWith_fill same context
    constructor
    · rw [interpret, interpret, outcome, otherOutcome]
      simp only [sameWhole]
    · intro sameTree
      rw [parsed, otherParsed, Except.ok.injEq] at sameTree
      rw [outcome, otherOutcome, sameTree]

/-- In `1^(1)-1` the expression in parentheses may be replaced by `(1.)`, with parentheses of its
own. -/
theorem interpret_enclosed_congr_one :
    interpret ("1^" ++ Text.enclosed "1" ++ "-1") =
        interpret ("1^" ++ Text.enclosed "(1.)" ++ "-1") ∧
      parse ("1^" ++ Text.enclosed "1" ++ "-1") =
        parse ("1^" ++ Text.enclosed "(1.)" ++ "-1") := by
  have replaced := interpret_enclosed_congr "1^" "-1" "1" "(1.)" .one (by decide +kernel)
    (by decide +kernel) (by decide +kernel) (by decide +kernel)
  exact ⟨replaced.1, replaced.2 (by decide +kernel)⟩

end Calculator
