import Calculator.Proofs.Totality

/-!
# Expressions put together by operators

Two sources with an operator between them are one expression with that operator at its root, if the
operators of the sources outside of their parentheses bind tightly enough. Whether they do is told
by the characters of the sources alone. From that it follows how a chain of operators is grouped:
to the left, and to the right for the power.
-/

namespace Calculator

namespace Symbol

/-- The place of an operator among the levels, the loosest being the first. A parenthesis has the
place in front of them. -/
def rank (s : Symbol) : Nat :=
  match s.level? with
  | some level => level.rank
  | none => 0

/-- Of symbols inside so many open parentheses, those that stand outside of all parentheses. -/
def outside (opened : Nat) : List Symbol → List Symbol
  | [] => []
  | .openParen :: rest => outside (opened + 1) rest
  | .closeParen :: rest => outside (opened - 1) rest
  | s :: rest => if opened = 0 then s :: outside opened rest else outside opened rest

end Symbol

/-- The operators of a text outside of its parentheses, in order. -/
def Text.outerOperators (text : String) : List Symbol :=
  Symbol.outside 0 (text.toList.filterMap Symbol.ofChar?)

/-- The operator may stand between two texts without parentheses around them. Behind an operator
that groups to the left only tighter operators may follow, and in front of it equally tight ones
may stand. A power has no operator in front of it and only powers behind it. -/
def Symbol.Joins (s : Symbol) (front back : String) : Prop :=
  match s.level? with
  | none => False
  | some .powers =>
    Text.outerOperators front = [] ∧ ∀ other ∈ Text.outerOperators back, other = .power
  | some _ =>
    (∀ other ∈ Text.outerOperators front, s.rank ≤ other.rank) ∧
      ∀ other ∈ Text.outerOperators back, s.rank < other.rank

/-! ## Symbols outside of parentheses -/

/-- The symbol that a token is. -/
def Token.symbol? : Token → Option Symbol
  | symbol s => some s
  | _ => none

namespace Symbol

/-- The place of an operator is that of its level. -/
theorem rank_eq {level : Level} {s : Symbol} (operator : s.level? = some level) :
    s.rank = level.rank := by
  rw [rank, operator]

/-- An operator outside of parentheses is one of those. -/
theorem outside_operator {s : Symbol} (operator : s.level?.isSome = true) (opened : Nat)
    (rest : List Symbol) :
    outside opened (s :: rest) =
      (if opened = 0 then [s] else []) ++ outside opened rest := by
  cases s with
  | openParen => cases operator
  | closeParen => cases operator
  | _ =>
    rw [outside]
    · split <;> rfl
    all_goals simp

end Symbol

namespace Token

/-- The operators among tokens outside of their parentheses. -/
def outerOperators (tokens : List Token) : List Symbol :=
  Symbol.outside 0 (tokens.filterMap symbol?)

/-- Behind the tokens as many parentheses are open as in front of them, and the operators of the
tokens stand outside of parentheses only where none is open. -/
def IsClosed (tokens : List Token) : Prop :=
  ∀ opened rest, Symbol.outside opened (tokens.filterMap symbol? ++ rest) =
    (if opened = 0 then outerOperators tokens else []) ++ Symbol.outside opened rest

/-- A number is no symbol. -/
theorem outside_number (value : Double) :
    outerOperators [number value] = [] ∧ IsClosed [number value] := by
  have nothing : outerOperators [number value] = [] := rfl
  refine ⟨nothing, fun opened rest => ?_⟩
  rw [nothing, ite_self]
  rfl

/-- Nothing in parentheses stands outside of them. -/
theorem IsClosed.enclosed {inner : List Token} (closed : IsClosed inner) :
    outerOperators (enclosed inner) = [] ∧ IsClosed (enclosed inner) := by
  have content : (Token.enclosed inner).filterMap symbol? =
      .openParen :: (inner.filterMap symbol? ++ [.closeParen]) := by
    simp [Token.enclosed, symbol?]
  have nothing : outerOperators (Token.enclosed inner) = [] := by
    rw [outerOperators, content, Symbol.outside, closed]
    rfl
  refine ⟨nothing, fun opened rest => ?_⟩
  rw [nothing, ite_self, content, List.cons_append, List.append_assoc, Symbol.outside, closed]
  rfl

/-- An operator outside of parentheses stands between those in front of it and those behind it. -/
theorem IsClosed.around {before after : List Token} {s : Symbol} (closedBefore : IsClosed before)
    (closedAfter : IsClosed after) (operator : s.level?.isSome = true) :
    outerOperators (before ++ symbol s :: after) =
        outerOperators before ++ s :: outerOperators after ∧
      IsClosed (before ++ symbol s :: after) := by
  have content : (before ++ symbol s :: after).filterMap symbol? =
      before.filterMap symbol? ++ s :: after.filterMap symbol? := by
    simp [symbol?]
  have whole : outerOperators (before ++ symbol s :: after) =
      outerOperators before ++ s :: outerOperators after := by
    rw [outerOperators, content, closedBefore, Symbol.outside_operator operator]
    rfl
  refine ⟨whole, fun opened rest => ?_⟩
  rw [whole, content, List.append_assoc, closedBefore, List.cons_append,
    Symbol.outside_operator operator, closedAfter]
  split <;> simp

end Token

namespace Derives

/-- A phrase closes what it opens. -/
theorem isClosed {level : Level} {tokens : List Token} {tree : Tree}
    (phrase : Derives level tokens tree) : Token.IsClosed tokens := by
  induction phrase with
  | number value => exact (Token.outside_number value).2
  | enclosed _ ih => exact ih.enclosed.2
  | alone _ _ ih => exact ih
  | left operator _ _ _ leftClosed rightClosed =>
    exact (leftClosed.around rightClosed (Option.isSome_of_eq_some operator)).2
  | right _ _ leftClosed rightClosed => exact (leftClosed.around rightClosed rfl).2

/-- A phrase is a phrase of the operands or of the level of one of its operators outside of
parentheses. -/
theorem exists_tightest {level : Level} {tokens : List Token} {tree : Tree}
    (phrase : Derives level tokens tree) :
    ∃ tightest, Derives tightest tokens tree ∧
      (tightest = .operands ∨ ∃ s ∈ Token.outerOperators tokens, s.level? = some tightest) := by
  induction phrase with
  | number value => exact ⟨.operands, .number value, .inl rfl⟩
  | enclosed expression _ => exact ⟨.operands, .enclosed expression, .inl rfl⟩
  | alone _ _ ih => exact ih
  | @left level symbol before after _ _ operator notPower leftPhrase rightPhrase _ _ =>
    have isOperator := Option.isSome_of_eq_some operator
    have whole := (leftPhrase.isClosed.around rightPhrase.isClosed isOperator).1
    exact ⟨level, .left operator notPower leftPhrase rightPhrase, .inr ⟨symbol, by simp [whole],
      operator⟩⟩
  | right base exponent _ _ =>
    have whole := (base.isClosed.around (s := .power) exponent.isClosed rfl).1
    exact ⟨.powers, .right base exponent, .inr ⟨.power, by simp [whole], rfl⟩⟩

/-- A phrase without looser operators outside of parentheses is a phrase of the level. -/
theorem tighten {level other : Level} {tokens : List Token} {tree : Tree}
    (phrase : Derives other tokens tree)
    (tight : ∀ s ∈ Token.outerOperators tokens, level.rank ≤ s.rank) :
    Derives level tokens tree := by
  obtain ⟨tightest, derived, rfl | ⟨s, among, operator⟩⟩ := phrase.exists_tightest
  · have loosest : level.rank ≤ Level.operands.rank := by
      cases level <;> decide
    exact derived.loosen loosest
  · have looser := tight s among
    rw [Symbol.rank_eq operator] at looser
    exact derived.loosen looser

end Derives

/-! ## Operators of a source -/

namespace Token

/-- The symbol characters of a piece are the symbol that it is. -/
theorem filterMap_ofChar?_piece {piece : String} {token : Token}
    (classified : ofPiece piece = .ok token) :
    piece.toList.filterMap Symbol.ofChar? = [token].filterMap symbol? := by
  cases token with
  | symbol s =>
    rw [ofPiece_eq_symbol_iff.mp classified, Symbol.toList_text]
    simp [Symbol.ofChar?_char, symbol?]
  | number value =>
    obtain ⟨_, _, literal, _, _⟩ := literal_of_ofPiece classified
    obtain ⟨_, numeric⟩ := Decimal.characters_of_ofLiteral? literal
    have noSymbol : ∀ c ∈ piece.toList, Symbol.ofChar? c = none := by
      intro c among
      have noDelimiter := Piece.isDelimiter_eq_false (numeric c among)
      rw [Piece.isDelimiter, Bool.or_eq_false_iff] at noDelimiter
      simpa using noDelimiter.2
    exact List.filterMap_eq_nil_iff.mpr noSymbol
  | endOfInput => exact absurd classified (ofPiece_ne_endOfInput piece)

/-- A blank holds no symbol character. -/
theorem filterMap_ofChar?_blank {piece : String} (blank : Piece.isBlank piece = true) :
    piece.toList.filterMap Symbol.ofChar? = [] := by
  obtain rfl | rfl | rfl | rfl := Piece.blank_cases blank <;> decide

/-- The symbol characters of pieces are the symbols among their tokens. -/
theorem filterMap_ofChar?_pieces {pieces : List String} {tokens : List Token}
    (read : ofPieces pieces = (tokens ++ [endOfInput], none)) :
    (pieces.map String.toList).flatten.filterMap Symbol.ofChar? = tokens.filterMap symbol? := by
  induction pieces generalizing tokens with
  | nil =>
    obtain rfl : tokens = [] := by simpa [ofPieces] using read
    rfl
  | cons piece rest ih =>
    rw [List.map_cons, List.flatten_cons, List.filterMap_append]
    obtain ⟨blank, further⟩ | ⟨token, others, _, classified, rfl, further⟩ :=
      ofPieces_cons_cases read
    · rw [filterMap_ofChar?_blank blank, ih further, List.nil_append]
    · rw [filterMap_ofChar?_piece classified, ih further, ← List.filterMap_append,
        List.singleton_append]

/-- The symbol characters of a source are the symbols among its tokens. -/
theorem filterMap_ofChar?_source {text : String} {tokens : List Token}
    (read : ofSource text = (tokens ++ [endOfInput], none)) :
    text.toList.filterMap Symbol.ofChar? = tokens.filterMap symbol? := by
  have pieces : ((Piece.split text).map String.toList).flatten = text.toList := by
    rw [Piece.split, List.map_map]
    have same : (Piece.splitChars text.toList).map (String.toList ∘ String.ofList) =
        (Piece.splitChars text.toList).map id :=
      List.map_congr_left fun piece _ => String.toList_ofList
    rw [same, List.map_id, Piece.flatten_splitChars]
  rw [← pieces, filterMap_ofChar?_pieces read]

/-- The operators of a source outside of its parentheses are those of its tokens. -/
theorem outerOperators_ofSource {text : String} {tokens : List Token}
    (read : ofSource text = (tokens ++ [endOfInput], none)) :
    Text.outerOperators text = outerOperators tokens := by
  rw [Text.outerOperators, filterMap_ofChar?_source read, outerOperators]

end Token

/-- A source that is parsed is a phrase of the level if it has no looser operator outside of its
parentheses. -/
theorem Phrase.of_parse {level : Level} {text : String} {tree : Tree}
    (parsed : parse text = .ok tree)
    (tight : ∀ s ∈ Text.outerOperators text, level.rank ≤ s.rank) : Phrase level text tree := by
  obtain ⟨tokens, read, derived⟩ := Parser.derives_of_parse parsed
  rw [Token.outerOperators_ofSource read] at tight
  exact ⟨tokens, read, derived.tighten tight⟩

/-! ## Expressions and what they are put together to -/

/-- A source that is parsed, with its tree and its value. -/
structure Expression where
  /-- The source. -/
  text : String
  /-- Its tree. -/
  tree : Tree
  /-- Its value. -/
  value : Double
  parsed : parse text = .ok tree
  interpreted : interpret text = .ok value

/-- Every source that is parsed is an expression. -/
theorem Expression.exists_of_parse {text : String} {tree : Tree} (parsed : parse text = .ok tree) :
    ∃ expression : Expression, expression.text = text ∧ expression.tree = tree := by
  obtain ⟨value, evaluated, _⟩ := (isExpression_of_parse parsed).exists_evaluate
  have interpreted : interpret text = .ok value := by
    simp only [interpret, parsed, evaluated]
  exact ⟨⟨text, tree, value, parsed, interpreted⟩, rfl, rfl⟩

/-- The value of an expression is that of its tree. -/
theorem Expression.evaluate_tree (expression : Expression) :
    expression.tree.evaluate = .ok expression.value := by
  obtain ⟨tree, parsed, evaluated⟩ := exists_tree_of_interpret expression.interpreted
  obtain rfl := Except.ok.inj (expression.parsed.symm.trans parsed)
  exact evaluated

/-- The value of a branch is what its operator makes of the values of its subtrees. -/
theorem Tree.evaluate_branch {level : Level} {s : Symbol} {left right : Tree} {x y : Double}
    (operator : s.level? = some level) (leftValue : left.evaluate = .ok x)
    (rightValue : right.evaluate = .ok y) :
    (branch s.text left right).evaluate = .ok (s.apply x y) := by
  rw [evaluate, evaluateWith_eq] at leftValue rightValue ⊢
  simp only [valueWith, leftValue, rightValue, operators_text operator]

/-- A phrase whose tree has a value is parsed and has that value, if it keeps to the guaranteed
nesting. -/
theorem Phrase.parse_and_interpret {level : Level} {text : String} {tree : Tree} {value : Double}
    (phrase : Phrase level text tree) (evaluated : tree.evaluate = .ok value)
    (nests : Text.NestsWithin Parser.guaranteedNesting text) :
    parse text = .ok tree ∧ interpret text = .ok value := by
  obtain ⟨tokens, read, derived⟩ := phrase.expression
  have parsed := Parser.parse_of_derives nests read derived
  refine ⟨parsed, ?_⟩
  simp only [interpret, parsed, evaluated]

/-- An operator that may stand between two texts finds phrases of its levels on its sides. -/
theorem Symbol.Joins.exists_level {s : Symbol} {front back : String} (joins : s.Joins front back) :
    ∃ level, s.level? = some level ∧
      (∀ other ∈ Text.outerOperators front, level.leftOperand.rank ≤ other.rank) ∧
        ∀ other ∈ Text.outerOperators back, level.rightOperand.rank ≤ other.rank := by
  cases s with
  | power =>
    obtain ⟨noOperator, onlyPowers⟩ := joins
    refine ⟨.powers, rfl, by simp [noOperator], fun other among => ?_⟩
    rw [onlyPowers other among]
    exact Nat.le_refl _
  | openParen => exact joins.elim
  | closeParen => exact joins.elim
  | _ => exact ⟨_, rfl, joins.1, joins.2⟩

/-- Two expressions with an operator that may stand between them are an expression. -/
theorem Symbol.Joins.parse_and_interpret {s : Symbol} {a b : Expression}
    (joins : s.Joins a.text b.text)
    (nests : Text.NestsWithin Parser.guaranteedNesting (a.text ++ s.text ++ b.text)) :
    parse (a.text ++ s.text ++ b.text) = .ok (.branch s.text a.tree b.tree) ∧
      operators s.text = some s.apply ∧
      interpret (a.text ++ s.text ++ b.text) = .ok (s.apply a.value b.value) := by
  obtain ⟨level, operator, tightFront, tightBack⟩ := joins.exists_level
  have front : Phrase level.leftOperand a.text a.tree := .of_parse a.parsed tightFront
  have back : Phrase level.rightOperand b.text b.tree := .of_parse b.parsed tightBack
  have evaluated := Tree.evaluate_branch operator a.evaluate_tree b.evaluate_tree
  obtain ⟨parsed, interpreted⟩ :=
    (Phrase.branch operator front back).parse_and_interpret evaluated nests
  exact ⟨parsed, operators_text operator, interpreted⟩

/-- Parentheses around an expression leave its tree as it is. -/
theorem Expression.parse_enclosed {expression : Expression}
    (nests : Text.NestsWithin Parser.guaranteedNesting (Text.enclosed expression.text)) :
    parse (Text.enclosed expression.text) = .ok expression.tree := by
  have whole : Phrase .maxima expression.text expression.tree :=
    Parser.derives_of_parse expression.parsed
  exact (whole.enclosed.parse_and_interpret expression.evaluate_tree nests).1

/-- Links of a chain: operators and the expressions behind them. -/
abbrev Links := List (Symbol × Expression)

namespace Level

/-- In front of an operator that groups to the left its own level may stand. -/
theorem leftOperand_of_notPower {level : Level} (notPower : level ≠ .powers) :
    level.leftOperand = level := by
  cases level with
  | powers => exact absurd rfl notPower
  | _ => rfl

/-- Behind an operator that groups to the left a tighter level has to stand. -/
theorem rank_rightOperand_le {level : Level} (notPower : level ≠ .powers) :
    level.rightOperand.rank ≤ level.rank + 1 := by
  cases level with
  | powers => exact absurd rfl notPower
  | _ => decide

end Level

namespace Links

/-- The text of a chain that begins with a text. -/
def text (first : String) (links : Links) : String :=
  links.foldl (fun front link => front ++ link.1.text ++ link.2.text) first

/-- The links have operators of the level, and tighter operators only in their expressions. -/
def Fit (level : Level) (links : Links) : Prop :=
  ∀ link ∈ links, link.1.level? = some level ∧
    ∀ other ∈ Text.outerOperators link.2.text, level.rank < other.rank

/-- A chain of operators that group to the left is a phrase, and so is the tree and the value that
they make of it from the left. -/
theorem phrase {level : Level} (notPower : level ≠ .powers) {links : Links} (fit : links.Fit level)
    {front : String} {tree : Tree} {value : Double} (begins : Phrase level front tree)
    (evaluated : tree.evaluate = .ok value) :
    Phrase level (links.text front)
        (links.foldl (fun left link => .branch link.1.text left link.2.tree) tree) ∧
      (links.foldl (fun left link => .branch link.1.text left link.2.tree) tree).evaluate =
        .ok (links.foldl (fun x link => link.1.apply x link.2.value) value) := by
  induction links generalizing front tree value with
  | nil => exact ⟨begins, evaluated⟩
  | cons link others ih =>
    obtain ⟨⟨operator, tight⟩, fitOthers⟩ := List.forall_mem_cons.mp fit
    have rightSide : ∀ other ∈ Text.outerOperators link.2.text,
        level.rightOperand.rank ≤ other.rank := by
      intro other among
      exact Nat.le_trans (Level.rank_rightOperand_le notPower) (tight other among)
    have leftPhrase : Phrase level.leftOperand front tree := by
      rw [Level.leftOperand_of_notPower notPower]
      exact begins
    have joined := Phrase.branch operator leftPhrase (.of_parse link.2.parsed rightSide)
    exact ih fitOthers joined (Tree.evaluate_branch operator evaluated link.2.evaluate_tree)

/-- A chain of operators that group to the left has the tree and the value that they make of it from
the left. -/
theorem parse_and_interpret {level : Level} (notPower : level ≠ .powers) {links : Links}
    (fit : links.Fit level) {first : Expression}
    (tight : ∀ other ∈ Text.outerOperators first.text, level.rank ≤ other.rank)
    (nests : Text.NestsWithin Parser.guaranteedNesting (links.text first.text)) :
    parse (links.text first.text) =
        .ok (links.foldl (fun left link => .branch link.1.text left link.2.tree) first.tree) ∧
      interpret (links.text first.text) =
        .ok (links.foldl (fun x link => link.1.apply x link.2.value) first.value) := by
  have begins : Phrase level first.text first.tree := .of_parse first.parsed tight
  obtain ⟨chain, evaluated⟩ := Links.phrase notPower fit begins first.evaluate_tree
  exact chain.parse_and_interpret evaluated nests

end Links

/-- Bases of a chain of powers: the expressions in front of its last exponent. -/
abbrev Bases := List Expression

namespace Bases

/-- The text of a chain of powers that ends with a text. -/
def text (last : String) (bases : Bases) : String :=
  bases.foldr (fun base exponent => base.text ++ Symbol.power.text ++ exponent) last

/-- The bases have no operators outside of parentheses. -/
def Fit (bases : Bases) : Prop :=
  ∀ base ∈ bases, Text.outerOperators base.text = []

/-- A chain of powers is a phrase, and so is the tree and the value that powers make of it from the
right. -/
theorem phrase {bases : Bases} (fit : bases.Fit) {back : String} {tree : Tree} {value : Double}
    (ends : Phrase .powers back tree) (evaluated : tree.evaluate = .ok value) :
    Phrase .powers (bases.text back)
        (bases.foldr (fun base right => .branch Symbol.power.text base.tree right) tree) ∧
      (bases.foldr (fun base right => .branch Symbol.power.text base.tree right) tree).evaluate =
        .ok (bases.foldr (fun base y => Symbol.power.apply base.value y) value) := by
  induction bases with
  | nil => exact ⟨ends, evaluated⟩
  | cons base others ih =>
    obtain ⟨noOperator, fitOthers⟩ := List.forall_mem_cons.mp fit
    obtain ⟨further, furtherValue⟩ := ih fitOthers
    have isOperand : Phrase .operands base.text base.tree :=
      .of_parse base.parsed (by simp [noOperator])
    exact ⟨.branch (s := .power) rfl isOperand further,
      Tree.evaluate_branch (s := .power) rfl base.evaluate_tree furtherValue⟩

/-- A chain of powers has the tree and the value that they make of it from the right. -/
theorem parse_and_interpret {bases : Bases} (fit : bases.Fit) {last : Expression}
    (onlyPowers : ∀ other ∈ Text.outerOperators last.text, other = .power)
    (nests : Text.NestsWithin Parser.guaranteedNesting (bases.text last.text)) :
    parse (bases.text last.text) =
        .ok (bases.foldr (fun base right => .branch Symbol.power.text base.tree right) last.tree) ∧
      interpret (bases.text last.text) =
        .ok (bases.foldr (fun base y => Symbol.power.apply base.value y) last.value) := by
  have ends : Phrase .powers last.text last.tree := by
    apply Phrase.of_parse last.parsed
    intro other among
    rw [onlyPowers other among]
    exact Nat.le_refl _
  obtain ⟨chain, evaluated⟩ := Bases.phrase fit ends last.evaluate_tree
  exact chain.parse_and_interpret evaluated nests

end Bases

/-- What is put together by an operator in accordance with the precedences has the operator at its
root and the value that the operator makes of the two values; parentheses around an expression
leave its tree as it is. A chain of operators of one level is therefore grouped from the left, and
a chain of powers from the right, whatever its length. -/
theorem expressions_compose_by_precedence :
    (∀ text tree, parse text = .ok tree →
      ∃ expression : Expression, expression.text = text ∧ expression.tree = tree) ∧
    (∀ (s : Symbol) (a b : Expression), s.Joins a.text b.text →
      Text.NestsWithin Parser.guaranteedNesting (a.text ++ s.text ++ b.text) →
      parse (a.text ++ s.text ++ b.text) = .ok (.branch s.text a.tree b.tree) ∧
        operators s.text = some s.apply ∧
        interpret (a.text ++ s.text ++ b.text) = .ok (s.apply a.value b.value)) ∧
    (∀ a : Expression, Text.NestsWithin Parser.guaranteedNesting (Text.enclosed a.text) →
      parse (Text.enclosed a.text) = .ok a.tree) ∧
    (∀ (level : Level) (first : Expression) (links : Links), level ≠ .powers →
      (∀ other ∈ Text.outerOperators first.text, level.rank ≤ other.rank) → links.Fit level →
      Text.NestsWithin Parser.guaranteedNesting (links.text first.text) →
      parse (links.text first.text) =
          .ok (links.foldl (fun left link => .branch link.1.text left link.2.tree) first.tree) ∧
        interpret (links.text first.text) =
          .ok (links.foldl (fun x link => link.1.apply x link.2.value) first.value)) ∧
    ∀ (bases : Bases) (last : Expression), bases.Fit →
      (∀ other ∈ Text.outerOperators last.text, other = .power) →
      Text.NestsWithin Parser.guaranteedNesting (bases.text last.text) →
      parse (bases.text last.text) =
          .ok (bases.foldr (fun base right => .branch Symbol.power.text base.tree right)
            last.tree) ∧
        interpret (bases.text last.text) =
          .ok (bases.foldr (fun base y => Symbol.power.apply base.value y) last.value) := by
  refine ⟨fun _ _ parsed => Expression.exists_of_parse parsed, ?joined, ?inParentheses, ?toTheLeft,
    ?toTheRight⟩
  case joined => exact fun s a b joins nests => joins.parse_and_interpret nests
  case inParentheses => exact fun a nests => a.parse_enclosed nests
  case toTheLeft =>
    intro level first links notPower tight fit nests
    exact Links.parse_and_interpret notPower fit tight nests
  case toTheRight =>
    intro bases last fit onlyPowers nests
    exact Bases.parse_and_interpret fit onlyPowers nests

/-- A difference with a number behind it, in parentheses, and at the beginning of a longer chain,
and a chain of powers. -/
theorem expressions_compose_by_precedence_difference :
    ∃ difference number : Expression, difference.text = "8-2" ∧ number.text = "3" ∧
      Symbol.minus.Joins "8-2" "3" ∧ Text.NestsWithin Parser.guaranteedNesting "8-2-3" ∧
      parse "8-2-3" = .ok (.branch "-" difference.tree number.tree) ∧
      parse "(8-2)" = .ok difference.tree ∧
      Links.Fit .sums [(.plus, number), (.minus, number)] ∧
      interpret "8-2+3-3" = .ok (Symbol.minus.apply
        (Symbol.plus.apply difference.value number.value) number.value) ∧
      Bases.Fit [number, number] ∧
      interpret "3^3^3" = .ok (Symbol.power.apply number.value
        (Symbol.power.apply number.value number.value)) := by
  obtain ⟨exists_of_parse, joined, inParentheses, toTheLeft, toTheRight⟩ :=
    expressions_compose_by_precedence
  obtain ⟨difference, differenceText, _⟩ := exists_of_parse "8-2"
    (.branch "-" (.leaf "8.0") (.leaf "2.0")) (by decide +kernel)
  obtain ⟨number, numberText, _⟩ := exists_of_parse "3" (.leaf "3.0") (by decide +kernel)
  have joins : Symbol.minus.Joins "8-2" "3" := ⟨by decide, by decide⟩
  have fit : Links.Fit .sums [(.plus, number), (.minus, number)] := by
    simp only [Links.Fit, List.forall_mem_cons, numberText]
    decide
  have noOperators : Bases.Fit [number, number] := by
    simp only [Bases.Fit, List.forall_mem_cons, numberText]
    decide
  have behind := joined .minus difference number
  have enclosed := inParentheses difference
  have grouped := toTheLeft .sums difference [(.plus, number), (.minus, number)] (by decide)
  have raised := toTheRight _ number noOperators
  simp only [differenceText, numberText, Links.text, List.foldl] at behind enclosed grouped
  simp only [numberText, Bases.text, List.foldr] at raised
  exact ⟨difference, number, differenceText, numberText, joins, by decide,
    (behind joins (by decide)).1, enclosed (by decide), fit,
    (grouped (by decide) fit (by decide)).2, noOperators, (raised (by decide) (by decide)).2⟩

end Calculator
