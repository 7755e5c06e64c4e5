import Calculator.Decimal.Layout
import Calculator.Token
import Calculator.Tree

/-!
# The grammar of expressions

The written grammar, as a relation between lists of tokens and trees. Its levels bind ever tighter,
from the maxima to the operands. Operators of the first three levels group to the left, powers to
the right, and parentheses leave no node. The main statement is that the grammar is unambiguous: of
all prefixes of a list of tokens that form a phrase and cannot be continued there is at most one,
and it stands for one tree.
-/

namespace Calculator

/-- A level of the grammar. -/
inductive Level where
  /-- Sums with the maximum operator between them. -/
  | maxima
  /-- Products with the operators of a sum between them. -/
  | sums
  /-- Powers with the operators of a product between them. -/
  | products
  /-- Operands with the power operator between them. -/
  | powers
  /-- Numbers and expressions in parentheses. -/
  | operands
deriving DecidableEq

/-- The level that a symbol is an operator of; a parenthesis is no operator. -/
def Symbol.level? : Symbol → Option Level
  | maximum => some .maxima
  | plus | minus => some .sums
  | times | divide => some .products
  | power => some .powers
  | openParen | closeParen => none

/-- The token is an operator. -/
def Token.isOperator : Token → Bool
  | symbol s => s.level?.isSome
  | _ => false

namespace Level

/-- The level of the phrases between the operators of a level. -/
def tighter : Level → Level
  | maxima => sums
  | sums => products
  | products => powers
  | powers | operands => operands

/-- The place of a level in their order, the loosest being the first. -/
def rank : Level → Nat
  | maxima => 1
  | sums => 2
  | products => 3
  | powers => 4
  | operands => 5

/-- A phrase of the level goes on at the token, which is an operator of this level or a tighter
one. -/
def continuedBy (level : Level) : Token → Bool
  | .symbol s => s.level?.any (level.rank ≤ ·.rank)
  | _ => false

/-- A phrase of the level ends where these tokens follow. -/
def StopsAt (level : Level) (following : List Token) : Prop :=
  ∀ token ∈ following.head?, level.continuedBy token = false

end Level

/-- The tokens are a phrase of the level, and the tree is what they stand for. -/
inductive Derives : Level → List Token → Tree → Prop where
  /-- A number is an operand, a leaf that carries its text. -/
  | number (value : Double) : Derives .operands [.number value] (.leaf value.text)
  /-- An expression in parentheses is an operand, and the parentheses leave no node. -/
  | enclosed {inner : List Token} {tree : Tree} (expression : Derives .maxima inner tree) :
      Derives .operands (.symbol .openParen :: (inner ++ [.symbol .closeParen])) tree
  /-- A tighter phrase alone is a phrase of any level. -/
  | alone {level : Level} {tokens : List Token} {tree : Tree} (notOperands : level ≠ .operands)
      (phrase : Derives level.tighter tokens tree) : Derives level tokens tree
  /-- Every operator but the power has a phrase of its own level on its left side and a tighter one
  on its right side. -/
  | left {level : Level} {symbol : Symbol} {before after : List Token} {first second : Tree}
      (operator : symbol.level? = some level) (notPower : level ≠ .powers)
      (leftPhrase : Derives level before first) (rightPhrase : Derives level.tighter after second) :
      Derives level (before ++ .symbol symbol :: after) (.branch symbol.text first second)
  /-- A power has an operand on its left side and a power on its right side. -/
  | right {before after : List Token} {first second : Tree}
      (base : Derives .operands before first) (exponent : Derives .powers after second) :
      Derives .powers (before ++ .symbol .power :: after) (.branch Symbol.power.text first second)

/-- After a first phrase with the given tree the tokens go on as operators and operands of the
level, up to the tree of the whole. -/
inductive Continues : Level → Tree → List Token → Tree → Prop where
  /-- Nothing follows. -/
  | done {level : Level} {tree : Tree} : Continues level tree [] tree
  /-- An operator that groups to the left makes a tree of the phrase before it and the one after
  it, and that tree goes on. -/
  | left {level : Level} {symbol : Symbol} {operand rest : List Token} {first second tree : Tree}
      (operator : symbol.level? = some level) (notPower : level ≠ .powers)
      (phrase : Derives level.tighter operand second)
      (further : Continues level (.branch symbol.text first second) rest tree) :
      Continues level first (.symbol symbol :: (operand ++ rest)) tree
  /-- The operand behind a power goes on first, and the power joins the tree of all that. -/
  | right {operand rest : List Token} {first second tree : Tree}
      (phrase : Derives .operands operand second) (further : Continues .powers second rest tree) :
      Continues .powers first (.symbol .power :: (operand ++ rest))
        (.branch Symbol.power.text first tree)

namespace Level

/-- The first token decides whether a phrase ends. -/
@[simp] theorem stopsAt_cons (level : Level) (token : Token) (rest : List Token) :
    level.StopsAt (token :: rest) ↔ level.continuedBy token = false := by
  simp [StopsAt]

/-- A phrase ends where nothing follows. -/
@[simp] theorem stopsAt_nil (level : Level) : level.StopsAt [] := by
  simp [StopsAt]

/-- The grammar goes on at the operators, whatever their level. -/
theorem continuedBy_maxima (token : Token) : maxima.continuedBy token = token.isOperator := by
  cases token with
  | number value => rfl
  | symbol s => cases s <;> rfl
  | endOfInput => rfl

/-- Nothing continues an operand. -/
theorem continuedBy_operands (token : Token) : operands.continuedBy token = false := by
  cases token with
  | number value => rfl
  | symbol s => cases s <;> rfl
  | endOfInput => rfl

/-- What continues a phrase is an operator of its level or continues the tighter phrase too. -/
theorem continuedBy_symbol (level : Level) (s : Symbol) :
    level.continuedBy (.symbol s) =
      (decide (s.level? = some level) || level.tighter.continuedBy (.symbol s)) := by
  cases level <;> cases s <;> rfl

/-- An operator of a level does not continue a tighter phrase. -/
theorem tighter_continuedBy {level : Level} {s : Symbol} (operator : s.level? = some level) :
    level.tighter.continuedBy (.symbol s) = false := by
  cases s <;> simp only [Symbol.level?, Option.some.injEq, reduceCtorEq] at operator <;>
    subst operator <;> rfl

/-- Where a phrase ends a tighter phrase ends too. -/
theorem StopsAt.tighten {level : Level} {following : List Token} (stops : level.StopsAt following) :
    level.tighter.StopsAt following := by
  cases following with
  | nil => simp
  | cons token rest =>
    rw [stopsAt_cons] at stops ⊢
    cases token with
    | symbol s =>
      rw [continuedBy_symbol, Bool.or_eq_false_iff] at stops
      exact stops.2
    | number value => rfl
    | endOfInput => rfl

/-- An operator of the level does not end its phrase. -/
theorem not_stopsAt_operator {level : Level} {s : Symbol} {rest : List Token}
    (operator : s.level? = some level) : ¬level.StopsAt (.symbol s :: rest) := by
  rw [stopsAt_cons, continuedBy_symbol, operator]
  simp

end Level

namespace Continues

/-- One more operator and operand may follow at the end of a phrase that groups to the left. -/
theorem snoc {level : Level} {symbol : Symbol} {first tree second : Tree}
    {tokens operand : List Token} (continued : Continues level first tokens tree)
    (operator : symbol.level? = some level) (notPower : level ≠ .powers)
    (phrase : Derives level.tighter operand second) :
    Continues level first (tokens ++ .symbol symbol :: operand)
      (.branch symbol.text tree second) := by
  induction continued with
  | done => simpa using left operator notPower phrase done
  | left firstOperator firstNotPower firstPhrase _ ih =>
    have further := left firstOperator firstNotPower firstPhrase (ih operator notPower phrase)
    simpa [List.append_assoc] using further
  | right => exact absurd rfl notPower

/-- A phrase that groups to the left and what continues it are a phrase again. -/
theorem derives_of_notPower {level : Level} {before tokens : List Token} {first tree : Tree}
    (continued : Continues level first tokens tree) (notPower : level ≠ .powers)
    (phrase : Derives level before first) : Derives level (before ++ tokens) tree := by
  induction continued generalizing before with
  | done => simpa using phrase
  | left operator _ operand _ ih =>
    have longer := ih notPower (.left operator notPower phrase operand)
    simpa [List.append_assoc] using longer
  | right => exact absurd rfl notPower

/-- An operand and the powers that continue it are a phrase. -/
theorem derives_powers {before tokens : List Token} {first tree : Tree}
    (continued : Continues .powers first tokens tree) (phrase : Derives .operands before first) :
    Derives .powers (before ++ tokens) tree := by
  generalize isPowers : Level.powers = level at continued
  induction continued generalizing before with
  | done =>
    subst isPowers
    rw [List.append_nil]
    exact .alone (by decide) phrase
  | left _ notPower => exact absurd isPowers.symm notPower
  | right operand _ ih => exact .right phrase (ih operand rfl)

/-- What follows the first tighter phrase of a phrase ends that tighter phrase. -/
theorem stopsAt_append {level : Level} {first tree : Tree} {tokens following : List Token}
    (continued : Continues level first tokens tree) (stops : level.StopsAt following) :
    level.tighter.StopsAt (tokens ++ following) := by
  cases continued with
  | done => simpa using stops.tighten
  | left operator =>
    rw [List.cons_append, Level.stopsAt_cons]
    exact Level.tighter_continuedBy operator
  | right =>
    rw [List.cons_append, Level.stopsAt_cons]
    exact Level.tighter_continuedBy rfl

end Continues

namespace Derives

/-- A phrase has a token. -/
theorem ne_nil {level : Level} {tokens : List Token} {tree : Tree}
    (phrase : Derives level tokens tree) : tokens ≠ [] := by
  induction phrase with
  | alone _ _ ih => exact ih
  | _ => simp

/-- The end of the input is no part of a phrase. -/
theorem endOfInput_not_mem {level : Level} {tokens : List Token} {tree : Tree}
    (phrase : Derives level tokens tree) : .endOfInput ∉ tokens := by
  induction phrase with
  | number => simp
  | enclosed _ ih => simpa using ih
  | alone _ _ ih => exact ih
  | left _ _ _ _ leftFree rightFree => simpa using ⟨leftFree, rightFree⟩
  | right _ _ leftFree rightFree => simpa using ⟨leftFree, rightFree⟩

/-- An operand is a number or an expression in parentheses. -/
theorem operand_cases {tokens : List Token} {tree : Tree}
    (phrase : Derives .operands tokens tree) :
    (∃ value, tokens = [.number value] ∧ tree = .leaf value.text) ∨
      ∃ inner, tokens = .symbol .openParen :: (inner ++ [.symbol .closeParen]) ∧
        Derives .maxima inner tree := by
  cases phrase with
  | number value => exact .inl ⟨value, rfl, rfl⟩
  | enclosed expression => exact .inr ⟨_, rfl, expression⟩
  | alone notOperands => exact absurd rfl notOperands
  | @left _ symbol _ _ _ _ operator => cases symbol <;> simp [Symbol.level?] at operator

/-- A phrase above the operands is a tighter phrase and what continues it. -/
theorem exists_continues {level : Level} {tokens : List Token} {tree : Tree}
    (phrase : Derives level tokens tree) (notOperands : level ≠ .operands) :
    ∃ operand first rest, Derives level.tighter operand first ∧ Continues level first rest tree ∧
      tokens = operand ++ rest := by
  induction phrase with
  | number => exact absurd rfl notOperands
  | enclosed => exact absurd rfl notOperands
  | alone _ phrase _ => exact ⟨_, _, [], phrase, .done, by simp⟩
  | left operator notPower _ rightPhrase leftSplit _ =>
    obtain ⟨operand, first, rest, firstPhrase, continued, rfl⟩ := leftSplit notOperands
    exact ⟨operand, first, _, firstPhrase, continued.snoc operator notPower rightPhrase, by simp⟩
  | right base _ _ rightSplit =>
    obtain ⟨operand, first, rest, firstPhrase, continued, rfl⟩ := rightSplit notOperands
    exact ⟨_, _, _, base, .right firstPhrase continued, rfl⟩

end Derives

/-! ## Levels and operators -/

namespace Level

/-- The loosest level of what stands in front of an operator of the level. -/
def leftOperand : Level → Level
  | powers => operands
  | level => level

/-- The loosest level of what stands behind an operator of the level. -/
def rightOperand : Level → Level
  | powers => powers
  | level => level.tighter

end Level

namespace Derives

/-- A phrase is a phrase of every looser level. -/
theorem loosen {level other : Level} {tokens : List Token} {tree : Tree}
    (phrase : Derives other tokens tree) (looser : level.rank ≤ other.rank) :
    Derives level tokens tree := by
  by_cases same : level = other
  · rw [same]
    exact phrase
  · have notOperands : level ≠ .operands := by
      rintro rfl
      cases other <;> simp_all [Level.rank]
    have nearer : level.tighter.rank ≤ other.rank := by
      cases level <;> cases other <;> simp_all [Level.rank, Level.tighter]
    exact .alone notOperands (phrase.loosen nearer)
termination_by other.rank - level.rank
decreasing_by cases level <;> cases other <;> simp_all [Level.rank, Level.tighter]

/-- A number is a phrase of every level. -/
theorem ofNumber (level : Level) (value : Double) :
    Derives level [.number value] (.leaf value.text) :=
  (number value).loosen (by cases level <;> decide)

/-- Operands of an operator and the operator between them are a phrase of its level. -/
theorem branch {level : Level} {s : Symbol} {before after : List Token} {first second : Tree}
    (operator : s.level? = some level) (leftPhrase : Derives level.leftOperand before first)
    (rightPhrase : Derives level.rightOperand after second) :
    Derives level (before ++ .symbol s :: after) (.branch s.text first second) := by
  cases s with
  | power =>
    cases operator
    exact .right leftPhrase rightPhrase
  | openParen => cases operator
  | closeParen => cases operator
  | _ =>
    cases operator
    exact .left rfl (by decide) leftPhrase rightPhrase

end Derives

/-! ## Unambiguity -/

namespace Level

/-- Of the prefixes of a list of tokens with at most the given number of them, only one is a phrase
of the level that ends there, and it stands for one tree. -/
def UniqueUpTo (level : Level) (bound : Nat) : Prop :=
  ∀ ⦃tokens otherTokens following otherFollowing : List Token⦄ ⦃tree otherTree : Tree⦄,
    tokens.length ≤ bound → Derives level tokens tree → Derives level otherTokens otherTree →
      tokens ++ following = otherTokens ++ otherFollowing →
        level.StopsAt following → level.StopsAt otherFollowing →
          tokens = otherTokens ∧ tree = otherTree

/-- What continues a phrase is unique if the tighter phrases are. -/
theorem UniqueUpTo.continues {level : Level} {bound : Nat}
    (tighter : level.tighter.UniqueUpTo bound)
    {tokens otherTokens following otherFollowing : List Token} {first tree otherTree : Tree}
    (continued : Continues level first tokens tree)
    (otherContinued : Continues level first otherTokens otherTree) (short : tokens.length ≤ bound)
    (same : tokens ++ following = otherTokens ++ otherFollowing)
    (stops : level.StopsAt following) (otherStops : level.StopsAt otherFollowing) :
    tokens = otherTokens ∧ tree = otherTree := by
  induction continued generalizing otherTokens otherTree with
  | done =>
    cases otherContinued with
    | done => exact ⟨rfl, rfl⟩
    | left operator =>
      rw [List.nil_append] at same
      exact absurd (same ▸ stops) (not_stopsAt_operator operator)
    | right =>
      rw [List.nil_append] at same
      exact absurd (same ▸ stops) (not_stopsAt_operator rfl)
  | left operator notPower phrase further ih =>
    cases otherContinued with
    | done =>
      rw [List.nil_append] at same
      exact absurd (same ▸ otherStops) (not_stopsAt_operator operator)
    | left otherOperator _ otherPhrase otherFurther =>
      simp only [List.cons_append, List.append_assoc, List.cons.injEq, Token.symbol.injEq] at same
      obtain ⟨rfl, same⟩ := same
      simp only [List.length_cons, List.length_append] at short
      obtain ⟨rfl, rfl⟩ := tighter (by omega) phrase otherPhrase same
        (further.stopsAt_append stops) (otherFurther.stopsAt_append otherStops)
      obtain ⟨rfl, rfl⟩ := ih tighter otherFurther (by omega) (List.append_cancel_left same) stops
        otherStops
      exact ⟨rfl, rfl⟩
    | right => exact absurd rfl notPower
  | right phrase further ih =>
    cases otherContinued with
    | done =>
      rw [List.nil_append] at same
      exact absurd (same ▸ otherStops) (not_stopsAt_operator rfl)
    | left _ notPower => exact absurd rfl notPower
    | right otherPhrase otherFurther =>
      simp only [List.cons_append, List.append_assoc, List.cons.injEq, true_and] at same
      simp only [List.length_cons, List.length_append] at short
      obtain ⟨rfl, rfl⟩ := tighter (by omega) phrase otherPhrase same
        (further.stopsAt_append stops) (otherFurther.stopsAt_append otherStops)
      obtain ⟨rfl, rfl⟩ := ih tighter otherFurther (by omega) (List.append_cancel_left same) stops
        otherStops
      exact ⟨rfl, rfl⟩

/-- Phrases above the operands are unique if the tighter ones are. -/
theorem UniqueUpTo.loosen {level : Level} {bound : Nat} (notOperands : level ≠ .operands)
    (tighter : level.tighter.UniqueUpTo bound) : level.UniqueUpTo bound := by
  intro tokens otherTokens following otherFollowing tree otherTree short phrase otherPhrase same
    stops otherStops
  obtain ⟨operand, first, rest, firstPhrase, continued, rfl⟩ := phrase.exists_continues notOperands
  obtain ⟨otherOperand, otherFirst, otherRest, otherFirstPhrase, otherContinued, rfl⟩ :=
    otherPhrase.exists_continues notOperands
  rw [List.append_assoc, List.append_assoc] at same
  rw [List.length_append] at short
  obtain ⟨rfl, rfl⟩ := tighter (by omega) firstPhrase otherFirstPhrase same
    (continued.stopsAt_append stops) (otherContinued.stopsAt_append otherStops)
  obtain ⟨rfl, rfl⟩ := tighter.continues continued otherContinued (by omega)
    (List.append_cancel_left same) stops otherStops
  exact ⟨rfl, rfl⟩

/-- Operands are unique if shorter expressions are. -/
theorem uniqueUpTo_operands {bound : Nat} (shorter : ∀ less < bound, maxima.UniqueUpTo less) :
    operands.UniqueUpTo bound := by
  intro tokens otherTokens following otherFollowing tree otherTree short phrase otherPhrase same
    stops otherStops
  obtain ⟨value, rfl, rfl⟩ | ⟨inner, rfl, expression⟩ := phrase.operand_cases <;>
    obtain ⟨otherValue, rfl, rfl⟩ | ⟨otherInner, rfl, otherExpression⟩ := otherPhrase.operand_cases
  · simp only [List.cons_append, List.nil_append, List.cons.injEq, Token.number.injEq] at same
    obtain ⟨rfl, _⟩ := same
    exact ⟨rfl, rfl⟩
  · simp at same
  · simp at same
  · simp only [List.cons_append, List.append_assoc, List.cons.injEq, true_and] at same
    simp only [List.length_cons, List.length_append] at short
    obtain ⟨rfl, rfl⟩ := shorter _ (by omega) (Nat.le_refl _) expression otherExpression same
      (by simp [continuedBy, Symbol.level?]) (by simp [continuedBy, Symbol.level?])
    exact ⟨rfl, rfl⟩

/-- Phrases of any length are unique, level by level from the operands. -/
theorem uniqueUpTo (level : Level) (bound : Nat) : level.UniqueUpTo bound := by
  induction bound using Nat.strongRecOn generalizing level with
  | ind bound ih =>
    have ofOperands := uniqueUpTo_operands fun less below => ih less below maxima
    have ofPowers : powers.UniqueUpTo bound := .loosen (by decide) ofOperands
    have ofProducts : products.UniqueUpTo bound := .loosen (by decide) ofPowers
    have ofSums : sums.UniqueUpTo bound := .loosen (by decide) ofProducts
    cases level with
    | maxima => exact .loosen (by decide) ofSums
    | sums => exact ofSums
    | products => exact ofProducts
    | powers => exact ofPowers
    | operands => exact ofOperands

end Level

/-- Two phrases of one level that begin the same list of tokens and end where they can are the same
tokens and stand for the same tree. -/
theorem Derives.unique {level : Level} {tokens otherTokens following otherFollowing : List Token}
    {tree otherTree : Tree} (phrase : Derives level tokens tree)
    (otherPhrase : Derives level otherTokens otherTree)
    (same : tokens ++ following = otherTokens ++ otherFollowing)
    (stops : level.StopsAt following) (otherStops : level.StopsAt otherFollowing) :
    tokens = otherTokens ∧ tree = otherTree :=
  level.uniqueUpTo tokens.length (Nat.le_refl _) phrase otherPhrase same stops otherStops

/-- Tokens stand for at most one tree. -/
theorem Derives.tree_unique {level : Level} {tokens : List Token} {tree otherTree : Tree}
    (phrase : Derives level tokens tree) (otherPhrase : Derives level tokens otherTree) :
    tree = otherTree :=
  (phrase.unique otherPhrase (show tokens ++ [] = tokens ++ [] from rfl) (Level.stopsAt_nil level)
    (Level.stopsAt_nil level)).2

end Calculator
