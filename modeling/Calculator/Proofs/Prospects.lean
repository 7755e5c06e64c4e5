import Calculator.Proofs.LexerRuns
import Calculator.Proofs.Nesting

/-!
# Parsing from any state of a lexer

The parser of a level may be started on any lexer, also on one whose current token has been left
behind by an advance that failed. What it does then depends only on what is in front of the lexer:
the current token, the unread pieces as tokens or errors, and the end of the input. The main
statement says which tokens it accepts and where it stops, and for both kinds of failure which
token or piece is to blame and where the lexer is left.
-/

namespace Calculator

/-- The pieces that are left behind the given number of pieces that are no blanks. -/
def Piece.behind : Nat → List String → List String
  | 0, pieces => pieces
  | count + 1, pieces => behind count (pieces.dropWhile isBlank).tail

/-- To go behind one more piece is to skip the blanks in front of it and it. -/
theorem Piece.behind_succ (count : Nat) (pieces : List String) :
    behind (count + 1) pieces = ((behind count pieces).dropWhile isBlank).tail := by
  induction count generalizing pieces with
  | zero => rfl
  | succ count ih => exact ih (pieces.dropWhile isBlank).tail

namespace Lexer

/-- What is in front of a lexer: its current token, then each unread piece that is no blank, as a
token or as the error that it is, and then the end of the input. -/
def prospect (lexer : Lexer) : List (Except LexError Token) :=
  .ok lexer.current ::
    ((lexer.unread.filter fun piece => !Piece.isBlank piece).map Token.ofPiece ++ [.ok .endOfInput])

/-- The tokens are the first ones in front of the lexer. -/
def Faces (lexer : Lexer) (tokens : List Token) : Prop := tokens.map .ok <+: lexer.prospect

/-- At most so many parentheses are open anywhere in the tokens in front of the lexer. -/
def NestsWithin (limit : Nat) (lexer : Lexer) : Prop :=
  ∀ tokens, lexer.Faces tokens →
    tokens.count (.symbol .openParen) ≤ tokens.count (.symbol .closeParen) + limit

/-- The last lexer rests behind the tokens in front of the first one: the token that follows them is
the current one, and exactly the pieces behind that one are unread. -/
structure RestsBehind (lexer : Lexer) (tokens : List Token) (last : Lexer) : Prop where
  faces : lexer.Faces (tokens ++ [last.current])
  unread : last.unread = Piece.behind tokens.length lexer.unread

/-! ## Advances -/

/-- What is unread behind an advance, whether it fails or not. -/
theorem unread_advanced_eq (lexer : Lexer) :
    lexer.advanced.unread = (lexer.unread.dropWhile Piece.isBlank).tail := by
  simp only [advanced, Parser.after, advance]
  cases lexer.unread.dropWhile Piece.isBlank with
  | nil => rfl
  | cons piece rest =>
    simp only
    cases Token.ofPiece piece with
    | ok token => rfl
    | error error => rfl

/-- What is in front of a lexer that can be advanced: the end of the input behind its current token,
or what is in front of the advanced one. -/
theorem prospect_of_advance_ok {lexer next : Lexer} (moved : advance lexer = .ok () next) :
    (next.AtEnd ∧ lexer.prospect = [.ok lexer.current, .ok .endOfInput]) ∨
      lexer.prospect = .ok lexer.current :: next.prospect := by
  obtain ⟨blanks, allBlank, ⟨apart, atEnd, nothing⟩ | ⟨piece, apart, noBlank, classified⟩⟩ :=
    advance_ok_cases moved
  · left
    rw [prospect, apart, (Piece.skip_blanks allBlank).1]
    exact ⟨⟨atEnd, nothing⟩, rfl⟩
  · right
    rw [prospect, prospect, apart, List.filter_append, (Piece.skip_blanks allBlank).1]
    simp [noBlank, classified]

/-- What is in front of a lexer that cannot be advanced: an error behind its current token. -/
theorem prospect_of_advance_error {lexer last : Lexer} {error : SyntaxError}
    (failed : advance lexer = .error error last) :
    ∃ lexError later, error = .lex lexError ∧
      lexer.prospect = .ok lexer.current :: .error lexError :: later := by
  obtain ⟨blanks, piece, lexError, allBlank, apart, noBlank, classified, rfl⟩ :=
    advance_error_cases failed
  refine ⟨lexError,
    (last.unread.filter fun piece => !Piece.isBlank piece).map Token.ofPiece ++ [.ok .endOfInput],
    rfl, ?_⟩
  rw [prospect, apart, List.filter_append, (Piece.skip_blanks allBlank).1]
  simp [noBlank, classified]

/-! ## Readings -/

/-- Reading tokens leaves what is behind as many pieces. -/
theorem Reads.unread_eq {lexer last : Lexer} {tokens : List Token}
    (reads : Reads lexer tokens last) :
    last.unread = Piece.behind tokens.length lexer.unread := by
  induction reads with
  | done => rfl
  | @next lexer middle last rest moved further ih =>
    have left := lexer.unread_advanced_eq
    rw [advanced, Parser.after, moved] at left
    rw [ih, left]
    rfl

/-- What is in front of a lexer that reads tokens: the tokens and the end of the input, or the
tokens and what is in front of the last lexer. -/
theorem Reads.prospect_eq {lexer last : Lexer} {tokens : List Token}
    (reads : Reads lexer tokens last) (noEnd : Token.endOfInput ∉ tokens) :
    (last.AtEnd ∧ lexer.prospect = tokens.map .ok ++ [.ok last.current]) ∨
      lexer.prospect = tokens.map .ok ++ last.prospect := by
  induction reads with
  | done => exact .inr rfl
  | next moved further ih =>
    simp only [List.mem_cons, not_or] at noEnd
    obtain ⟨atEnd, ahead⟩ | ahead := prospect_of_advance_ok moved
    · cases further with
      | done =>
        rw [ahead, atEnd.1]
        exact .inl ⟨atEnd, rfl⟩
      | next => exact absurd (List.mem_cons.mpr (.inl atEnd.1.symm)) noEnd.2
    · obtain ⟨stays, aheadThen⟩ | aheadThen := ih noEnd.2
      · exact .inl ⟨stays, by rw [ahead, aheadThen]; rfl⟩
      · exact .inr (by rw [ahead, aheadThen]; rfl)

/-- A lexer that has read tokens rests behind them. -/
theorem Reads.restsBehind {lexer last : Lexer} {tokens : List Token}
    (reads : Reads lexer tokens last) (noEnd : Token.endOfInput ∉ tokens) :
    lexer.RestsBehind tokens last := by
  refine ⟨?_, reads.unread_eq⟩
  rw [Faces, List.map_append]
  obtain ⟨_, ahead⟩ | ahead := reads.prospect_eq noEnd
  · exact ⟨[], by rw [ahead, List.append_nil]; rfl⟩
  · exact ⟨last.prospect.tail, by rw [ahead, List.append_assoc]; rfl⟩

/-- Of two beginnings of what is in front of a lexer one begins the other. -/
theorem Faces.prefix_or_prefix {lexer : Lexer} {tokens others : List Token}
    (faces : lexer.Faces tokens) (otherFaces : lexer.Faces others) :
    tokens <+: others ∨ others <+: tokens := by
  have injective : Function.Injective (Except.ok : Token → Except LexError Token) :=
    fun _ _ same => Except.ok.inj same
  have either := List.prefix_or_prefix_of_prefix faces otherFaces
  rwa [List.prefix_map_iff_of_injective injective, List.prefix_map_iff_of_injective injective]
    at either

/-- Tokens that are followed by an error begin no longer list of tokens in front of a lexer. -/
theorem Faces.prefix_of_error {lexer : Lexer} {tokens others : List Token} {error : LexError}
    (faces : lexer.Faces tokens) (bad : others.map .ok ++ [.error error] <+: lexer.prospect) :
    tokens <+: others := by
  have begins : lexer.Faces others := (List.prefix_append _ _).trans bad
  obtain shorter | ⟨more, rfl⟩ := faces.prefix_or_prefix begins
  · exact shorter
  · cases more with
    | nil => rw [List.append_nil]
    | cons token more =>
      -- Behind these tokens there would be a token as well as an error.
      obtain ⟨later, ahead⟩ := bad
      obtain ⟨rest, aheadToo⟩ := faces
      rw [List.append_assoc] at ahead
      rw [List.map_append, List.append_assoc] at aheadToo
      have same := List.append_cancel_left (ahead.trans aheadToo.symm)
      simp at same

end Lexer

/-! ## Phrases in front of a lexer -/

/-- The tokens in front of a lexer begin with a phrase of the level. It stands for the tree, and the
token behind it does not continue it. -/
structure Level.LiesAhead (level : Level) (lexer : Lexer) (tokens : List Token) (tree : Tree)
    (next : Token) : Prop where
  faces : lexer.Faces (tokens ++ [next])
  phrase : Derives level tokens tree
  stops : level.continuedBy next = false

/-- A phrase that is followed by a token which does not continue it begins no longer phrase. -/
theorem Derives.not_longer {level : Level} {tokens rest : List Token} {tree other : Tree}
    {next : Token} (phrase : Derives level tokens tree) (stops : level.continuedBy next = false) :
    ¬Derives level (tokens ++ next :: rest) other := by
  intro longer
  have stopsThere : level.StopsAt (next :: rest) := (level.stopsAt_cons next rest).mpr stops
  obtain ⟨same, _⟩ := phrase.unique longer (List.append_nil _).symm stopsThere level.stopsAt_nil
  simp at same

/-- In front of a lexer there is at most one phrase of a level that ends there. -/
theorem Level.LiesAhead.unique {level : Level} {lexer : Lexer} {tokens others : List Token}
    {tree other : Tree} {next otherNext : Token} (lies : level.LiesAhead lexer tokens tree next)
    (otherLies : level.LiesAhead lexer others other otherNext) :
    tokens = others ∧ tree = other ∧ next = otherNext := by
  have noLonger : ∀ {front back : List Token} {first second : Tree} {token : Token},
      Derives level front first → level.continuedBy token = false → Derives level back second →
        ¬front ++ [token] <+: back := by
    rintro front _ first second token phrase stops otherPhrase ⟨rest, rfl⟩
    rw [List.append_assoc] at otherPhrase
    exact phrase.not_longer stops otherPhrase
  have ofSame : ∀ {front back : List Token} {token otherToken : Token},
      front ++ [token] = back ++ [otherToken] → front = back ∧ token = otherToken := by
    intro front back token otherToken same
    obtain ⟨sameFront, sameToken⟩ := List.append_inj' same rfl
    exact ⟨sameFront, List.singleton_inj.mp sameToken⟩
  have same : tokens ++ [next] = others ++ [otherNext] := by
    obtain shorter | longer := lies.faces.prefix_or_prefix otherLies.faces
    · obtain same | within := List.prefix_concat_iff.mp shorter
      · exact same
      · exact absurd within (noLonger lies.phrase lies.stops otherLies.phrase)
    · obtain same | within := List.prefix_concat_iff.mp longer
      · exact same.symm
      · exact absurd within (noLonger otherLies.phrase otherLies.stops lies.phrase)
  obtain ⟨rfl, rfl⟩ := ofSame same
  exact ⟨rfl, lies.phrase.tree_unique otherLies.phrase, rfl⟩

namespace Parser

/-- The parser of a level is exact for the phrases of the level. -/
theorem exact_ofLevel (limit : Nat) (level : Level) (lexer : Lexer) :
    Exact limit (Derives level) level (.beforeOperand 0) (.afterOperand 0) lexer
      (ofLevel level (expression limit) lexer) := by
  have within : 0 ≤ limit := Nat.zero_le limit
  have exactNested := fun lexer => exact_expression (Nat.add_comm 1 limit) lexer
  cases level with
  | maxima => exact exact_maxima within exactNested lexer
  | sums => exact exact_sums within exactNested lexer
  | products => exact exact_products within exactNested lexer
  | powers => exact exact_powers within exactNested lexer
  | operands => exact exact_operand within exactNested lexer

-- The outermost expression is parsed by the parser of the loosest level.
example : ofLevel .maxima nested = outermost := rfl

end Parser

/-- The tokens begin a phrase of the level. -/
def Level.Begins (level : Level) (tokens : List Token) : Prop :=
  ∃ rest tree, Derives level (tokens ++ rest) tree

/-- What begins a phrase goes on at the token behind a shorter phrase. -/
theorem Level.Begins.continuedBy {level : Level} {tokens rest : List Token} {tree : Tree}
    {next : Token} (begins : level.Begins (tokens ++ next :: rest))
    (phrase : Derives level tokens tree) : level.continuedBy next = true := by
  obtain ⟨more, whole, longer⟩ := begins
  rw [List.append_assoc, List.cons_append] at longer
  cases stops : level.continuedBy next with
  | true => rfl
  | false => exact absurd longer (phrase.not_longer stops)

/-- Only operators continue a phrase. -/
theorem Level.continuedBy_eq_false {token : Token} (noOperator : token.isOperator = false)
    (level : Level) : level.continuedBy token = false := by
  cases token with
  | symbol s =>
    have noLevel : s.level? = none := by simpa [Token.isOperator] using noOperator
    simp [continuedBy, noLevel]
  | _ => rfl

/-! ## Failures -/

/-- The last lexer rests at a piece behind the tokens in front of the first one that is no token:
that piece has been read, the last of the tokens is still the current one, and exactly the pieces
behind the bad one are unread. -/
structure Lexer.BreaksBehind (lexer : Lexer) (tokens : List Token) (error : LexError)
    (last : Lexer) : Prop where
  faces : (tokens ++ [last.current]).map .ok ++ [.error error] <+: lexer.prospect
  unread : last.unread = Piece.behind (tokens.length + 1) lexer.unread

/-- The token is to blame for the error behind the tokens. They are no phrase of the level, but they
begin one, also with a token that the error asks for, and they begin none with this token. -/
structure Level.Refuses (level : Level) (tokens : List Token) (token : Token)
    (error : ParseError) : Prop where
  incomplete : ∀ tree, ¬Derives level tokens tree
  goesOn : ∃ asked, error.AsksFor asked ∧ level.Begins (tokens ++ [asked])
  stuck : ¬level.Begins (tokens ++ [token])

namespace Scan

/-- What a step can find wrong with a token. -/
theorem State.step_error_cases {state : State} {token : Token} {error : ParseError}
    (refusal : state.step token = .error error) :
    error = .expectedOperand ∨ ∃ opened, error = .expected (closing opened) := by
  cases state with
  | beforeOperand opened =>
    left
    cases token with
    | number value => cases refusal
    | symbol s =>
      cases s with
      | openParen => cases refusal
      | _ => cases refusal; rfl
    | endOfInput => cases refusal; rfl
  | afterOperand opened =>
    right
    rw [step] at refusal
    split at refusal
    · cases refusal
    · split at refusal
      · cases refusal
      · exact ⟨opened, (Except.error.inj refusal).symm⟩

/-- What a step finds wrong with a token never asks for an operator. -/
theorem State.isOperator_of_asksFor {state : State} {token asked : Token} {error : ParseError}
    (refusal : state.step token = .error error) (asks : error.AsksFor asked) :
    asked.isOperator = false := by
  obtain rfl | ⟨opened, rfl⟩ := step_error_cases refusal
  · cases asked with
    | symbol s =>
      obtain wrong | isOpen := asks
      · cases wrong
      · rw [isOpen]
        rfl
    | _ => rfl
  · cases asked with
    | symbol s =>
      cases opened with
      | zero => cases asks
      | succ opened =>
        obtain rfl := TokenKind.symbol.inj asks
        rfl
    | _ => rfl

end Scan

namespace Fails

variable {limit : Nat} {level : Level} {lexer last : Lexer}

/-- A parser of a level that fails with an error of the grammar rests at the token to blame, and the
nesting is not the reason. -/
theorem exists_refused {error : ParseError} (nests : lexer.NestsWithin limit)
    (fails : Fails limit (Derives level) (.beforeOperand 0) lexer (.parse error) last) :
    error ≠ .nestedTooDeeply ∧
      ∃ tokens, lexer.RestsBehind tokens last ∧ level.Refuses tokens last.current error := by
  cases fails with
  | @refused tokens rest asked tree state _ _ reads passes refusal asks goesOn =>
    have noEnd : Token.endOfInput ∉ tokens := fun among =>
      goesOn.endOfInput_not_mem (List.mem_append_left _ among)
    have rests := reads.restsBehind noEnd
    have begins : level.Begins (tokens ++ [asked]) := ⟨rest, tree, by simpa using goesOn⟩
    have withoutLimit := passes.of_stepWithin
    have within : state.opened ≤ limit := by
      have counted := withoutLimit.opened_add_count
      have bounded := nests tokens (((List.prefix_append _ _).map _).trans rests.faces)
      have atStart : (Scan.State.beforeOperand 0).opened = 0 := rfl
      omega
    rw [Scan.State.stepWithin_eq within] at refusal
    refine ⟨?_, tokens, rests, ?_, ⟨asked, asks, begins⟩, ?_⟩
    · rintro rfl
      exact state.step_ne_nestedTooDeeply _ refusal
    · intro whole phrase
      have stops := level.continuedBy_eq_false (Scan.State.isOperator_of_asksFor refusal asks)
      rw [begins.continuedBy phrase] at stops
      cases stops
    · rintro ⟨more, whole, phrase⟩
      -- The scan of a phrase passes the token that the scan has refused.
      rw [List.append_assoc] at phrase
      obtain ⟨middle, front, back⟩ := (Scan.passes_of_derives phrase 0).exists_of_append
      obtain rfl := withoutLimit.unique front
      cases back with
      | next stepped =>
        rw [refusal] at stepped
        cases stepped
  | unreadable _ _ advanced =>
    obtain ⟨_, _, _, _, _, _, _, wrong⟩ := Lexer.advance_error_cases advanced
    cases wrong

/-- A parser of a level that fails with an error of the lexer rests behind the piece to blame, and
the tokens before that begin a phrase. -/
theorem exists_unreadable {error : LexError}
    (fails : Fails limit (Derives level) (.beforeOperand 0) lexer (.lex error) last) :
    ∃ tokens, lexer.BreaksBehind tokens error last ∧ level.Begins (tokens ++ [last.current]) := by
  cases fails with
  | @unreadable tokens rest tree _ _ middle _ reads _ advanced goesOn =>
    have noEnd : Token.endOfInput ∉ tokens := fun among =>
      goesOn.endOfInput_not_mem (List.mem_append_left _ among)
    have stays := Lexer.current_of_advance_error advanced
    obtain ⟨lexError, later, sameError, aheadThen⟩ := Lexer.prospect_of_advance_error advanced
    obtain rfl := SyntaxError.lex.inj sameError
    refine ⟨tokens, ⟨?_, ?_⟩, rest, tree, ?_⟩
    · obtain ⟨atEnd, _⟩ | ahead := reads.prospect_eq noEnd
      · obtain ⟨_, _, _, _, apart, _⟩ := Lexer.advance_error_cases advanced
        rw [atEnd.2] at apart
        simp at apart
      · exact ⟨later, by simp [ahead, aheadThen, stays]⟩
    · have left := middle.unread_advanced_eq
      rw [Lexer.advanced, Parser.after, advanced] at left
      rw [Piece.behind_succ, ← reads.unread_eq]
      exact left
    · simpa [stays] using goesOn

end Fails

/-! ## Successes -/

/-- The parser of a level succeeds only on a phrase of the level that lies in front of the lexer and
ends there, and it rests behind that phrase. -/
theorem Parser.liesAhead_of_ok {limit : Nat} {level : Level} {lexer last : Lexer} {tree : Tree}
    (parsed : ofLevel level (expression limit) lexer = .ok tree last) :
    ∃ tokens, level.LiesAhead lexer tokens tree last.current ∧ lexer.RestsBehind tokens last := by
  have exact := exact_ofLevel limit level lexer
  rw [parsed] at exact
  cases exact with
  | accepted phrase reads _ stops =>
    have rests := reads.restsBehind phrase.endOfInput_not_mem
    exact ⟨_, ⟨rests.faces, phrase, stops⟩, rests⟩

/-- The parser of a level succeeds on every phrase of the level that lies in front of the lexer and
ends there. -/
theorem Parser.exists_ok_of_liesAhead {limit : Nat} {level : Level} {lexer : Lexer}
    {tokens : List Token} {tree : Tree} {next : Token} (nests : lexer.NestsWithin limit)
    (lies : level.LiesAhead lexer tokens tree next) :
    ∃ last, ofLevel level (expression limit) lexer = .ok tree last := by
  have notWithin : ∀ {others : List Token}, tokens ++ [next] <+: others → ¬level.Begins others := by
    rintro _ ⟨rest, rfl⟩ begins
    rw [List.append_assoc] at begins
    have goesOn := begins.continuedBy lies.phrase
    rw [lies.stops] at goesOn
    cases goesOn
  have exact := exact_ofLevel limit level lexer
  cases parsed : ofLevel level (expression limit) lexer with
  | ok found last =>
    obtain ⟨others, otherLies, _⟩ := liesAhead_of_ok parsed
    obtain ⟨_, rfl, _⟩ := lies.unique otherLies
    exact ⟨last, rfl⟩
  | error error last =>
    rw [parsed] at exact
    cases exact with
    | failed fails =>
    exfalso
    cases error with
    | parse error =>
      obtain ⟨_, others, rests, refuses⟩ := fails.exists_refused nests
      obtain shorter | longer := lies.faces.prefix_or_prefix rests.faces
      · obtain same | within := List.prefix_concat_iff.mp shorter
        · obtain ⟨rfl, _⟩ := List.append_inj' same rfl
          exact refuses.incomplete tree lies.phrase
        · obtain ⟨asked, _, begins⟩ := refuses.goesOn
          exact notWithin (within.trans (List.prefix_append _ _)) begins
      · obtain same | ⟨rest, rfl⟩ := List.prefix_concat_iff.mp longer
        · obtain ⟨rfl, _⟩ := List.append_inj' same rfl
          exact refuses.incomplete tree lies.phrase
        · exact refuses.stuck ⟨rest, tree, lies.phrase⟩
    | lex error =>
      obtain ⟨others, breaks, begins⟩ := fails.exists_unreadable
      exact notWithin (lies.faces.prefix_of_error breaks.faces) begins

/-- The parser of every level, started on any lexer whose tokens keep to the guaranteed nesting,
does what the tokens in front of the lexer say. It succeeds with a tree exactly if some first ones
of them are a phrase of the level that stands for the tree and that the token behind them does not
continue. There is at most one such phrase, and the lexer rests behind it. If the parser fails with
an error of the grammar, the lexer rests at the token to blame. If it fails with an error of the
lexer, exactly the pieces through the bad one have been read, and the token before that piece, with
which a phrase could go on, is still the current one. -/
theorem parser_of_any_state {level : Level} {lexer : Lexer}
    (nests : lexer.NestsWithin Parser.guaranteedNesting) :
    (∀ tree, (∃ last, Parser.ofLevel level Parser.nested lexer = .ok tree last) ↔
      ∃ tokens next, level.LiesAhead lexer tokens tree next) ∧
    (∀ tokens tree next others other otherNext, level.LiesAhead lexer tokens tree next →
      level.LiesAhead lexer others other otherNext →
        tokens = others ∧ tree = other ∧ next = otherNext) ∧
    (∀ tokens tree next found last, level.LiesAhead lexer tokens tree next →
      Parser.ofLevel level Parser.nested lexer = .ok found last →
        lexer.RestsBehind tokens last ∧ last.current = next) ∧
    (∀ error last, Parser.ofLevel level Parser.nested lexer = .error (.parse error) last →
      error ≠ .nestedTooDeeply ∧
        ∃ tokens, lexer.RestsBehind tokens last ∧ level.Refuses tokens last.current error) ∧
    ∀ error last, Parser.ofLevel level Parser.nested lexer = .error (.lex error) last →
      ∃ tokens, lexer.BreaksBehind tokens error last ∧ level.Begins (tokens ++ [last.current]) := by
  have withinLimit : lexer.NestsWithin (Parser.nestingLimit false) := fun tokens faces =>
    Nat.le_trans (nests tokens faces) (Nat.add_le_add_left (Parser.guaranteedNesting_le false) _)
  have failed : ∀ {error last}, Parser.ofLevel level Parser.nested lexer = .error error last →
      Fails (Parser.nestingLimit false) (Derives level) (.beforeOperand 0) lexer error last := by
    intro error last parsed
    have exact := Parser.exact_ofLevel (Parser.nestingLimit false) level lexer
    rw [← Parser.nested, parsed] at exact
    cases exact with
    | failed fails => exact fails
  refine ⟨fun tree => ⟨?succeeds, ?accepts⟩, ?unique, ?rests, ?refused, ?unreadable⟩
  case succeeds =>
    rintro ⟨last, parsed⟩
    obtain ⟨tokens, lies, _⟩ := Parser.liesAhead_of_ok parsed
    exact ⟨tokens, last.current, lies⟩
  case accepts =>
    rintro ⟨tokens, next, lies⟩
    exact Parser.exists_ok_of_liesAhead withinLimit lies
  case unique =>
    intro tokens tree next others other otherNext lies otherLies
    exact lies.unique otherLies
  case rests =>
    intro tokens tree next found last lies parsed
    obtain ⟨others, otherLies, rests⟩ := Parser.liesAhead_of_ok parsed
    obtain ⟨rfl, _, rfl⟩ := lies.unique otherLies
    exact ⟨rests, rfl⟩
  case refused =>
    intro error last parsed
    exact (failed parsed).exists_refused withinLimit
  case unreadable =>
    intro error last parsed
    exact (failed parsed).exists_unreadable

/-- A lexer with few enough tokens in front of it keeps to a nesting. -/
theorem Lexer.nestsWithin_of_length_le {limit : Nat} {lexer : Lexer}
    (short : lexer.prospect.length ≤ limit) : lexer.NestsWithin limit := by
  intro tokens faces
  have atMost : (tokens.map Except.ok).length ≤ lexer.prospect.length := faces.length_le
  rw [List.length_map] at atMost
  have counted : tokens.count (.symbol .openParen) ≤ tokens.length := List.count_le_length
  omega

/-- A power is parsed from a current token that a failed advance has left behind, up to the sign in
front of a piece that is no token. A sign in the place of an operand is to blame, and so is a piece
that is no token behind an opening parenthesis. -/
theorem parser_of_any_state_stale :
    (∃ last, Parser.ofLevel .powers Parser.nested
        ⟨.number .one, ["^", " ", "(", "1", ")", "+", "$"], [.error (.illegalCharacter "$")]⟩ =
          .ok (.branch Symbol.power.text (.leaf Double.one.text) (.leaf Double.one.text)) last ∧
      last.current = .symbol .plus ∧ last.unread = ["$"]) ∧
    (∃ tokens, Level.Refuses .sums tokens (.symbol .plus) .expectedOperand) ∧
    ∃ tokens last, Lexer.BreaksBehind ⟨.symbol .openParen, ["$", ")"], []⟩ tokens
      (.illegalCharacter "$") last ∧ Level.Begins .maxima (tokens ++ [.symbol .openParen]) := by
  refine ⟨?_, ?_, ?_⟩
  · have phrase : Derives .powers
        [.number .one, .symbol .power, .symbol .openParen, .number .one, .symbol .closeParen]
        (.branch Symbol.power.text (.leaf Double.one.text) (.leaf Double.one.text)) :=
      .right (.number .one) (.alone (by decide) (.enclosed (.ofNumber .maxima .one)))
    obtain ⟨succeeds, _, rests, _⟩ := @parser_of_any_state .powers
      ⟨.number .one, ["^", " ", "(", "1", ")", "+", "$"], [.error (.illegalCharacter "$")]⟩
      (Lexer.nestsWithin_of_length_le (by decide))
    have lies : Level.LiesAhead .powers
        ⟨.number .one, ["^", " ", "(", "1", ")", "+", "$"], [.error (.illegalCharacter "$")]⟩ _ _
        (.symbol .plus) :=
      ⟨⟨[.error (.illegalCharacter "$"), .ok .endOfInput], by decide +kernel⟩, phrase, rfl⟩
    obtain ⟨last, parsed⟩ := (succeeds _).mpr ⟨_, _, lies⟩
    obtain ⟨behind, isNext⟩ := rests _ _ _ _ _ lies parsed
    exact ⟨last, parsed, isNext, behind.unread.trans (by decide)⟩
  · obtain ⟨_, _, _, refused, _⟩ := @parser_of_any_state .sums ⟨.symbol .plus, ["2"], []⟩
      (Lexer.nestsWithin_of_length_le (by decide))
    obtain ⟨_, tokens, _, refuses⟩ := refused _ _ rfl
    exact ⟨tokens, refuses⟩
  · obtain ⟨_, _, _, _, unreadable⟩ := @parser_of_any_state .maxima
      ⟨.symbol .openParen, ["$", ")"], []⟩ (Lexer.nestsWithin_of_length_le (by decide))
    obtain ⟨tokens, breaks, begins⟩ := unreadable _ _ rfl
    exact ⟨tokens, _, breaks, begins⟩

end Calculator
