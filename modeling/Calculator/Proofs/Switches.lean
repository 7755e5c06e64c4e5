import Calculator.Proofs.Sessions
import Mathlib.Data.List.Forall2

/-!
# Switches on the command line

A switch for the tree or for the log may be written in many ways: by its letter, joined to other
letters behind one dash, or by its name behind two, which may be cut short. The main statement is
that only the switches matter that are named anywhere, not how and how often they are written, and
not whether they stand in front of the expressions or behind them. Between expressions they end the
group: the later expressions are refused by name, and nothing is evaluated.
-/

namespace Calculator.CommandLine

namespace Argument

/-- A text with one dash in front is read by what follows the dash. -/
theorem ofText_of_dash {text : String} {rest : List Char} (dashed : text.toList = '-' :: rest)
    (single : rest.head? ≠ some '-') : ofText text = .ok (ofLetters text rest) := by
  rw [ofText, dashed]
  split
  · next twoDashes =>
    obtain rfl := (List.cons.inj twoDashes).2
    exact absurd rfl single
  · next oneDash =>
    obtain rfl := (List.cons.inj oneDash).2
    rfl
  · next noDash => exact absurd rfl (noDash rest)

/-- A text without a dash in front is an expression. -/
theorem ofText_of_noDash {text : String} (noDash : text.toList.head? ≠ some '-') :
    ofText text = .ok (expression text) := by
  rw [ofText]
  split
  · next dashed =>
    rw [dashed] at noDash
    exact absurd rfl noDash
  · next dashed =>
    rw [dashed] at noDash
    exact absurd rfl noDash
  · rfl

end Argument

/-! ## Spellings -/

namespace Switch

/-- The text of an argument turns on the switches, none of which asks for help. -/
inductive Spells (text : String) : (switches : List Switch) → Prop where
  /-- The letters of the switches are joined behind one dash. -/
  | letters {switches : List Switch} (nonempty : switches ≠ []) (noHelp : help ∉ switches)
    (same : text.toList = '-' :: switches.map letter) : Spells text switches
  /-- The name of a switch, or a start of it, stands behind two dashes. -/
  | name {switch : Switch} {start : List Char} (noHelp : switch ≠ help) (nonempty : start ≠ [])
    (begins : start <+: switch.name.toList) (same : text.toList = '-' :: '-' :: start) :
    Spells text [switch]

/-- The letter of a switch names it. -/
@[simp] theorem ofLetter?_letter (switch : Switch) : ofLetter? switch.letter = some switch := by
  cases switch <;> rfl

/-- No letter of a switch is a dash or an equals sign. -/
theorem letter_ne (switch : Switch) : switch.letter ≠ '-' ∧ switch.letter ≠ '=' := by
  cases switch <;> decide

/-- Joined letters of switches turn on all of them. -/
theorem joined_letters (first second : Switch) (others : List Switch) :
    Argument.joined first ((second :: others).map letter) = .ok (first :: second :: others) := by
  induction others generalizing first second with
  | nil =>
    rw [List.map_cons, Argument.joined, ofLetter?_letter]
    rfl
  | cons third others ih =>
    rw [List.map_cons, Argument.joined, ofLetter?_letter]
    change (Argument.joined second ((third :: others).map letter)).map (first :: ·) = _
    rw [ih second third]
    rfl

/-- Letters of switches behind one dash turn on all of them. -/
theorem ofLetters_letters (text : String) (first : Switch) (others : List Switch) :
    Argument.ofLetters text ((first :: others).map letter) =
      .switches (.ok (first :: others)) := by
  rw [List.map_cons, Argument.ofLetters, ofLetter?_letter]
  cases others with
  | nil => rfl
  | cons second others =>
    have joined := joined_letters first second others
    cases second with
    | help => exact congrArg Argument.switches joined
    | tree => exact congrArg Argument.switches joined
    | verbose => exact congrArg Argument.switches joined

/-- A start of a name that is not empty is one of that name alone, and it has no equals sign. -/
theorem name_of_start {switch : Switch} {start : List Char} (nonempty : start ≠ [])
    (begins : start <+: switch.name.toList) :
    start.takeWhile (· != '=') = start ∧ start.dropWhile (· != '=') = [] ∧
      all.filter (fun other => start.isPrefixOf other.name.toList) = [switch] := by
  have starts : ∀ switch ∈ all, ∀ start ∈ switch.name.toList.inits, start ≠ [] →
      start.takeWhile (· != '=') = start ∧ start.dropWhile (· != '=') = [] ∧
        all.filter (fun other => start.isPrefixOf other.name.toList) = [switch] := by decide
  have among : switch ∈ all := by cases switch <;> decide
  exact starts switch among start ((List.mem_inits _ _).mpr begins) nonempty

/-- No spelling asks for help. -/
theorem Spells.noHelp {text : String} {switches : List Switch} (spells : Spells text switches) :
    help ∉ switches := by
  cases spells with
  | letters _ noHelp => exact noHelp
  | name noHelp => simpa using Ne.symm noHelp

/-- Every spelling is read as the switches that it turns on. -/
theorem Spells.ofText_eq {text : String} {switches : List Switch} (spells : Spells text switches) :
    Argument.ofText text = .ok (.switches (.ok switches)) := by
  cases spells with
  | letters nonempty _ same =>
    cases switches with
    | nil => exact absurd rfl nonempty
    | cons first others =>
      have single : ((first :: others).map letter).head? ≠ some '-' := by
        simpa using (letter_ne first).1
      rw [Argument.ofText_of_dash same single, ofLetters_letters]
  | name _ nonempty begins same =>
    obtain ⟨noValue, nothing, only⟩ := name_of_start nonempty begins
    rw [Argument.ofText, same]
    simp [Argument.ofName, noValue, nothing, only]

end Switch

/-- An argument that turns on switches. -/
structure Flag where
  /-- The argument. -/
  text : String
  /-- The switches that it turns on. -/
  switches : List Switch
  /-- It is one of the spellings of them. -/
  spells : Switch.Spells text switches

/-! ## Expressions -/

/-- The text is that of a number without a sign: digits, or digits or none, a point and digits. -/
inductive IsUnsigned : List Char → Prop where
  /-- A whole number. -/
  | whole {digits : List Char} (nonempty : digits ≠ [])
    (allDigits : ∀ c ∈ digits, Text.isDecimalDigit c = true) : IsUnsigned digits
  /-- A number with a fraction. -/
  | fraction {whole digits : List Char} (wholeDigits : ∀ c ∈ whole, Text.isDecimalDigit c = true)
    (nonempty : digits ≠ []) (allDigits : ∀ c ∈ digits, Text.isDecimalDigit c = true) :
    IsUnsigned (whole ++ '.' :: digits)

/-- The argument is an expression wherever it stands, as far as it may stand there. -/
inductive IsPlain (text : String) : Prop where
  /-- There is no dash in front. -/
  | noDash (noDash : text.toList.head? ≠ some '-')
  /-- The text is a dash. -/
  | dash (isDash : text = "-")
  /-- The text is that of a number below zero. One line feed may follow the number. -/
  | number {digits ending : List Char} (isUnsigned : IsUnsigned digits)
    (ends : ending = [] ∨ ending = ['\n']) (same : text.toList = '-' :: (digits ++ ending))

namespace IsUnsigned

/-- No digit is a point, a line feed, a dash or the letter of a switch. -/
theorem isDecimalDigit_false {c : Char} (among : c ∈ ['.', '\n', '-', 'h', 't', 'v']) :
    Text.isDecimalDigit c = false := by
  simp only [List.mem_cons, List.not_mem_nil, or_false] at among
  obtain rfl | rfl | rfl | rfl | rfl | rfl := among <;> decide +kernel

/-- What a number begins with is neither a dash nor the letter of a switch. -/
theorem exists_cons {text : List Char} (isUnsigned : IsUnsigned text) :
    ∃ c rest, text = c :: rest ∧ c ≠ '-' ∧ Switch.ofLetter? c = none := by
  have ofFirst : ∀ c, Text.isDecimalDigit c = true ∨ c = '.' →
      c ≠ '-' ∧ Switch.ofLetter? c = none := by
    intro c first
    have other : ∀ d ∈ ['-', 'h', 't', 'v'], c ≠ d := by
      rintro d among rfl
      obtain isDigit | rfl := first
      · rw [isDecimalDigit_false (List.mem_cons_of_mem _ (List.mem_cons_of_mem _ among))] at isDigit
        cases isDigit
      · simp at among
    refine ⟨other '-' (by simp), ?_⟩
    rw [Switch.ofLetter?, List.find?_eq_none]
    intro switch _ named
    refine other switch.letter ?_ (beq_iff_eq.mp named).symm
    cases switch <;> simp [Switch.letter]
  cases isUnsigned with
  | whole nonempty allDigits =>
    obtain ⟨c, rest, rfl⟩ := List.exists_cons_of_ne_nil nonempty
    exact ⟨c, rest, rfl, ofFirst c (.inl (allDigits c List.mem_cons_self))⟩
  | @fraction whole digits wholeDigits =>
    cases whole with
    | nil => exact ⟨'.', digits, rfl, ofFirst '.' (.inr rfl)⟩
    | cons c rest =>
      exact ⟨c, rest ++ '.' :: digits, rfl, ofFirst c (.inl (wholeDigits c List.mem_cons_self))⟩

/-- A number does not end with a line feed. -/
theorem getLast?_ne {text : List Char} (isUnsigned : IsUnsigned text) :
    text.getLast? ≠ some '\n' := by
  have notDigit : Text.isDecimalDigit '\n' = false := isDecimalDigit_false (by decide)
  have noFeed : ∀ {digits : List Char}, (∀ c ∈ digits, Text.isDecimalDigit c = true) →
      '\n' ∉ digits := by
    intro digits allDigits among
    rw [allDigits _ among] at notDigit
    cases notDigit
  intro feed
  have among := List.mem_of_getLast? feed
  cases isUnsigned with
  | whole _ allDigits => exact noFeed allDigits among
  | fraction wholeDigits _ allDigits =>
    rw [List.mem_append, List.mem_cons] at among
    obtain inWhole | isPoint | inFraction := among
    · exact noFeed wholeDigits inWhole
    · cases isPoint
    · exact noFeed allDigits inFraction

/-- A number is recognized as one. -/
theorem isNumber_eq {text ending : List Char} (isUnsigned : IsUnsigned text)
    (ends : ending = [] ∨ ending = ['\n']) : Argument.isNumber (text ++ ending) = true := by
  have body : (if (text ++ ending).getLast? = some '\n' then (text ++ ending).dropLast
      else text ++ ending) = text := by
    obtain rfl | rfl := ends
    · rw [List.append_nil, if_neg isUnsigned.getLast?_ne]
    · rw [List.getLast?_concat, if_pos rfl, List.dropLast_concat]
  have noPoint : Text.isDecimalDigit '.' = false := isDecimalDigit_false (by decide)
  rw [Argument.isNumber, body]
  cases isUnsigned with
  | whole nonempty allDigits =>
    rw [List.takeWhile_eq_self_iff.mpr allDigits, List.dropWhile_eq_nil_iff.mpr allDigits]
    simpa using nonempty
  | fraction wholeDigits nonempty allDigits =>
    rw [List.dropWhile_append_of_pos wholeDigits, List.dropWhile_cons_of_neg (by simp [noPoint])]
    simpa using ⟨nonempty, allDigits⟩

end IsUnsigned

/-- An argument that is an expression wherever it stands is read as one. -/
theorem IsPlain.ofText_eq {text : String} (isPlain : IsPlain text) :
    Argument.ofText text = .ok (.expression text) := by
  cases isPlain with
  | noDash noDash => exact Argument.ofText_of_noDash noDash
  | dash isDash =>
    rw [isDash]
    rfl
  | @number digits ending isUnsigned ends same =>
    have isNumber := isUnsigned.isNumber_eq ends
    obtain ⟨c, rest, rfl, noDash, noSwitch⟩ := isUnsigned.exists_cons
    rw [Argument.ofText_of_dash same (by simpa using noDash)]
    rw [List.cons_append, Argument.ofLetters, noSwitch]
    simp only [Argument.ofOther, same, List.drop_one, List.tail_cons, isNumber, Bool.true_or,
      if_true]

/-! ## Command lines -/

namespace Argument

/-- The text stands for the argument in front of the separator. -/
structure Means (text : String) (argument : Argument) : Prop where
  /-- The text is not the separator itself. -/
  notSeparator : text ≠ "--"
  /-- The text is read as the argument. -/
  meaning : ofText text = .ok argument

/-- Without the separator, the arguments of a command line are what its texts stand for. -/
theorem ofTexts_eq {texts : List String} {arguments : List Argument}
    (means : List.Forall₂ Means texts arguments) : ofTexts texts = .ok arguments := by
  induction means with
  | nil => rfl
  | cons first _ ih =>
    rw [ofTexts, if_neg first.notSeparator, first.meaning, ih]
    rfl

end Argument

/-- The switches as one argument. -/
def Flag.argument (flag : Flag) : Argument := .switches (.ok flag.switches)

/-- Every spelling stands for its switches. -/
theorem Flag.means (flag : Flag) : Argument.Means flag.text flag.argument := by
  refine ⟨?_, flag.spells.ofText_eq⟩
  intro isSeparator
  have meaning := flag.spells.ofText_eq
  rw [isSeparator] at meaning
  cases meaning

/-- An argument that is an expression wherever it stands does not stand for anything else. -/
theorem IsPlain.means {text : String} (isPlain : IsPlain text) :
    Argument.Means text (.expression text) := by
  refine ⟨?_, isPlain.ofText_eq⟩
  rintro rfl
  have meaning := isPlain.ofText_eq
  cases meaning

/-- Flags stand for their switches. -/
theorem flags_mean (flags : List Flag) :
    List.Forall₂ Argument.Means (flags.map Flag.text) (flags.map Flag.argument) := by
  rw [List.forall₂_map_left_iff, List.forall₂_map_right_iff, List.forall₂_same]
  exact fun flag _ => flag.means

/-- Expressions stand for themselves. -/
theorem expressions_mean {expressions : List String} (plain : ∀ text ∈ expressions, IsPlain text) :
    List.Forall₂ Argument.Means expressions (expressions.map Argument.expression) := by
  rw [List.forall₂_map_right_iff, List.forall₂_same]
  exact fun text among => (plain text among).means

/-- Switches turn on what they contain. -/
theorem Flags.foldl_turnOn_eq (switches : List Switch) (flags : Flags) :
    switches.foldl turnOn flags =
      ⟨flags.tree || switches.contains .tree, flags.verbose || switches.contains .verbose⟩ := by
  induction switches generalizing flags with
  | nil => simp
  | cons switch others ih =>
    rw [List.foldl_cons, ih]
    cases switch <;> simp [turnOn]

namespace Request

/-- Flags turn on their switches and end the group of expressions if it has begun. -/
theorem ofArguments_flags (on : Flags) (group late : List String) (closed : Bool)
    (flags : List Flag) (rest : List Argument) :
    ofArguments ⟨on, group, closed, late⟩ (flags.map Flag.argument ++ rest) =
      ofArguments ⟨(flags.flatMap Flag.switches).foldl Flags.turnOn on, group,
        closed || (!flags.isEmpty && !group.isEmpty), late⟩ rest := by
  induction flags generalizing on closed with
  | nil => simp
  | cons flag others ih =>
    have closes : ((closed || !group.isEmpty) || (!others.isEmpty && !group.isEmpty)) =
        (closed || (!(flag :: others).isEmpty && !group.isEmpty)) := by
      cases group.isEmpty <;> simp
    have noHelp : flag.switches.contains .help = false := by simpa using flag.spells.noHelp
    rw [List.map_cons, List.cons_append, Flag.argument, ofArguments, noHelp,
      if_neg Bool.false_ne_true, List.flatMap_cons, List.foldl_append, ← closes]
    exact ih _ _

/-- Expressions belong to the group as long as it is open. -/
theorem ofArguments_group (on : Flags) (group late expressions : List String)
    (rest : List Argument) :
    ofArguments ⟨on, group, false, late⟩ (expressions.map Argument.expression ++ rest) =
      ofArguments ⟨on, group ++ expressions, false, late⟩ rest := by
  induction expressions generalizing group with
  | nil => simp
  | cons expression others ih =>
    refine (ih (group ++ [expression])).trans ?_
    rw [List.append_assoc, List.singleton_append]

/-- Behind the group no expression is recognized. -/
theorem ofArguments_late (on : Flags) (group late expressions : List String)
    (rest : List Argument) :
    ofArguments ⟨on, group, true, late⟩ (expressions.map Argument.expression ++ rest) =
      ofArguments ⟨on, group, true, late ++ expressions⟩ rest := by
  induction expressions generalizing late with
  | nil => simp
  | cons expression others ih =>
    refine (ih (late ++ [expression])).trans ?_
    rw [List.append_assoc, List.singleton_append]

end Request

/-- The flags that switches of command line arguments turn on. -/
def Flags.ofArguments (flags : List Flag) : Flags :=
  ⟨flags.any fun flag => flag.switches.contains .tree,
    flags.any fun flag => flag.switches.contains .verbose⟩

/-- The flags in one letter each, the tree before the log. -/
def Flags.options (flags : Flags) : List String :=
  (if flags.tree then ["-t"] else []) ++ if flags.verbose then ["-v"] else []

/-- The switches of arguments turn on the flags of the arguments. -/
theorem Flags.foldl_turnOn_flatMap (flags : List Flag) :
    (flags.flatMap Flag.switches).foldl turnOn ⟨false, false⟩ = ofArguments flags := by
  simp only [foldl_turnOn_eq, ofArguments, List.contains_flatMap, Bool.false_or]

namespace Request

/-- Letters of switches, the separator and expressions ask for the expressions with the flags. -/
theorem ofTexts_canonical (flags : Flags) (expressions : List String) :
    ofTexts (flags.options ++ "--" :: expressions) = .ok (evaluate flags expressions) := by
  have drawn : ∀ option ∈ flags.options, option = "-t" ∨ option = "-v" := by
    obtain ⟨tree, verbose⟩ := flags
    cases tree <;> cases verbose <;> simp [Flags.options]
  have asked := ofTexts_options drawn (ofTexts_separator expressions)
  rw [asked]
  obtain ⟨tree, verbose⟩ := flags
  cases tree <;> cases verbose <;> rfl

section

variable {front between back : List Flag} {expressions first later : List String}

/-- Flags on both sides of expressions ask for the expressions with the flags of both sides. -/
theorem ofTexts_around (plain : ∀ text ∈ expressions, IsPlain text) :
    ofTexts (front.map Flag.text ++ (expressions ++ back.map Flag.text)) =
      .ok (evaluate (Flags.ofArguments (front ++ back)) expressions) := by
  have means : List.Forall₂ Argument.Means
      (front.map Flag.text ++ (expressions ++ back.map Flag.text))
      (front.map Flag.argument ++
        (expressions.map Argument.expression ++ (back.map Flag.argument ++ []))) := by
    rw [List.append_nil]
    exact List.rel_append (flags_mean front)
      (List.rel_append (expressions_mean plain) (flags_mean back))
  have opened : (false || (!front.isEmpty && !([] : List String).isEmpty)) = false := by simp
  rw [ofTexts, Argument.ofTexts_eq means, ← Flags.foldl_turnOn_flatMap, List.flatMap_append,
    List.foldl_append]
  change ofArguments ⟨⟨false, false⟩, [], false, []⟩ _ = _
  rw [ofArguments_flags, opened, ofArguments_group, ofArguments_flags]
  rfl

/-- With flags between two groups of expressions the later group is not recognized. -/
theorem ofTexts_apart (plain : ∀ text ∈ first ++ later, IsPlain text) (someFirst : first ≠ [])
    (someBetween : between ≠ []) (someLater : later ≠ []) :
    ofTexts (front.map Flag.text ++
      (first ++ (between.map Flag.text ++ (later ++ back.map Flag.text)))) =
        .error (.unrecognized later) := by
  rw [List.forall_mem_append] at plain
  have means : List.Forall₂ Argument.Means
      (front.map Flag.text ++
        (first ++ (between.map Flag.text ++ (later ++ back.map Flag.text))))
      (front.map Flag.argument ++ (first.map Argument.expression ++
        (between.map Flag.argument ++ (later.map Argument.expression ++
          (back.map Flag.argument ++ []))))) := by
    rw [List.append_nil]
    exact List.rel_append (flags_mean front) (List.rel_append (expressions_mean plain.1)
      (List.rel_append (flags_mean between)
        (List.rel_append (expressions_mean plain.2) (flags_mean back))))
  have opened : (false || (!front.isEmpty && !([] : List String).isEmpty)) = false := by simp
  have closed : (false || (!between.isEmpty && !([] ++ first).isEmpty)) = true := by
    simp [someFirst, someBetween]
  have refused : ([] ++ later).isEmpty = false := by simp [someLater]
  rw [ofTexts, Argument.ofTexts_eq means]
  change ofArguments ⟨⟨false, false⟩, [], false, []⟩ _ = _
  rw [ofArguments_flags, opened, ofArguments_group, ofArguments_flags, closed, ofArguments_late,
    ofArguments_flags, ofArguments, refused]
  rfl

end

end Request

/-- Runs on command lines that ask for the same are the same. -/
theorem run_congr {arguments others : List String}
    (same : Request.ofTexts arguments = Request.ofTexts others) (input : String) :
    run arguments input = run others input := by
  rw [run, run, same]

/-- A run that is refused for arguments writes how the program is called and which arguments these
are, and it evaluates nothing. -/
theorem run_of_unrecognized {arguments late : List String}
    (refused : Request.ofTexts arguments = .error (.unrecognized late)) (input : String) :
    run arguments input = ⟨2, ⟨"", "usage: mcalc [-h] [-t] [-v] [EXPR ...]\n" ++
      "mcalc: error: unrecognized arguments: " ++ " ".intercalate late ++ "\n"⟩⟩ := by
  have begins : "mcalc: error: " ++ "unrecognized arguments: " =
      "mcalc: error: unrecognized arguments: " := by decide +kernel
  rw [run, refused, ← begins, ← String.append_assoc]
  change Outcome.mk 2
    ⟨"", usage ++ "mcalc: error: " ++ ("unrecognized arguments: " ++ _) ++ "\n"⟩ = _
  rw [← String.append_assoc]
  rfl

/-- Only the switches matter that the flags of a command line name, however and how often they are
written, and on whichever side of the expressions they stand: a run does the same as with the
letters of these switches, each once, the separator and the expressions. Without expressions it is a
session. Flags between two groups of expressions make the later group unrecognized, and exactly that
group is named by the error; nothing is evaluated, and nothing is written but the error. -/
theorem flags_mean_the_same_everywhere :
    (∀ (front back : List Flag) (expressions : List String) (input : String),
      (∀ text ∈ expressions, IsPlain text) →
        run (front.map Flag.text ++ expressions ++ back.map Flag.text) input =
          run ((Flags.ofArguments (front ++ back)).options ++ "--" :: expressions) input) ∧
    (∀ (front back : List Flag) (input : String),
      run (front.map Flag.text ++ [] ++ back.map Flag.text) input =
        ⟨0, session (Flags.ofArguments (front ++ back)) (Text.lines input)⟩) ∧
    ∀ (front between back : List Flag) (first later : List String) (input : String),
      (∀ text ∈ first ++ later, IsPlain text) → first ≠ [] → between ≠ [] → later ≠ [] →
        run (front.map Flag.text ++ first ++ between.map Flag.text ++ later ++
          back.map Flag.text) input =
          ⟨2, ⟨"", "usage: mcalc [-h] [-t] [-v] [EXPR ...]\n" ++
            "mcalc: error: unrecognized arguments: " ++ " ".intercalate later ++ "\n"⟩⟩ := by
  refine ⟨fun front back expressions input plain => ?around, fun front back input => ?session,
    fun front between back first later input plain someFirst someBetween someLater => ?apart⟩
  case around =>
    rw [List.append_assoc]
    exact run_congr ((Request.ofTexts_around plain).trans
      (Request.ofTexts_canonical _ expressions).symm) input
  case session =>
    have none : ∀ text ∈ ([] : List String), IsPlain text := by simp
    rw [List.append_assoc]
    exact run_session (Request.ofTexts_around none) input
  case apart =>
    simp only [List.append_assoc]
    exact run_of_unrecognized (Request.ofTexts_apart plain someFirst someBetween someLater) input

/-- Joined letters and names that are cut short stand around a number below zero and a dash, and
between two groups; alone they ask for a session. -/
theorem flags_mean_the_same_everywhere_clusters :
    IsPlain "-5" ∧ IsPlain "-" ∧ IsPlain "1" ∧
      run ["-vt", "--tr", "-5", "-", "--verbos"] "" = run ["-t", "-v", "--", "-5", "-"] "" ∧
      run ["--v"] "1\n\n2" = ⟨0, session ⟨false, true⟩ (Text.lines "1\n\n2")⟩ ∧
      run ["1", "--t", "-5", "-"] "" = ⟨2, ⟨"", "usage: mcalc [-h] [-t] [-v] [EXPR ...]\n" ++
        "mcalc: error: unrecognized arguments: " ++ " ".intercalate ["-5", "-"] ++ "\n"⟩⟩ := by
  have digit : IsUnsigned ['5'] := .whole (by decide) fun c among => by
    rw [List.mem_singleton.mp among]
    decide
  have number : IsPlain "-5" := .number digit (.inl rfl) rfl
  have dash : IsPlain "-" := .dash rfl
  have one : IsPlain "1" := .noDash (by decide)
  let joined : Flag := ⟨"-vt", [.verbose, .tree], .letters (by decide) (by decide) rfl⟩
  let tree : Flag := ⟨"--t", [.tree], .name (by decide) (by decide) (by decide) rfl⟩
  let longer : Flag := ⟨"--tr", [.tree], .name (by decide) (by decide) (by decide) rfl⟩
  let verbose : Flag := ⟨"--v", [.verbose], .name (by decide) (by decide) (by decide) rfl⟩
  let almost : Flag := ⟨"--verbos", [.verbose], .name (by decide) (by decide) (by decide) rfl⟩
  obtain ⟨around, alone, apart⟩ := flags_mean_the_same_everywhere
  have both : ∀ text ∈ ["-5", "-"], IsPlain text := by simp [number, dash]
  have all : ∀ text ∈ ["1"] ++ ["-5", "-"], IsPlain text := by simp [number, dash, one]
  exact ⟨number, dash, one, around [joined, longer] [almost] _ "" both, alone [verbose] [] _,
    apart [] [tree] [] _ _ "" all (by decide) (by decide) (by decide)⟩

end Calculator.CommandLine
