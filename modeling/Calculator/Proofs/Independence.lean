import Calculator.Proofs.Verbosity

/-!
# Expressions on their own

A run evaluates its expressions independently of each other. Behind the separator every text is an
expression as it stands. Each expression contributes its value, with its tree in front if trees are
shown, or one message; what the run writes is made of these contributions in order, and its status
tells whether an expression was refused. The log adds its lines, and its last one counts the
expressions that failed if there are any.
-/

namespace Calculator

namespace Text

/-- The last line of a text, with the line feed that ends it. What follows the last line feed is a
line as well. -/
def lastLine? (text : String) : Option String :=
  (feedLines text.toList).getLast?.map String.ofList

/-- One line behind whole lines is the last line. -/
theorem lastLine?_append {front line : String} (whole : IsWholeLines front)
    (oneLine : IsOneLine line) : lastLine? (front ++ (line ++ "\n")) = some (line ++ "\n") := by
  have ended : (line ++ "\n").toList = line.toList ++ ['\n'] := String.toList_append
  rw [lastLine?, String.toList_append, feedLines_append whole, ended, feedLines_line oneLine,
    List.getLast?_concat, ← ended, Option.map_some, String.ofList_toList]

end Text

namespace CommandLine

/-! ## Contributions -/

/-- What an expression has to write apart from the log: its value, behind its tree if that is shown,
or one message. Where the log is kept, it may be refused for less nesting. -/
inductive Contributes (tree verbose : Bool) (source : String) : Output → Prop where
  /-- The source is parsed, and its tree has a value. -/
  | value {parsed : Tree} {value : Double}
    (accepted : parseWithin (Parser.nestingLimit verbose) source = .ok parsed)
    (evaluated : parsed.evaluate = .ok value) (oneLine : Text.IsOneLine value.text) :
    Contributes tree verbose source
      ⟨(if tree then parsed.outline else "") ++ value.text ++ "\n", ""⟩
  /-- The source is refused. -/
  | message {error : SyntaxError}
    (refused : parseWithin (Parser.nestingLimit verbose) source = .error error)
    (oneLine : Text.IsOneLine error.message) :
    Contributes tree verbose source ⟨"", error.message ++ "\n"⟩

/-- What an expression writes, apart from the log. -/
def contribution (tree verbose : Bool) (source : String) : Output :=
  (plainReply tree verbose source).output

/-- How many of the expressions are refused. One that stands in several places counts in each. -/
def failures (verbose : Bool) (sources : List String) : Nat :=
  sources.countP fun source => !(parseWithin (Parser.nestingLimit verbose) source).isOk

/-- The reply to an expression holds what it has to write. -/
theorem contributes_contribution (tree verbose : Bool) (source : String) :
    Contributes tree verbose source (contribution tree verbose source) := by
  rw [contribution, plainReply]
  cases outcome : parseWithin (Parser.nestingLimit verbose) source with
  | error error =>
    obtain ⟨lexer, written⟩ := replyWithin_of_refused outcome
    rw [written]
    exact .message outcome (message_of_parseWithin_error outcome).1
  | ok parsed =>
    obtain ⟨lexer, value, evaluated, written⟩ := replyWithin_of_accepted outcome
    rw [written]
    exact .value outcome evaluated (.of_noBlank value.noBlank_text)

/-- The log has no line in a contribution. -/
theorem leaves_contribution (tree verbose : Bool) (source : String) :
    Text.Leaves Log.mark (contribution tree verbose source).error
      (contribution tree verbose source).error := by
  have shown := contributes_contribution tree verbose source
  generalize contribution tree verbose source = output at shown
  cases shown with
  | value => exact .empty
  | message refused => exact Log.leaves_message refused

/-- An expression fails exactly if it is refused. -/
theorem reply_failed (flags : Flags) (source : String) :
    (reply flags source).failed =
      !(parseWithin (Parser.nestingLimit flags.verbose) source).isOk := by
  rw [reply]
  cases outcome : parseWithin (Parser.nestingLimit flags.verbose) source with
  | error error =>
    obtain ⟨lexer, written⟩ := replyWithin_of_refused outcome
    rw [written]
    rfl
  | ok parsed =>
    obtain ⟨lexer, value, _, written⟩ := replyWithin_of_accepted outcome
    rw [written]
    rfl

/-! ## Runs over several expressions -/

/-- What a run on expressions leaves is put together from what each of them contributes. -/
structure Outcome.Gathers (outcome : Outcome) (tree verbose : Bool) (sources : List String) :
    Prop where
  /-- The status tells whether an expression failed. -/
  status : outcome.status = if failures verbose sources = 0 then 0 else 1
  /-- The values stand in the order of their expressions. -/
  standard : outcome.output.standard =
    String.join (sources.map fun source => (contribution tree verbose source).standard)
  /-- Apart from the log, the messages stand in the order of their expressions. -/
  error : Text.deleteLines "DEBUG " outcome.output.error =
    String.join (sources.map fun source => (contribution tree verbose source).error)
  /-- Without the log there are only the messages. -/
  quiet : verbose = false → outcome.output.error =
    String.join (sources.map fun source => (contribution tree verbose source).error)
  /-- If an expression failed, then the log ends with how many did. -/
  summary : verbose = true → 0 < failures verbose sources →
    Text.lastLine? outcome.output.error = some ("DEBUG mcalc: " ++
      (failures verbose sources).repr ++ " of " ++ sources.length.repr ++ " expressions failed\n")
  /-- If no expression failed, then the log does not end with a line of that form. -/
  noSummary : verbose = true → failures verbose sources = 0 → ∀ failed total : Nat,
    Text.lastLine? outcome.output.error ≠ some ("DEBUG mcalc: " ++ failed.repr ++
      " of " ++ total.repr ++ " expressions failed\n")

/-- As many replies fail as expressions are refused. -/
theorem countP_failed (flags : Flags) (sources : List String) :
    (sources.map (reply flags)).countP Reply.failed = failures flags.verbose sources := by
  have failed : Reply.failed ∘ reply flags =
      fun source => !(parseWithin (Parser.nestingLimit flags.verbose) source).isOk :=
    funext fun source => reply_failed flags source
  rw [List.countP_map, failed, failures]

/-- The status of an evaluation tells whether an expression is refused. -/
theorem evaluateAll_status (flags : Flags) (sources : List String) :
    (evaluateAll flags sources).status = if failures flags.verbose sources = 0 then 0 else 1 := by
  simp only [evaluateAll, countP_failed]

/-- It does not matter which two of three outputs are put together first. -/
theorem Output.append_assoc (first second third : Output) :
    first ++ second ++ third = first ++ (second ++ third) := by
  change Output.mk _ _ = Output.mk _ _
  rw [Output.mk.injEq]
  exact ⟨String.append_assoc .., String.append_assoc ..⟩

/-- The first of several outputs stands in front of the others. -/
theorem Output.join_cons (first : Output) (others : List Output) :
    join (first :: others) = first ++ join others := by
  simp only [join, List.map_cons, String.join_cons]
  rfl

/-- Outputs one after the other are those of the front and then those of the back. -/
theorem Output.join_append (front back : List Output) :
    join (front ++ back) = join front ++ join back := by
  simp only [join, List.map_append, String.join_append]
  rfl

/-- Without the log, an evaluation writes what its expressions contribute. -/
theorem evaluateAll_output (tree : Bool) (sources : List String) :
    (evaluateAll ⟨tree, false⟩ sources).output =
      Output.join (sources.map (contribution tree false)) := by
  rw [evaluateAll_plain, List.map_map]
  rfl

/-- What expressions write to the error output with the log. -/
def logged (tree : Bool) (sources : List String) : String :=
  String.join (sources.map fun source => (reply ⟨tree, true⟩ source).output.error)

/-- With the log, an evaluation writes to the error output what its expressions do, and how many of
them failed if there are any. -/
theorem evaluateAll_error (tree : Bool) (sources : List String) :
    (evaluateAll ⟨tree, true⟩ sources).output.error = logged tree sources ++
      if failures true sources = 0 then ""
      else Log.ofFailures (failures true sources) sources.length := by
  simp only [evaluateAll, countP_failed, Bool.true_and, bne_iff_ne, ne_eq, ite_not]
  change String.join (List.map _ (List.map _ (List.map _ _))) ++ _ = _
  rw [List.map_map, List.map_map]
  rfl

/-- What expressions write to the error output with the log is made of whole lines. -/
theorem isWholeLines_logged (tree : Bool) (sources : List String) :
    Text.IsWholeLines (logged tree sources) :=
  (Text.Leaves.join (fun source => (reply_verbose tree source).2.2) sources).whole

/-- A line of the log behind whole lines is the last line. -/
theorem Log.IsLine.lastLine?_append {front line : String} (isLine : IsLine line)
    (whole : Text.IsWholeLines front) : Text.lastLine? (front ++ line) = some line := by
  obtain ⟨content, oneLine, _, rfl⟩ := isLine
  exact Text.lastLine?_append whole oneLine

/-- If no expression failed, then the log ends with the line for the last one that was parsed. -/
theorem exists_lastLine?_logged (tree : Bool) {sources : List String} (nonempty : sources ≠ [])
    (noFailure : failures true sources = 0) :
    ∃ source, Text.lastLine? (logged tree sources) = some (Log.ofParsed source) := by
  obtain ⟨front, last, rfl⟩ := (List.eq_nil_or_concat' sources).resolve_left nonempty
  refine ⟨last, ?_⟩
  have both : logged tree (front ++ [last]) =
      logged tree front ++ (reply ⟨tree, true⟩ last).output.error := by
    simp [logged, String.join_append, String.join_cons]
  rw [both]
  cases outcome : parseWithin (Parser.nestingLimit true) last with
  | error error =>
    have refused : (parseWithin (Parser.nestingLimit true) last).isOk = false := by
      rw [outcome]
      rfl
    simp [failures, refused] at noFailure
  | ok parsed =>
    obtain ⟨lexer, _, _, written⟩ := replyWithin_of_accepted outcome
    have whole := (isWholeLines_logged tree front).append (Log.leaves_ofLexer lexer).whole
    rw [reply, written]
    show Text.lastLine? (logged tree front ++ (Log.ofLexer lexer ++ Log.ofParsed last)) = _
    rw [← String.append_assoc]
    exact (Log.isLine_ofParsed last).lastLine?_append whole

/-- The line for a source that was parsed is not one for expressions that failed. -/
theorem Log.ofParsed_ne_ofFailures (source : String) (failed total : Nat) :
    ofParsed source ≠ ofFailures failed total := by
  intro same
  have characters := congrArg (fun text => text.toList[7]?) same
  simp [ofParsed, ofFailures, line, String.append_assoc] at characters

/-- An evaluation leaves what its expressions contribute. -/
theorem evaluateAll_gathers (tree verbose : Bool) {sources : List String}
    (nonempty : sources ≠ []) :
    (evaluateAll ⟨tree, verbose⟩ sources).Gathers tree verbose sources := by
  have wording : ∀ failed total : Nat, "DEBUG mcalc: " ++ failed.repr ++ " of " ++ total.repr ++
      " expressions failed\n" = Log.ofFailures failed total := by
    intro failed total
    simp [Log.ofFailures, Log.line, String.append_assoc]
  have joined : ∀ kept, (Output.join (sources.map (contribution tree kept))).standard =
      String.join (sources.map fun source => (contribution tree kept source).standard) ∧
      (Output.join (sources.map (contribution tree kept))).error =
      String.join (sources.map fun source => (contribution tree kept source).error) := by
    intro kept
    simp only [Output.join, List.map_map]
    exact ⟨rfl, rfl⟩
  cases verbose with
  | false =>
    obtain ⟨standard, error⟩ := joined false
    rw [← evaluateAll_output] at standard error
    exact {
      status := evaluateAll_status _ sources
      standard := standard
      error := by
        rw [error]
        exact (Text.Leaves.join (leaves_contribution tree false) sources).left
      quiet := fun _ => error
      summary := fun log => absurd log Bool.false_ne_true
      noSummary := fun log => absurd log Bool.false_ne_true }
  | true =>
    obtain ⟨_, sameStandard, leaves⟩ := evaluateAll_verbose tree sources
    rw [List.map_map] at sameStandard leaves
    exact {
      status := evaluateAll_status _ sources
      standard := sameStandard.trans (joined true).1
      error := leaves.left.trans (joined true).2
      quiet := fun noLog => absurd noLog.symm Bool.false_ne_true
      summary := by
        intro _ positive
        rw [evaluateAll_error, if_neg (Nat.pos_iff_ne_zero.mp positive), wording]
        exact (Log.isLine_ofFailures _ _).lastLine?_append (isWholeLines_logged tree sources)
      noSummary := by
        intro _ noFailure failed total
        obtain ⟨source, lastLine⟩ := exists_lastLine?_logged tree nonempty noFailure
        rw [evaluateAll_error, if_pos noFailure, String.append_empty, lastLine, wording]
        intro same
        exact Log.ofParsed_ne_ofFailures source failed total (Option.some.inj same) }

/-! ## Command lines -/

namespace Request

/-- Letters of switches in front of a command line that asks for no switch turn on what they stand
for. -/
theorem ofTexts_options {options texts sources : List String}
    (drawn : ∀ option ∈ options, option = "-t" ∨ option = "-v")
    (asked : ofTexts texts = .ok (evaluate ⟨false, false⟩ sources)) :
    ofTexts (options ++ texts) =
      .ok (evaluate ⟨options.contains "-t", options.contains "-v"⟩ sources) := by
  have letterTree : "-" ++ String.singleton Switch.tree.letter = "-t" := by decide
  have letterVerbose : "-" ++ String.singleton Switch.verbose.letter = "-v" := by decide
  induction options with
  | nil => exact asked
  | cons option others ih =>
    have further := ih fun other among => drawn other (List.mem_cons_of_mem _ among)
    obtain rfl | rfl := drawn option List.mem_cons_self
    · have turned := ofTexts_switch .tree (by decide) (others ++ texts)
      rw [letterTree, further] at turned
      exact turned
    · have turned := ofTexts_switch .verbose (by decide) (others ++ texts)
      rw [letterVerbose, further] at turned
      exact turned

end Request

/-- Behind letters of switches and the separator every text is an expression as it stands, even one
that looks like a switch or like the separator. What a run on expressions leaves is put together
from what each of them contributes: its value, behind its tree if that is shown, and no message, or
one message and nothing else. The status is one if some of them failed, and the log, if it is asked
for, ends with how many did exactly in this case. Without the log, what is written for two lists of
expressions together is what is written for each of them. An expression that the log spares
contributes the same with the log as without. -/
theorem expressions_are_independent {options : List String}
    (drawn : ∀ option ∈ options, option = "-t" ∨ option = "-v") :
    (∀ sources, Request.ofTexts (options ++ "--" :: sources) =
      .ok (.evaluate ⟨options.contains "-t", options.contains "-v"⟩ sources)) ∧
    (∀ sources input, sources ≠ [] →
      (run (options ++ "--" :: sources) input).Gathers (options.contains "-t")
        (options.contains "-v") sources) ∧
    (∀ front back input, "-v" ∉ options → front ≠ [] → back ≠ [] →
      (run (options ++ "--" :: (front ++ back)) input).output =
        (run (options ++ "--" :: front) input).output ++
          (run (options ++ "--" :: back) input).output) ∧
    (∀ source, Contributes (options.contains "-t") (options.contains "-v") source
      (contribution (options.contains "-t") (options.contains "-v") source)) ∧
    ∀ source, Log.Spares source →
      contribution (options.contains "-t") true source =
        contribution (options.contains "-t") false source := by
  have asked : ∀ sources, Request.ofTexts (options ++ "--" :: sources) =
      .ok (.evaluate ⟨options.contains "-t", options.contains "-v"⟩ sources) :=
    fun sources => Request.ofTexts_options drawn (Request.ofTexts_separator sources)
  refine ⟨asked, ?gathers, ?append, fun source => contributes_contribution _ _ source,
    fun source spared => congrArg Reply.output (spared.plainReply_eq _)⟩
  case gathers =>
    intro sources input nonempty
    rw [run_of_asked (asked sources) nonempty input]
    exact evaluateAll_gathers _ _ nonempty
  case append =>
    intro front back input noLog frontNonempty backNonempty
    have quiet : options.contains "-v" = false := by simpa using noLog
    have together : front ++ back ≠ [] := by simp [frontNonempty]
    rw [run_of_asked (asked _) together, run_of_asked (asked front) frontNonempty,
      run_of_asked (asked back) backNonempty, quiet]
    rw [evaluateAll_output, evaluateAll_output, evaluateAll_output, List.map_append,
      Output.join_append]

/-- Texts that look like switches or like the separator are expressions, and where two of three
expressions fail, the log ends with that. The third one contributes the same without the log. -/
theorem expressions_are_independent_dashes :
    Request.ofTexts ["-v", "-t", "--", "-h", "--", "1"] =
        .ok (.evaluate ⟨true, true⟩ ["-h", "--", "1"]) ∧
      (run ["-v", "-t", "--", "-h", "--", "1"] "").status = 1 ∧
      Text.lastLine? (run ["-v", "-t", "--", "-h", "--", "1"] "").output.error =
        some ("DEBUG mcalc: " ++ Nat.repr 2 ++ " of " ++ Nat.repr 3 ++ " expressions failed\n") ∧
      (run ["--", "-h", "--", "1"] "").output =
        (run ["--", "-h", "--"] "").output ++ (run ["--", "1"] "").output ∧
      contribution true true "1" = contribution true false "1" := by
  have drawn : ∀ option ∈ ["-v", "-t"], option = "-t" ∨ option = "-v" := by decide
  have failed : failures true ["-h", "--", "1"] = 2 := by decide +kernel
  obtain ⟨asked, gathers, _, _, spares⟩ := expressions_are_independent drawn
  have spared : Log.Spares "1" := .of_guaranteedNesting (by decide +kernel)
  have gathered := gathers ["-h", "--", "1"] "" (by decide)
  have verbose : ["-v", "-t"].contains "-v" = true := by decide
  rw [verbose] at gathered
  have lastLine := gathered.summary rfl (by rw [failed]; decide)
  have status := gathered.status
  rw [failed] at lastLine status
  have noOptions : ∀ option ∈ ([] : List String), option = "-t" ∨ option = "-v" := by decide
  obtain ⟨_, _, append, _⟩ := expressions_are_independent noOptions
  exact ⟨asked ["-h", "--", "1"], status, lastLine,
    append ["-h", "--"] ["1"] "" (by decide) (by decide) (by decide), spares "1" spared⟩

end CommandLine

end Calculator
