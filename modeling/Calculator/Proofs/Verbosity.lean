import Calculator.CommandLine.Session
import Calculator.Proofs.Lines
import Calculator.Proofs.Totality

/-!
# Verbose runs

A run with the log and one without it on the same expressions, or on the same input, end with the
same status and write the same values. On the error output the log only adds lines of its own: each
of them has the same start, and no error message is such a line or breaks one. Whether the log is
asked for has no influence on what else a command line means.

There is one exception. To keep the log takes calls, which are then not left for parentheses. An
expression that is nested deeper than is guaranteed may therefore have a value without the log and
be refused with it.
-/

namespace Calculator.CommandLine

/-! ## What the log adds -/

namespace Log

/-- The start of every line of the log. -/
def mark : String := "DEBUG "

/-- The text is one line, with its line feed, and has the start of those of the log. -/
def IsLine (text : String) : Prop :=
  ∃ content, Text.IsOneLine content ∧ mark.toList <+: (content ++ "\n").toList ∧
    text = content ++ "\n"

/-- Without the lines of the log nothing is left of one of them. -/
theorem IsLine.leaves {text : String} (isLine : IsLine text) : Text.Leaves mark text "" := by
  obtain ⟨content, oneLine, starts, rfl⟩ := isLine
  have leaves : Text.Leaves mark (content ++ "\n") _ := .line oneLine
  rw [if_pos (List.isPrefixOf_iff_prefix.mpr starts)] at leaves
  exact leaves

/-- What one part of the program tells on one line is a line of the log. -/
theorem isLine_line {origin message : String} (first : Text.IsOneLine origin)
    (second : Text.IsOneLine message) : IsLine (line origin message) := by
  have colon : Text.IsOneLine ": " := by decide
  have marked : Text.IsOneLine mark := by decide
  refine ⟨mark ++ origin ++ ": " ++ message,
    ((marked.append first).append colon).append second, ?_, rfl⟩
  simp only [String.append_assoc, String.toList_append]
  exact List.prefix_append ..

/-- Nothing is left of what an advance adds to the log. -/
theorem leaves_ofAdvance (entry : Except LexError Token) :
    Text.Leaves mark (ofAdvance entry) "" := by
  have lexer : Text.IsOneLine "maxcalc.frontend.lexer" := by simp [Text.IsOneLine]
  have next : Text.IsOneLine "next token = " := by decide
  have told : ∀ token : Token, Text.Leaves mark
      (line "maxcalc.frontend.lexer" ("next token = " ++ token.entry.pairText)) "" :=
    fun token => (isLine_line lexer (next.append token.isOneLine_pairText)).leaves
  cases entry with
  | error error => exact .empty
  | ok token =>
    cases token with
    | endOfInput => exact (isLine_line lexer (by decide)).leaves
    | number value => exact told (.number value)
    | symbol s => exact told (.symbol s)

/-- Nothing is left of what a lexer adds to the log. -/
theorem leaves_ofLexer (lexer : Lexer) : Text.Leaves mark (ofLexer lexer) "" := by
  have nothing : ∀ entries : List (Except LexError Token),
      String.join (entries.map fun _ => "") = "" := by
    intro entries
    induction entries with
    | nil => rfl
    | cons entry others ih => rw [List.map_cons, String.join_cons, ih, String.empty_append]
  have leaves := Text.Leaves.join leaves_ofAdvance lexer.journal.reverse
  rw [nothing] at leaves
  exact leaves

/-- The line for a source that was parsed is a line of the log. -/
theorem isLine_ofParsed (source : String) : IsLine (ofParsed source) := by
  have parser : Text.IsOneLine "maxcalc.frontend.parser" := by simp [Text.IsOneLine]
  have parsed : Text.IsOneLine "parsed " := by decide
  exact isLine_line parser (parsed.append (Text.isOneLine_quoted source))

/-- The line for expressions that failed is a line of the log. -/
theorem isLine_ofFailures (failures total : Nat) : IsLine (ofFailures failures total) := by
  have number : ∀ count : Nat, Text.IsOneLine count.repr := by
    intro count
    rw [Text.IsOneLine, Nat.toList_repr]
    exact Text.lineFeed_not_mem_toDigits (by decide) (by decide) count
  have between : Text.IsOneLine " of " := by decide
  have failed : Text.IsOneLine " expressions failed" := by simp [Text.IsOneLine]
  have program : Text.IsOneLine "mcalc" := by decide
  exact isLine_line program
    ((((number failures).append between).append (number total)).append failed)

/-- The message for a source that is refused is no line of the log. -/
theorem message_not_marked {limit : Nat} {source : String} {error : SyntaxError}
    (refused : parseWithin limit source = .error error) :
    mark.toList.isPrefixOf (error.message ++ "\n").toList = false := by
  obtain ⟨_, otherStart⟩ := message_of_parseWithin_error refused
  rw [String.toList_append]
  cases found : error.message.toList with
  | nil => rfl
  | cons c rest =>
    rw [found] at otherStart
    have other : c ≠ 'D' := by simpa using otherStart
    simp [mark, List.isPrefixOf, Ne.symm other]

/-- The message for a source that is refused is left as it is. -/
theorem leaves_message {limit : Nat} {source : String} {error : SyntaxError}
    (refused : parseWithin limit source = .error error) :
    Text.Leaves mark (error.message ++ "\n") (error.message ++ "\n") := by
  have leaves : Text.Leaves mark (error.message ++ "\n") _ :=
    .line (message_of_parseWithin_error refused).1
  rw [message_not_marked refused] at leaves
  exact leaves

end Log

/-! ## Replies -/

/-- The reply to a source that is refused is the message for it, behind the log if that is shown. -/
theorem replyWithin_of_refused {limit : Nat} {source : String} {error : SyntaxError}
    (refused : parseWithin limit source = .error error) :
    ∃ lexer, ∀ flags : Flags, replyWithin limit flags source =
      ⟨⟨"", (if flags.verbose then Log.ofLexer lexer else "") ++ error.message ++ "\n"⟩, true⟩ := by
  rw [parseWithin] at refused
  cases ran : Parser.runOn limit source with
  | error found lexer =>
    rw [ran] at refused
    obtain rfl := Except.error.inj refused
    exact ⟨lexer, fun flags => by simp only [replyWithin, ran]⟩
  | ok parsed lexer =>
    rw [ran] at refused
    cases refused

/-- The reply to a source that is parsed is the value of its tree, behind the tree if that is shown,
and the log if that is shown. -/
theorem replyWithin_of_accepted {limit : Nat} {source : String} {parsed : Tree}
    (accepted : parseWithin limit source = .ok parsed) :
    ∃ lexer value, parsed.evaluate = .ok value ∧ ∀ flags : Flags, replyWithin limit flags source =
      ⟨⟨(if flags.tree then parsed.outline else "") ++ value.text ++ "\n",
        if flags.verbose then Log.ofLexer lexer ++ Log.ofParsed source else ""⟩, false⟩ := by
  obtain ⟨value, evaluated, _⟩ := (isExpression_of_parseWithin accepted).exists_evaluate
  rw [parseWithin] at accepted
  cases ran : Parser.runOn limit source with
  | error error lexer =>
    rw [ran] at accepted
    cases accepted
  | ok found lexer =>
    rw [ran] at accepted
    obtain rfl := Except.ok.inj accepted
    exact ⟨lexer, value, evaluated, fun flags => by simp only [replyWithin, ran, evaluated]⟩

/-- Without the log, only what a source is parsed to has an influence on the reply to it. -/
theorem replyWithin_congr {limit other : Nat} {source : String}
    (same : parseWithin limit source = parseWithin other source) (tree : Bool) :
    replyWithin limit ⟨tree, false⟩ source = replyWithin other ⟨tree, false⟩ source := by
  cases outcome : parseWithin limit source with
  | error error =>
    obtain ⟨_, written⟩ := replyWithin_of_refused outcome
    obtain ⟨_, otherWritten⟩ := replyWithin_of_refused (same.symm.trans outcome)
    rw [written, otherWritten]
    rfl
  | ok parsed =>
    obtain ⟨_, value, evaluated, written⟩ := replyWithin_of_accepted outcome
    obtain ⟨_, other, otherEvaluated, otherWritten⟩ :=
      replyWithin_of_accepted (same.symm.trans outcome)
    obtain rfl := Except.ok.inj (evaluated.symm.trans otherEvaluated)
    rw [written, otherWritten]
    rfl

/-- The reply to an expression without the lines of the log, which is kept all the same if it is
asked for. -/
def plainReply (tree verbose : Bool) (source : String) : Reply :=
  replyWithin (Parser.nestingLimit verbose) ⟨tree, false⟩ source

/-- With the log, the reply to an expression only adds lines of the log to the error output. -/
theorem reply_verbose (tree : Bool) (source : String) :
    (reply ⟨tree, true⟩ source).failed = (plainReply tree true source).failed ∧
      (reply ⟨tree, true⟩ source).output.standard =
        (plainReply tree true source).output.standard ∧
      Text.Leaves Log.mark (reply ⟨tree, true⟩ source).output.error
        (plainReply tree true source).output.error := by
  rw [reply, plainReply]
  cases outcome : parseWithin (Parser.nestingLimit true) source with
  | error error =>
    obtain ⟨lexer, written⟩ := replyWithin_of_refused outcome
    rw [written, written]
    refine ⟨rfl, rfl, ?_⟩
    have both := (Log.leaves_ofLexer lexer).append (Log.leaves_message outcome)
    simpa [String.append_assoc] using both
  | ok parsed =>
    obtain ⟨lexer, value, _, written⟩ := replyWithin_of_accepted outcome
    rw [written, written]
    refine ⟨rfl, rfl, ?_⟩
    have both := (Log.leaves_ofLexer lexer).append (Log.isLine_ofParsed source).leaves
    simpa using both

/-- The log leaves a source the nesting that it takes: a scan of it never has more parentheses open
than may be open where the log is kept, or it is refused for its nesting where none is kept. -/
def Log.Spares (source : String) : Prop :=
  (∀ visited ∈ Scan.trailOfSource source, visited.opened ≤ Parser.nestingLimit true) ∨
    parse source = .error (.parse .nestedTooDeeply)

namespace Log.Spares

variable {source : String}

/-- The log spares every source that keeps to the guaranteed nesting. -/
theorem of_guaranteedNesting
    (within : ∀ visited ∈ Scan.trailOfSource source, visited.opened ≤ Parser.guaranteedNesting) :
    Log.Spares source :=
  .inl (Parser.opened_le_nestingLimit within true)

/-- A source that is spared is parsed alike with the log and without. -/
theorem parseWithin_eq (spares : Log.Spares source) :
    parseWithin (Parser.nestingLimit true) source = parse source := by
  obtain within | refused := spares
  · exact Parser.parseWithin_eq_of_within within fun visited among =>
      Nat.le_trans (within visited among) Parser.nestingLimit_logged_le
  · obtain tooDeep | same := Parser.parseWithin_of_le Parser.nestingLimit_logged_le source
    · exact tooDeep.trans refused.symm
    · exact same

/-- The log has no influence on what else is written about a source that is spared. -/
theorem plainReply_eq (spares : Log.Spares source) (tree : Bool) :
    plainReply tree true source = reply ⟨tree, false⟩ source :=
  replyWithin_congr spares.parseWithin_eq tree

end Log.Spares

/-! ## Runs -/

/-- What several outputs leave on the standard output and on the error output. -/
theorem Output.join_verbose (long short : String → Output) (sources : List String)
    (standard : ∀ source, (long source).standard = (short source).standard)
    (error : ∀ source, Text.Leaves Log.mark (long source).error (short source).error) :
    (join (sources.map long)).standard = (join (sources.map short)).standard ∧
      Text.Leaves Log.mark (join (sources.map long)).error (join (sources.map short)).error := by
  simp only [join, List.map_map]
  refine ⟨?_, Text.Leaves.join error sources⟩
  congr 1
  exact List.map_congr_left fun source _ => standard source

/-- Without the log, an evaluation of expressions has the status of the replies and writes them. -/
theorem evaluateAll_plain (tree : Bool) (sources : List String) :
    evaluateAll ⟨tree, false⟩ sources =
      ⟨if (sources.map (reply ⟨tree, false⟩)).countP Reply.failed = 0 then 0 else 1,
        Output.join ((sources.map (reply ⟨tree, false⟩)).map Reply.output)⟩ := by
  rw [evaluateAll, Outcome.mk.injEq]
  refine ⟨rfl, ?_⟩
  change Output.mk (_ ++ "") (_ ++ "") = _
  rw [String.append_empty, String.append_empty]

/-- An evaluation of one expression fails if the reply does, and writes it. -/
theorem evaluateAll_single (flags : Flags) (source : String) :
    (evaluateAll flags [source]).status = (if (reply flags source).failed then 1 else 0) ∧
      (evaluateAll flags [source]).output.standard = (reply flags source).output.standard := by
  constructor
  · cases failed : (reply flags source).failed <;> simp [evaluateAll, failed]
  · change String.join [(reply flags source).output.standard] ++ "" = _
    rw [String.append_empty, String.join_cons]
    exact String.append_empty

/-- With the log, an evaluation of expressions has the status of the plain replies, writes them to
the standard output, and only adds lines of the log to the error output. -/
theorem evaluateAll_verbose (tree : Bool) (sources : List String) :
    (evaluateAll ⟨tree, true⟩ sources).status =
        (if (sources.map (plainReply tree true)).countP Reply.failed = 0 then 0 else 1) ∧
      (evaluateAll ⟨tree, true⟩ sources).output.standard =
        (Output.join ((sources.map (plainReply tree true)).map Reply.output)).standard ∧
      Text.Leaves Log.mark (evaluateAll ⟨tree, true⟩ sources).output.error
        (Output.join ((sources.map (plainReply tree true)).map Reply.output)).error := by
  have sameFailures : Reply.failed ∘ reply ⟨tree, true⟩ = Reply.failed ∘ plainReply tree true :=
    funext fun source => (reply_verbose tree source).1
  obtain ⟨standard, error⟩ := Output.join_verbose (Reply.output ∘ reply ⟨tree, true⟩)
    (Reply.output ∘ plainReply tree true) sources (fun source => (reply_verbose tree source).2.1)
    fun source => (reply_verbose tree source).2.2
  have summary : ∀ failures, Text.Leaves Log.mark
      (if failures != 0 then Log.ofFailures failures sources.length else "") "" := by
    intro failures
    split
    · exact (Log.isLine_ofFailures failures sources.length).leaves
    · exact .empty
  have whole := error.append (summary (sources.countP (Reply.failed ∘ plainReply tree true)))
  rw [String.append_empty] at whole
  simp only [evaluateAll, List.map_map, List.countP_map, sameFailures, Bool.true_and]
  exact ⟨trivial, (String.append_empty).trans standard, whole⟩

/-- With the log, a session writes the plain replies to its lines to the standard output, and it
only adds lines of the log to the error output. -/
theorem session_verbose (tree : Bool) (lines : List String) :
    (session ⟨tree, true⟩ lines).standard =
        (Output.join ((lines.takeWhile (· != "")).map fun line =>
          prompt ++ (plainReply tree true line).output) ++ prompt).standard ∧
      Text.Leaves Log.mark (session ⟨tree, true⟩ lines).error
        (Output.join ((lines.takeWhile (· != "")).map fun line =>
          prompt ++ (plainReply tree true line).output) ++ prompt).error := by
  obtain ⟨standard, error⟩ := Output.join_verbose
    (fun line => prompt ++ (reply ⟨tree, true⟩ line).output)
    (fun line => prompt ++ (plainReply tree true line).output) (lines.takeWhile (· != ""))
    (fun line => congrArg (prompt.standard ++ ·) (reply_verbose tree line).2.1)
    fun line => Text.Leaves.empty.append (reply_verbose tree line).2.2
  exact ⟨congrArg (· ++ prompt.standard) standard, error.append .empty⟩

/-! ## Command lines -/

/-- The request with a switch turned on as well. -/
def Request.turnOn (switch : Switch) : Request → Request
  | help => help
  | evaluate flags sources => evaluate (flags.turnOn switch) sources

namespace Flags

/-- It does not matter which of two switches is turned on first. -/
theorem turnOn_comm (flags : Flags) (first second : Switch) :
    (flags.turnOn first).turnOn second = (flags.turnOn second).turnOn first := by
  cases first <;> cases second <;> rfl

/-- A switch may be turned on before some others or after them. -/
theorem foldl_turnOn (switch : Switch) (switches : List Switch) (flags : Flags) :
    switches.foldl turnOn (flags.turnOn switch) = (switches.foldl turnOn flags).turnOn switch := by
  induction switches generalizing flags with
  | nil => rfl
  | cons other others ih => rw [List.foldl_cons, turnOn_comm, ih, List.foldl_cons]

end Flags

namespace Request

/-- What has been read, with a switch turned on as well. -/
def Reading.turnOn (switch : Switch) (reading : Reading) : Reading :=
  { reading with flags := reading.flags.turnOn switch }

/-- What belongs to the group of expressions does not depend on a switch. -/
theorem Reading.member_turnOn (switch : Switch) (reading : Reading) (text : String)
    (expressions : List String) :
    (reading.turnOn switch).member text expressions =
      (reading.member text expressions).turnOn switch := by
  obtain ⟨flags, front, closed, unrecognized⟩ := reading
  cases closed <;> rfl

/-- A switch that is on before the arguments are read is on in what they ask for, and it changes
nothing else. -/
theorem ofArguments_turnOn (switch : Switch) (arguments : List Argument) (reading : Reading) :
    ofArguments (reading.turnOn switch) arguments =
      (ofArguments reading arguments).map (turnOn switch) := by
  induction arguments generalizing reading with
  | nil =>
    obtain ⟨flags, front, closed, unrecognized⟩ := reading
    cases unrecognized <;> rfl
  | cons argument others ih =>
    cases argument with
    | expression text =>
      rw [ofArguments, ofArguments, Reading.member_turnOn]
      exact ih (reading.member text [text])
    | separator =>
      rw [ofArguments, ofArguments, Reading.member_turnOn]
      exact ih (reading.member "--" [])
    | unknown text => exact ih { reading.close with unrecognized := reading.unrecognized ++ [text] }
    | switches outcome =>
      cases outcome with
      | error error => rfl
      | ok switches =>
        simp only [ofArguments, Reading.turnOn, Flags.foldl_turnOn]
        split
        · rfl
        · exact ih { reading.close with flags := switches.foldl Flags.turnOn reading.flags }

/-- A switch that is written by its letter in front of a command line is on in what it asks for,
and changes nothing else. -/
theorem ofTexts_switch (switch : Switch) (notHelp : switch ≠ .help) (texts : List String) :
    ofTexts (("-" ++ String.singleton switch.letter) :: texts) =
      (ofTexts texts).map (turnOn switch) := by
  have meaning : Argument.ofTexts (("-" ++ String.singleton switch.letter) :: texts) =
      (Argument.ofTexts texts).map (Argument.switches (.ok [switch]) :: ·) := by
    cases switch with
    | help => exact absurd rfl notHelp
    | _ => cases found : Argument.ofTexts texts <;> (rw [Argument.ofTexts, found]; rfl)
  have noHelp : [switch].contains .help = false := by
    cases switch with
    | help => exact absurd rfl notHelp
    | _ => rfl
  cases found : Argument.ofTexts texts with
  | error error =>
    rw [ofTexts, ofTexts, meaning, found]
    rfl
  | ok arguments =>
    rw [ofTexts, ofTexts, meaning, found]
    change ofArguments .empty (.switches (.ok [switch]) :: arguments) = _
    simp only [ofArguments, noHelp]
    exact ofArguments_turnOn switch arguments .empty

/-- Expressions that are read one after the other belong to the group as long as it is open. -/
theorem ofArguments_expressions (flags : Flags) (front sources : List String) :
    ofArguments ⟨flags, front, false, []⟩ (sources.map Argument.expression) =
      .ok (evaluate flags (front ++ sources)) := by
  induction sources generalizing front with
  | nil => simp [ofArguments]
  | cons source others ih =>
    have further := ih (front ++ [source])
    rw [List.append_assoc] at further
    exact further

/-- Behind the separator every text is an expression. -/
theorem ofTexts_separator (sources : List String) :
    ofTexts ("--" :: sources) = .ok (evaluate ⟨false, false⟩ sources) := by
  rw [ofTexts, Argument.ofTexts, if_pos rfl]
  exact ofArguments_expressions ⟨false, false⟩ [] sources

/-- Some command line asks for the expressions, with their trees or without, and not for the log. -/
theorem exists_ofTexts (tree : Bool) (sources : List String) :
    ∃ arguments, ofTexts arguments = .ok (evaluate ⟨tree, false⟩ sources) := by
  cases tree with
  | false => exact ⟨_, ofTexts_separator sources⟩
  | true =>
    have asked := ofTexts_switch .tree (by decide) ("--" :: sources)
    rw [ofTexts_separator] at asked
    exact ⟨_, asked⟩

/-- One letter in front of a command line asks for the log as well. -/
theorem ofTexts_verbose {arguments sources : List String} {tree : Bool}
    (asked : ofTexts arguments = .ok (evaluate ⟨tree, false⟩ sources)) :
    ofTexts ("-v" :: arguments) = .ok (evaluate ⟨tree, true⟩ sources) := by
  have letter : "-" ++ String.singleton Switch.verbose.letter = "-v" := by decide
  have verbose := ofTexts_switch .verbose (by decide) arguments
  rw [letter, asked] at verbose
  exact verbose

end Request

/-- A run that is asked to evaluate expressions does so, whatever its input. -/
theorem run_of_asked {arguments sources : List String} {flags : Flags}
    (asked : Request.ofTexts arguments = .ok (.evaluate flags sources)) (nonempty : sources ≠ [])
    (input : String) : run arguments input = evaluateAll flags sources := by
  rw [run, asked]
  cases sources with
  | nil => exact absurd rfl nonempty
  | cons source others => rfl

/-- The expressions that a run evaluates: those that it is asked for, or, without any, the lines of
the input in front of the first empty one. -/
def evaluated (sources : List String) (input : String) : List String :=
  if sources.isEmpty then (Text.lines input).takeWhile (· != "") else sources

/-- With the log, a run on expressions that are spared ends with the same status, writes the same to
the standard output, and only adds lines of the log to the error output. -/
theorem run_verbose {arguments verbose sources : List String} {tree : Bool} {input : String}
    (asked : Request.ofTexts arguments = .ok (.evaluate ⟨tree, false⟩ sources))
    (askedVerbose : Request.ofTexts verbose = .ok (.evaluate ⟨tree, true⟩ sources))
    (spared : ∀ source ∈ evaluated sources input, Log.Spares source) :
    (run verbose input).status = (run arguments input).status ∧
      (run verbose input).output.standard = (run arguments input).output.standard ∧
      Text.Leaves Log.mark (run verbose input).output.error (run arguments input).output.error := by
  have plain : ∀ source ∈ evaluated sources input,
      plainReply tree true source = reply ⟨tree, false⟩ source :=
    fun source among => (spared source among).plainReply_eq tree
  cases sources with
  | nil =>
    rw [run, run, asked, askedVerbose]
    have same : ((Text.lines input).takeWhile (· != "")).map (fun line =>
        prompt ++ (plainReply tree true line).output) =
          ((Text.lines input).takeWhile (· != "")).map fun line =>
            prompt ++ (reply ⟨tree, false⟩ line).output :=
      List.map_congr_left fun line among => by rw [plain line among]
    have lines := session_verbose tree (Text.lines input)
    rw [same] at lines
    exact ⟨rfl, lines⟩
  | cons source others =>
    have same : (source :: others).map (plainReply tree true) =
        (source :: others).map (reply ⟨tree, false⟩) := List.map_congr_left plain
    have replies := evaluateAll_verbose tree (source :: others)
    have nonempty := List.cons_ne_nil source others
    rw [same] at replies
    rw [run_of_asked asked nonempty, run_of_asked askedVerbose nonempty, evaluateAll_plain]
    exact replies

/-- For every list of expressions, and without any for a session, there are command lines with and
without the log, and one letter turns it on. On any two such command lines a run ends with the same
status and writes the same to the standard output, and the error output with the log is the one
without it once the lines that start like those of the log are deleted, provided that the log spares
what is evaluated. It spares every expression that keeps to the guaranteed nesting and every one
that reaches the refused nesting. An error message, whatever stands in the source, is one line and
does not start like a line of the log. -/
theorem verbose_run_adds_log_lines :
    (∀ tree sources, ∃ arguments,
      Request.ofTexts arguments = .ok (.evaluate ⟨tree, false⟩ sources)) ∧
    (∀ arguments tree sources,
      Request.ofTexts arguments = .ok (.evaluate ⟨tree, false⟩ sources) →
      Request.ofTexts ("-v" :: arguments) = .ok (.evaluate ⟨tree, true⟩ sources)) ∧
    (∀ arguments verbose tree sources input,
      Request.ofTexts arguments = .ok (.evaluate ⟨tree, false⟩ sources) →
      Request.ofTexts verbose = .ok (.evaluate ⟨tree, true⟩ sources) →
      (∀ source ∈ evaluated sources input, Log.Spares source) →
      (run verbose input).status = (run arguments input).status ∧
        (run verbose input).output.standard = (run arguments input).output.standard ∧
        Text.deleteLines "DEBUG " (run verbose input).output.error =
          (run arguments input).output.error) ∧
    (∀ source,
      (∀ visited ∈ Scan.trailOfSource source, visited.opened ≤ Parser.guaranteedNesting) ∨
        (∃ visited ∈ Scan.trailOfSource source, Parser.refusedNesting ≤ visited.opened) →
      Log.Spares source) ∧
    ∀ limit source error, parseWithin limit source = .error error →
      Text.feedLines (error.message ++ "\n").toList = [(error.message ++ "\n").toList] ∧
        Text.isEndedLineFrom "DEBUG ".toList (error.message ++ "\n").toList = false := by
  refine ⟨Request.exists_ofTexts, fun _ _ _ => Request.ofTexts_verbose, ?same, ?spared, ?messages⟩
  case same =>
    intro arguments verbose tree sources input asked askedVerbose spared
    obtain ⟨status, standard, error⟩ := run_verbose asked askedVerbose spared
    exact ⟨status, standard, error.left⟩
  case spared =>
    rintro source (within | deep)
    · exact .of_guaranteedNesting within
    · exact .inr (Parser.parse_of_refusedNesting deep)
  case messages =>
    intro limit source error refused
    have ended : (error.message ++ "\n").toList = error.message.toList ++ ['\n'] :=
      String.toList_append
    have notMarked : "DEBUG ".toList.isPrefixOf (error.message ++ "\n").toList = false :=
      Log.message_not_marked refused
    constructor
    · rw [ended]
      exact Text.feedLines_line (message_of_parseWithin_error refused).1
    · rw [Text.isEndedLineFrom, notMarked, Bool.false_and]

/-- A piece that names the start of a log line is left in its message, in one run and in a
session. -/
theorem verbose_run_adds_log_lines_illegal :
    Request.ofTexts ["DEBUG 1", "2"] = .ok (.evaluate ⟨false, false⟩ ["DEBUG 1", "2"]) ∧
      Text.deleteLines "DEBUG " (run ["-v", "DEBUG 1", "2"] "").output.error =
        (run ["DEBUG 1", "2"] "").output.error ∧
      (run ["-v"] "DEBUG 1").output.standard = (run [] "DEBUG 1").output.standard ∧
      parse "DEBUG 1" = .error (.lex (.illegalCharacter "DEBUG")) ∧
      Text.isEndedLineFrom "DEBUG ".toList
        ((SyntaxError.lex (.illegalCharacter "DEBUG")).message ++ "\n").toList = false := by
  have asked : Request.ofTexts ["DEBUG 1", "2"] =
      .ok (.evaluate ⟨false, false⟩ ["DEBUG 1", "2"]) := by decide +kernel
  have session : Request.ofTexts [] = .ok (.evaluate ⟨false, false⟩ []) := by decide +kernel
  have refused : parse "DEBUG 1" = .error (.lex (.illegalCharacter "DEBUG")) := by decide +kernel
  have flat : ∀ source ∈ ["DEBUG 1", "2"], ∀ visited ∈ Scan.trailOfSource source,
      visited.opened ≤ Parser.guaranteedNesting := by decide +kernel
  have lines : evaluated [] "DEBUG 1" = ["DEBUG 1"] := by decide +kernel
  obtain ⟨_, turnedOn, same, spares, messages⟩ := verbose_run_adds_log_lines
  have spared : ∀ source ∈ ["DEBUG 1", "2"], Log.Spares source :=
    fun source among => spares source (.inl (flat source among))
  have sparedLines : ∀ source ∈ evaluated [] "DEBUG 1", Log.Spares source := by
    rw [lines]
    exact fun source among => spared source (List.mem_append_left ["2"] among)
  exact ⟨asked, (same _ _ _ _ "" asked (turnedOn _ _ _ asked) spared).2.2,
    (same _ _ _ _ "DEBUG 1" session (turnedOn _ _ _ session) sparedLines).2.1, refused,
    (messages _ _ _ refused).2⟩

/-- Inside 195 parentheses the number one is evaluated without the log and refused with it. -/
theorem verbose_run_may_refuse :
    Request.ofTexts ["--", Text.enclosed^[195] "1"] =
        .ok (.evaluate ⟨false, false⟩ [Text.enclosed^[195] "1"]) ∧
      Request.ofTexts ["-v", "--", Text.enclosed^[195] "1"] =
        .ok (.evaluate ⟨false, true⟩ [Text.enclosed^[195] "1"]) ∧
      (run ["--", Text.enclosed^[195] "1"] "").status = 0 ∧
      (run ["--", Text.enclosed^[195] "1"] "").output.standard = "1.0\n" ∧
      (run ["-v", "--", Text.enclosed^[195] "1"] "").status = 1 ∧
      (run ["-v", "--", Text.enclosed^[195] "1"] "").output.standard = "" := by
  have isOne : Token.ofPiece "1" = .ok (.number .one) := by decide +kernel
  have expression : Phrase .maxima "1" (.leaf Double.one.text) :=
    (Phrase.literal isOne).loosen (by decide)
  have flat : Text.NestsWithin 0 "1" := by decide
  have parsed := Parser.parseWithin_iterate_enclosed expression flat
  generalize isSource : Text.enclosed^[195] "1" = source
  have accepted : parse source = .ok (.leaf Double.one.text) := by
    rw [parse, ← isSource, parsed, if_pos (by decide)]
  have refused : parseWithin (Parser.nestingLimit true) source =
      .error (.parse .nestedTooDeeply) := by
    rw [← isSource, parsed, if_neg (by decide)]
  have evaluatesTo : (Tree.leaf Double.one.text).evaluate = .ok .one := by decide +kernel
  have isText : Double.one.text = "1.0" := by decide +kernel
  have asked := Request.ofTexts_separator [source]
  have askedVerbose := Request.ofTexts_verbose asked
  have plain : reply ⟨false, false⟩ source = ⟨⟨"1.0\n", ""⟩, false⟩ := by
    obtain ⟨_, value, evaluated, written⟩ := replyWithin_of_accepted accepted
    obtain rfl := Except.ok.inj (evaluatesTo.symm.trans evaluated)
    rw [reply, written, isText]
    rfl
  obtain ⟨lexer, written⟩ := replyWithin_of_refused refused
  have logged := written ⟨false, true⟩
  have one := List.cons_ne_nil source []
  refine ⟨asked, askedVerbose, ?_⟩
  rw [run_of_asked asked one, run_of_asked askedVerbose one]
  obtain ⟨status, standard⟩ := evaluateAll_single ⟨false, false⟩ source
  obtain ⟨statusVerbose, standardVerbose⟩ := evaluateAll_single ⟨false, true⟩ source
  rw [status, standard, statusVerbose, standardVerbose, plain, reply, logged]
  exact ⟨rfl, rfl, rfl, rfl⟩

end Calculator.CommandLine
