import Calculator.Proofs.Independence

/-!
# Sessions

A session answers the lines of its input as if each of them were the only expression of a command
line, whatever becomes of the lines before. Every text has lines in exactly one way, with each line
feed, each carriage return, and each of the two in this order taken for one end. The session ends at
the first empty line or with the input, and what stands behind an empty line has no influence.
-/

namespace Calculator

namespace Text

/-! ## Lines of an input -/

/-- What ends a line. -/
inductive LineEnd where
  | lineFeed
  | carriageReturn
  | both

/-- The characters that end a line. -/
def LineEnd.characters : LineEnd → List Char
  | lineFeed => ['\n']
  | carriageReturn => ['\r']
  | both => ['\r', '\n']

/-- No character ends a line. -/
def IsUnbroken (line : List Char) : Prop := '\n' ∉ line ∧ '\r' ∉ line

/-- The text has these lines. -/
inductive HasCharLines : List Char → List (List Char) → Prop where
  /-- A text without characters has no line. -/
  | nothing : HasCharLines [] []
  /-- Text after the last end is a line. -/
  | unended {line : List Char} (unbroken : IsUnbroken line) (nonempty : line ≠ []) :
    HasCharLines line [line]
  /-- A line has an end, and the text behind it has lines. A carriage return before a line feed is
  no end of its own. -/
  | ended {line rest : List Char} {lines : List (List Char)} (ending : LineEnd)
    (unbroken : IsUnbroken line)
    (whole : ending = .carriageReturn → rest.head? ≠ some '\n')
    (further : HasCharLines rest lines) :
    HasCharLines (line ++ (ending.characters ++ rest)) (line :: lines)

/-- The text has these lines, which are written without their ends. -/
def HasLines (text : String) (lines : List String) : Prop :=
  HasCharLines text.toList (lines.map String.toList)

/-- A character that ends no line, in front of an unbroken line, makes an unbroken line. -/
theorem IsUnbroken.cons {c : Char} {line : List Char} (noFeed : c ≠ '\n') (noReturn : c ≠ '\r')
    (unbroken : IsUnbroken line) : IsUnbroken (c :: line) := by
  constructor
  · simp [Ne.symm noFeed, unbroken.1]
  · simp [Ne.symm noReturn, unbroken.2]

/-- The lines of a line with its end, and of text behind them. -/
theorem charLines_ended {line rest : List Char} (ending : LineEnd) (unbroken : IsUnbroken line)
    (whole : ending = .carriageReturn → rest.head? ≠ some '\n') :
    charLines (line ++ (ending.characters ++ rest)) = line :: charLines rest := by
  induction line with
  | nil =>
    cases ending with
    | lineFeed => simp [LineEnd.characters, charLines]
    | carriageReturn => simp [LineEnd.characters, charLines, whole rfl]
    | both => simp [LineEnd.characters, charLines]
  | cons c others ih =>
    obtain ⟨noFeed, noReturn⟩ := unbroken
    rw [List.mem_cons, not_or] at noFeed noReturn
    rw [List.cons_append, charLines, if_neg (Ne.symm noFeed.1), if_neg (Ne.symm noReturn.1),
      ih ⟨noFeed.2, noReturn.2⟩]

/-- The one line of a text without an end. -/
theorem charLines_unended {line : List Char} (unbroken : IsUnbroken line) (nonempty : line ≠ []) :
    charLines line = [line] := by
  induction line with
  | nil => exact absurd rfl nonempty
  | cons c others ih =>
    obtain ⟨noFeed, noReturn⟩ := unbroken
    rw [List.mem_cons, not_or] at noFeed noReturn
    rw [charLines, if_neg (Ne.symm noFeed.1), if_neg (Ne.symm noReturn.1)]
    by_cases last : others = []
    · rw [last]
      rfl
    · rw [ih ⟨noFeed.2, noReturn.2⟩ last]

namespace HasCharLines

/-- An end that no line stands before is the end of an empty line. -/
theorem empty {rest : List Char} {lines : List (List Char)} (ending : LineEnd)
    (whole : ending = .carriageReturn → rest.head? ≠ some '\n')
    (further : HasCharLines rest lines) :
    HasCharLines (ending.characters ++ rest) ([] :: lines) :=
  .ended ending ⟨List.not_mem_nil, List.not_mem_nil⟩ whole further

/-- A text without lines has no characters. -/
theorem eq_nil {text : List Char} (has : HasCharLines text []) : text = [] := by
  cases has with
  | nothing => rfl

/-- A carriage return in front of a line feed joins the end of the empty line there. -/
theorem carriageReturn {text : List Char} {lines : List (List Char)} (has : HasCharLines text lines)
    (feed : text.head? = some '\n') : HasCharLines ('\r' :: text) lines := by
  cases has with
  | nothing => cases feed
  | unended unbroken => exact absurd (List.mem_of_mem_head? feed) unbroken.1
  | @ended line rest lines ending unbroken whole further =>
    cases line with
    | cons c others =>
      obtain rfl : c = '\n' := Option.some.inj feed
      exact absurd List.mem_cons_self unbroken.1
    | nil =>
      cases ending with
      | lineFeed => exact .ended .both unbroken nofun further
      | carriageReturn => cases feed
      | both => cases feed

/-- A character that ends no line belongs to the first line of the text behind it. -/
theorem cons {c : Char} {text line : List Char} {lines : List (List Char)}
    (has : HasCharLines text (line :: lines)) (noFeed : c ≠ '\n') (noReturn : c ≠ '\r') :
    HasCharLines (c :: text) ((c :: line) :: lines) := by
  cases has with
  | unended unbroken => exact .unended (unbroken.cons noFeed noReturn) (List.cons_ne_nil _ _)
  | ended ending unbroken whole further =>
    exact .ended ending (unbroken.cons noFeed noReturn) whole further

end HasCharLines

/-- Every text has the lines that are found in it. -/
theorem hasCharLines_charLines (text : List Char) : HasCharLines text (charLines text) := by
  induction text with
  | nil => exact .nothing
  | cons c rest ih =>
    rw [charLines]
    split_ifs with feed carriage joined
    · rw [feed]
      exact .empty .lineFeed nofun ih
    · rw [carriage]
      exact ih.carriageReturn joined
    · rw [carriage]
      exact .empty .carriageReturn (fun _ => joined) ih
    · cases found : charLines rest with
      | nil =>
        rw [found] at ih
        rw [ih.eq_nil]
        exact .unended ⟨by simp [Ne.symm feed], by simp [Ne.symm carriage]⟩ (List.cons_ne_nil c [])
      | cons line lines =>
        rw [found] at ih
        exact ih.cons feed carriage

/-- A text has exactly the lines that are found in it. -/
theorem charLines_eq_iff {text : List Char} {lines : List (List Char)} :
    charLines text = lines ↔ HasCharLines text lines := by
  constructor
  · intro found
    rw [← found]
    exact hasCharLines_charLines text
  · intro has
    induction has with
    | nothing => rfl
    | unended unbroken nonempty => exact charLines_unended unbroken nonempty
    | ended ending unbroken whole _ ih => rw [charLines_ended ending unbroken whole, ih]

/-- Every text has the lines that are found in it. -/
theorem hasLines_lines (text : String) : HasLines text (lines text) := by
  have same : (charLines text.toList).map (String.toList ∘ String.ofList) =
      charLines text.toList := by
    simp [Function.comp_def, String.toList_ofList]
  rw [HasLines, lines, List.map_map, same]
  exact hasCharLines_charLines text.toList

/-- The lines of a text are the ones that are found in it. -/
theorem HasLines.lines_eq {text : String} {found : List String} (has : HasLines text found) :
    lines text = found := by
  have same : found.map (String.ofList ∘ String.toList) = found := by
    simp [Function.comp_def, String.ofList_toList]
  rw [lines, charLines_eq_iff.mpr has, List.map_map, same]

/-- An end without a line before it makes an empty line, whatever follows. -/
theorem exists_charLines_end (ending : LineEnd) (text : List Char) :
    ∃ lines, charLines (ending.characters ++ text) = [] :: lines := by
  cases ending with
  | lineFeed => exact ⟨charLines text, by simp [LineEnd.characters, charLines]⟩
  | both => exact ⟨charLines text, by simp [LineEnd.characters, charLines]⟩
  | carriageReturn =>
    by_cases joined : text.head? = some '\n'
    · obtain ⟨rest, rfl⟩ := List.head?_eq_some_iff.mp joined
      exact ⟨charLines rest, by simp [LineEnd.characters, charLines]⟩
    · exact ⟨charLines text, by simp [LineEnd.characters, charLines, joined]⟩

/-- What follows a text that has an empty line has no influence on the lines up to that one. -/
theorem HasCharLines.exists_charLines_append {front : List Char} {lines : List (List Char)}
    (has : HasCharLines front lines) (back : List Char) {before behind : List (List Char)}
    (split : lines = before ++ [] :: behind) :
    ∃ further, charLines (front ++ back) = before ++ [] :: further := by
  induction has generalizing before with
  | nothing => simp at split
  | unended unbroken nonempty =>
    cases before with
    | nil => exact absurd (List.cons.inj split).1 nonempty
    | cons line others => simp at split
  | @ended line rest lines ending unbroken whole further ih =>
    rw [List.append_assoc, List.append_assoc]
    cases before with
    | nil =>
      obtain ⟨rfl, rfl⟩ := List.cons.inj split
      exact exists_charLines_end ending (rest ++ back)
    | cons first others =>
      obtain ⟨rfl, splitBehind⟩ := List.cons.inj split
      obtain ⟨found, eq⟩ := ih splitBehind
      -- The empty line is in the rest, so no line feed behind the front can join this end.
      have someRest : rest ≠ [] := by
        intro none
        have noLine := charLines_eq_iff.mpr further
        rw [none, splitBehind] at noLine
        simp [charLines] at noLine
      have wholeThen : ending = .carriageReturn → (rest ++ back).head? ≠ some '\n' := by
        rw [List.head?_append_of_ne_nil rest someRest]
        exact whole
      exact ⟨found, by rw [charLines_ended ending unbroken wholeThen, eq, List.cons_append]⟩

/-- What follows a text that has an empty line has no influence on the lines up to that one. -/
theorem HasLines.exists_lines_append {front : String} {before behind : List String}
    (has : HasLines front (before ++ "" :: behind)) (back : String) :
    ∃ further, lines (front ++ back) = before ++ "" :: further := by
  have split : (before ++ "" :: behind).map String.toList =
      before.map String.toList ++ [] :: behind.map String.toList := by
    rw [List.map_append, List.map_cons]
    rfl
  obtain ⟨further, found⟩ := HasCharLines.exists_charLines_append has back.toList split
  refine ⟨further.map String.ofList, ?_⟩
  rw [lines, String.toList_append, found]
  simp [Function.comp_def, String.ofList_toList]

end Text

namespace CommandLine

/-! ## Steps of a session -/

/-- A session ends with its input. -/
theorem session_nil (flags : Flags) : session flags [] = prompt := rfl

/-- An empty line ends a session. -/
theorem session_empty (flags : Flags) (lines : List String) :
    session flags ("" :: lines) = prompt := rfl

/-- Any other line is asked for and answered, and the session goes on. -/
theorem session_cons (flags : Flags) {line : String} (nonempty : line ≠ "") (lines : List String) :
    session flags (line :: lines) =
      prompt ++ (reply flags line).output ++ session flags lines := by
  have goesOn : (line != "") = true := bne_iff_ne.mpr nonempty
  simp only [session, List.takeWhile_cons, goesOn, if_true, List.map_cons, Output.join_cons,
    Output.append_assoc]

/-- What a session leaves is put together from what each of its lines leaves on its own. -/
structure Outcome.Answers (outcome : Outcome) (lines : List String) (alone : String → Output) :
    Prop where
  /-- The session ends well. -/
  status : outcome.status = 0
  /-- Every line is asked for, and so is the one that ends the session. -/
  standard : outcome.output.standard =
    String.join (lines.map fun line => "expr: " ++ (alone line).standard) ++ "expr: "
  /-- The messages stand in the order of their lines. -/
  error : outcome.output.error = String.join (lines.map fun line => (alone line).error)

/-- A session without the log answers the lines before the one that ends it. -/
theorem session_answers {tree : Bool} {answered rest : List String} (noEmpty : "" ∉ answered)
    (ends : rest = [] ∨ rest.head? = some "") {alone : String → Output}
    (same : ∀ line ∈ answered, alone line = contribution tree false line) :
    Outcome.Answers ⟨0, session ⟨tree, false⟩ (answered ++ rest)⟩ answered alone := by
  induction answered with
  | nil =>
    have only : session ⟨tree, false⟩ rest = prompt := by
      cases rest with
      | nil => exact session_nil _
      | cons line lines =>
        obtain none | first := ends
        · cases none
        · obtain rfl : line = "" := Option.some.inj first
          exact session_empty _ lines
    refine ⟨rfl, ?_, ?_⟩
    · rw [List.nil_append, only]
      rfl
    · rw [List.nil_append, only]
      rfl
  | cons line others ih =>
    rw [List.mem_cons, not_or] at noEmpty
    have further := ih noEmpty.2 fun other among => same other (List.mem_cons_of_mem _ among)
    have first := same line List.mem_cons_self
    rw [List.cons_append, session_cons _ (Ne.symm noEmpty.1)]
    refine ⟨rfl, ?_, ?_⟩
    · change "expr: " ++ (contribution tree false line).standard ++ (session _ _).standard = _
      rw [further.standard, ← first, List.map_cons, String.join_cons]
      simp only [String.append_assoc]
    · change "" ++ (contribution tree false line).error ++ (session _ _).error = _
      rw [further.error, ← first, List.map_cons, String.join_cons, String.empty_append]

/-- Only the lines before the first empty one have an influence on a session. -/
theorem session_append_empty (flags : Flags) (before behind further : List String) :
    session flags (before ++ "" :: behind) = session flags (before ++ "" :: further) := by
  induction before with
  | nil => rfl
  | cons line others ih =>
    by_cases ends : line = ""
    · rw [ends]
      rfl
    · rw [List.cons_append, List.cons_append, session_cons flags ends, session_cons flags ends, ih]

/-! ## Runs -/

/-- A run that is asked for no expression is a session on the lines of its input. -/
theorem run_session {arguments : List String} {flags : Flags}
    (asked : Request.ofTexts arguments = .ok (.evaluate flags [])) (input : String) :
    run arguments input = ⟨0, session flags (Text.lines input)⟩ := by
  rw [run, asked]

/-- A run on one expression without the log writes what the expression contributes. -/
theorem run_single {arguments : List String} {tree : Bool} {source : String}
    (asked : Request.ofTexts arguments = .ok (.evaluate ⟨tree, false⟩ [source])) (input : String) :
    (run arguments input).output = contribution tree false source := by
  rw [run_of_asked asked (List.cons_ne_nil source []), evaluateAll_output]
  simp [Output.join]

/-- A session and runs on single expressions agree. Letters of switches for the tree ask for the one
or, with the separator and a line behind them, for the other, with the same flags. Every text has
lines, and on any command line that asks for a session without the log, the lines before the first
empty one or the end of the input are answered, in order, each behind its prompt, with exactly what
a run on that line alone writes, on any command line that asks for it with the same flags; after
that stands one more prompt, and the status is zero. What stands behind an empty line has no
influence on the run. -/
theorem session_agrees_with_single_runs :
    (∀ options : List String, (∀ option ∈ options, option = "-t") →
      Request.ofTexts options = .ok (.evaluate ⟨options.contains "-t", false⟩ []) ∧
        ∀ line, Request.ofTexts (options ++ ["--", line]) =
          .ok (.evaluate ⟨options.contains "-t", false⟩ [line])) ∧
    (∀ input, ∃! lines, Text.HasLines input lines) ∧
    ∀ arguments tree, Request.ofTexts arguments = .ok (.evaluate ⟨tree, false⟩ []) →
      (∀ input answered rest, Text.HasLines input (answered ++ rest) → "" ∉ answered →
        (rest = [] ∨ rest.head? = some "") → ∀ (single : String → List String) other,
        (∀ line ∈ answered, Request.ofTexts (single line) =
          .ok (.evaluate ⟨tree, false⟩ [line])) →
        (run arguments input).Answers answered fun line => (run (single line) other).output) ∧
      ∀ front back before behind, Text.HasLines front (before ++ "" :: behind) →
        run arguments (front ++ back) = run arguments front := by
  refine ⟨?options, ?lines, fun arguments tree asked => ⟨?agrees, ?noInfluence⟩⟩
  case options =>
    intro options onlyTree
    have drawn : ∀ option ∈ options, option = "-t" ∨ option = "-v" :=
      fun option among => .inl (onlyTree option among)
    have quiet : options.contains "-v" = false := by
      rw [List.contains_eq_mem, decide_eq_false_iff_not]
      intro among
      exact absurd (onlyTree _ among) (by decide)
    rw [← quiet]
    constructor
    · have nothing : Request.ofTexts [] = .ok (.evaluate ⟨false, false⟩ []) := rfl
      have asked := Request.ofTexts_options drawn nothing
      rw [List.append_nil] at asked
      exact asked
    · intro line
      exact Request.ofTexts_options drawn (Request.ofTexts_separator [line])
  case lines =>
    intro input
    exact ⟨Text.lines input, Text.hasLines_lines input, fun _ has => has.lines_eq.symm⟩
  case agrees =>
    intro input answered rest has noEmpty ends single other askedSingle
    rw [run_session asked, has.lines_eq]
    exact session_answers noEmpty ends fun line among => run_single (askedSingle line among) other
  case noInfluence =>
    intro front back before behind has
    obtain ⟨further, found⟩ := has.exists_lines_append back
    rw [run_session asked, run_session asked, has.lines_eq, found,
      session_append_empty _ before further behind]

/-- A session over lines with three kinds of ends goes on behind an expression that fails, and an
empty line ends it, even where a line feed that follows joins its end. -/
theorem session_agrees_with_single_runs_mixedEnds :
    Request.ofTexts ["-t"] = .ok (.evaluate ⟨true, false⟩ []) ∧
      Text.HasLines "2 3\r\n1\r4\n\n9" (["2 3", "1", "4"] ++ ["", "9"]) ∧
      (run ["-t"] "2 3\r\n1\r4\n\n9").Answers ["2 3", "1", "4"]
        (fun line => (run ["-t", "--", line] "").output) ∧
      Text.HasLines "1\r\r" (["1"] ++ "" :: []) ∧
      run ["-t"] ("1\r\r" ++ "\n2") = run ["-t"] "1\r\r" := by
  obtain ⟨options, _, agree⟩ := session_agrees_with_single_runs
  obtain ⟨asked, askedSingle⟩ := options ["-t"] (by decide)
  obtain ⟨agrees, noInfluence⟩ := agree ["-t"] true asked
  have mixed : Text.HasLines "2 3\r\n1\r4\n\n9" (["2 3", "1", "4"] ++ ["", "9"]) :=
    Text.charLines_eq_iff.mp (by decide +kernel)
  have joined : Text.HasLines "1\r\r" (["1"] ++ "" :: []) :=
    Text.charLines_eq_iff.mp (by decide +kernel)
  exact ⟨asked, mixed, agrees _ _ _ mixed (by decide) (.inr rfl) (fun line => ["-t", "--", line]) ""
    (fun line _ => askedSingle line), joined, noInfluence _ "\n2" _ _ joined⟩

end CommandLine

end Calculator
