import Calculator.Proofs.Pieces
import Mathlib.Data.List.Chain

/-!
# The one decomposition of a source

The pieces of a source are its only decomposition into delimiters and longest runs of other
characters: in order they are the source, each of them is one delimiter or a run without delimiters,
and no run stands next to another one. They are also what is left of the fields of the source, which
stand between its delimiters and may be empty, when the empty fields are dropped.
-/

namespace Calculator.Piece

/-- The characters that are pieces by themselves: four blanks, six operators and two parentheses. -/
def delimiters : List Char := ['\t', '\n', '\r', ' ', '#', '+', '-', '*', '/', '^', '(', ')']

/-- The text is a single delimiter. -/
def IsDelimiter (text : String) : Prop := ∃ c ∈ delimiters, text = String.singleton c

/-- The text is a run of characters without delimiters. -/
def IsRun (text : String) : Prop := text ≠ "" ∧ ∀ c ∈ text.toList, c ∉ delimiters

/-- The texts are a decomposition of a source into delimiters and longest runs. -/
structure Decomposes (pieces : List String) (source : String) : Prop where
  /-- Nothing of the source is lost, added or moved. -/
  whole : String.join pieces = source
  /-- Each piece is a delimiter or a run. -/
  each : ∀ piece ∈ pieces, IsDelimiter piece ∨ IsRun piece
  /-- No two runs stand next to each other. -/
  apart : pieces.IsChain fun first second => ¬(IsRun first ∧ IsRun second)

/-- The text is empty or ends with a delimiter. -/
def EndsApart (text : String) : Prop := ∀ c ∈ text.toList.getLast?, c ∈ delimiters

/-- The text is empty or begins with a delimiter. -/
def BeginsApart (text : String) : Prop := ∀ c ∈ text.toList.head?, c ∈ delimiters

/-- The fields of a text: its delimiters, and between them and at both ends what no delimiter
interrupts, which may be nothing. -/
def fields : List Char → List (List Char)
  | [] => [[]]
  | c :: rest =>
    if c ∈ delimiters then [] :: [c] :: fields rest else (fields rest).modifyHead (c :: ·)

/-- The characters that are cut at are the delimiters. -/
theorem isDelimiter_iff (c : Char) : isDelimiter c = true ↔ c ∈ delimiters := by
  constructor
  · intro delimiter
    simp only [isDelimiter, isBlankChar, Bool.or_eq_true, beq_iff_eq, Option.isSome_iff_exists,
      Symbol.ofChar?_eq_some_iff] at delimiter
    obtain (((rfl | rfl) | rfl) | rfl) | ⟨s, rfl⟩ := delimiter
    · decide
    · decide
    · decide
    · decide
    · cases s <;> decide
  · intro among
    simp only [delimiters, List.mem_cons, List.not_mem_nil, or_false] at among
    obtain rfl | rfl | rfl | rfl | rfl | rfl | rfl | rfl | rfl | rfl | rfl | rfl := among <;> rfl

/-- A text may be cut behind a part that ends apart and before a part that begins apart. -/
theorem separates_of_apart {front back : String} (apart : EndsApart front ∨ BeginsApart back) :
    Separates front.toList back.toList := by
  intro last isLast first isFirst
  rw [isDelimiter_iff, isDelimiter_iff]
  exact apart.imp (fun ends => ends last isLast) fun begins => begins first isFirst

/-- A delimiter ends apart. -/
theorem IsDelimiter.endsApart {text : String} (delimiter : IsDelimiter text) : EndsApart text := by
  obtain ⟨c, among, rfl⟩ := delimiter
  intro last isLast
  rw [String.toList_singleton, List.getLast?_singleton, Option.mem_some_iff] at isLast
  rwa [← isLast]

/-- A text that begins with a delimiter begins apart. -/
theorem IsDelimiter.beginsApart {text : String} (delimiter : IsDelimiter text) (rest : String) :
    BeginsApart (text ++ rest) := by
  obtain ⟨c, among, rfl⟩ := delimiter
  intro first isFirst
  rw [String.toList_append, String.toList_singleton, List.singleton_append, List.head?_cons,
    Option.mem_some_iff] at isFirst
  rwa [← isFirst]

/-- A delimiter or a run is one piece. -/
theorem split_piece {piece : String} (isPiece : IsDelimiter piece ∨ IsRun piece) :
    split piece = [piece] := by
  obtain ⟨c, among, rfl⟩ | ⟨nonempty, noDelimiter⟩ := isPiece
  · rw [split, String.toList_singleton, String.singleton_eq_ofList]
    rfl
  · refine split_run (by simpa using nonempty) fun c among => ?_
    rw [Bool.eq_false_iff, ne_eq, isDelimiter_iff]
    exact noDelimiter c among

/-- A piece of a source is a delimiter or a run. -/
theorem each_of_mem_split {source piece : String} (found : piece ∈ split source) :
    IsDelimiter piece ∨ IsRun piece := by
  obtain ⟨text, among, rfl⟩ := List.mem_map.mp found
  obtain ⟨c, delimiter, rfl⟩ | ⟨nonempty, noDelimiter⟩ := delimiter_or_run among
  · exact .inl ⟨c, (isDelimiter_iff c).mp delimiter, String.singleton_eq_ofList.symm⟩
  · refine .inr ⟨by simpa using nonempty, fun c inside delimiter => ?_⟩
    rw [String.toList_ofList] at inside
    rw [← isDelimiter_iff, noDelimiter c inside] at delimiter
    cases delimiter

/-- Of two pieces that stand next to each other one holds a delimiter. -/
theorem isChain_splitChars (text : List Char) :
    (splitChars text).IsChain fun first second =>
      (∃ c ∈ first, isDelimiter c = true) ∨ ∃ c ∈ second, isDelimiter c = true := by
  induction text with
  | nil => exact .nil
  | cons c rest ih =>
    change (cons c (splitChars rest)).IsChain _
    cases pieces : splitChars rest with
    | nil => exact .singleton _
    | cons first others =>
      rw [pieces] at ih
      rw [cons]
      split
      · next apart =>
        refine .cons_cons ?_ ih
        rw [Bool.or_eq_true, Option.any_eq_true] at apart
        obtain delimiter | ⟨d, isFirst, delimiter⟩ := apart
        · exact .inl ⟨c, List.mem_cons_self .., delimiter⟩
        · exact .inr ⟨d, List.mem_of_mem_head? isFirst, delimiter⟩
      · rw [List.isChain_cons] at ih ⊢
        refine ⟨fun second isNext => ?_, ih.2⟩
        obtain ⟨d, among, delimiter⟩ | inSecond := ih.1 second isNext
        · exact .inl ⟨d, List.mem_cons_of_mem c among, delimiter⟩
        · exact .inr inSecond

/-- The pieces of a source are a decomposition of it. -/
theorem decomposes_split (source : String) : Decomposes (split source) source := by
  refine ⟨?_, fun piece => each_of_mem_split, ?_⟩
  · rw [← String.toList_inj, String.toList_join, split, List.flatMap_map]
    simp [List.flatMap_id', flatten_splitChars]
  · rw [split, List.isChain_map]
    refine (isChain_splitChars source.toList).imp fun first second holdsDelimiter both => ?_
    obtain ⟨c, among, delimiter⟩ | ⟨c, among, delimiter⟩ := holdsDelimiter
    · exact both.1.2 c (by simpa using among) ((isDelimiter_iff c).mp delimiter)
    · exact both.2.2 c (by simpa using among) ((isDelimiter_iff c).mp delimiter)

/-- A decomposition of a source is cut into its own pieces. -/
theorem Decomposes.split_eq {pieces : List String} {source : String}
    (decomposes : Decomposes pieces source) : split source = pieces := by
  obtain ⟨rfl, each, apart⟩ := decomposes
  induction pieces with
  | nil => rfl
  | cons piece rest ih =>
    rw [List.forall_mem_cons] at each
    have isApart : EndsApart piece ∨ BeginsApart (String.join rest) := by
      obtain delimiter | isRun := each.1
      · exact .inl delimiter.endsApart
      · right
        cases rest with
        | nil => exact fun c isFirst => absurd isFirst (by simp)
        | cons next others =>
          have notBoth := (List.isChain_cons_cons.mp apart).1
          have next := (each.2 next (List.mem_cons_self ..)).resolve_right
            fun nextIsRun => notBoth ⟨isRun, nextIsRun⟩
          rw [String.join_cons]
          exact next.beginsApart (String.join others)
    rw [String.join_cons, split_append (separates_of_apart isApart), split_piece each.1,
      ih each.2 apart.tail]
    rfl

/-! ## Fields -/

/-- The first field of a text holds no delimiter, and a delimiter follows it unless it is the only
one. -/
theorem exists_fields_eq (text : List Char) :
    ∃ run others, fields text = run :: others ∧ (∀ c ∈ run, isDelimiter c = false) ∧
      (others = [] ∨ ∃ c more, isDelimiter c = true ∧ others = [c] :: more) := by
  induction text with
  | nil => exact ⟨[], [], rfl, by simp, .inl rfl⟩
  | cons c rest ih =>
    by_cases delimiter : c ∈ delimiters
    · exact ⟨[], _, if_pos delimiter, by simp,
        .inr ⟨c, _, (isDelimiter_iff c).mpr delimiter, rfl⟩⟩
    · obtain ⟨run, others, found, noDelimiter, follows⟩ := ih
      refine ⟨c :: run, others, ?_, ?_, follows⟩
      · rw [fields, if_neg delimiter, found, List.modifyHead_cons]
      · rw [List.forall_mem_cons, Bool.eq_false_iff, ne_eq, isDelimiter_iff]
        exact ⟨delimiter, noDelimiter⟩

/-- The pieces of a text are its fields but the empty ones. -/
theorem splitChars_eq_filter_fields (text : List Char) :
    splitChars text = (fields text).filter fun field => !field.isEmpty := by
  induction text with
  | nil => rfl
  | cons c rest ih =>
    change cons c (splitChars rest) = _
    rw [ih, fields]
    split
    · next delimiter =>
      have isDelim := (isDelimiter_iff c).mpr delimiter
      cases pieces : (fields rest).filter fun field => !field.isEmpty with
      | nil => simp [cons, pieces]
      | cons first others => simp [cons, pieces, isDelim]
    · next noDelimiter =>
      rw [← isDelimiter_iff, Bool.not_eq_true] at noDelimiter
      obtain ⟨run, others, found, noneInRun, follows⟩ := exists_fields_eq rest
      rw [found, List.modifyHead_cons]
      cases run with
      | nil =>
        obtain rfl | ⟨d, more, delimiter, rfl⟩ := follows
        · simp [cons]
        · simp [cons, delimiter]
      | cons d run => simp [cons, noDelimiter, noneInRun d (List.mem_cons_self ..)]

/-- The pieces of a source are the one decomposition of it into delimiters, which are the given
twelve characters, and longest runs of other characters. They are its fields without the empty ones.
Where a source may be cut, because a delimiter stands there or nothing does, its pieces are those of
its two parts. -/
theorem split_eq_iff_decomposes :
    (∀ source pieces, split source = pieces ↔ Decomposes pieces source) ∧
    (∀ c, isDelimiter c = true ↔
      c ∈ ['\t', '\n', '\r', ' ', '#', '+', '-', '*', '/', '^', '(', ')']) ∧
    (∀ source, split source =
      ((fields source.toList).filter fun field => !field.isEmpty).map String.ofList) ∧
    ∀ front back, EndsApart front ∨ BeginsApart back →
      split (front ++ back) = split front ++ split back := by
  refine ⟨fun source pieces => ⟨?_, ?_⟩, isDelimiter_iff, fun source => ?_, ?_⟩
  · rintro rfl
    exact decomposes_split source
  · exact Decomposes.split_eq
  · rw [split, splitChars_eq_filter_fields]
  · intro front back apart
    exact split_append (separates_of_apart apart)

/-- The sum `1.5+.5` is two runs with a sign between them, and the sign separates its parts. -/
theorem split_eq_iff_decomposes_sum :
    Decomposes ["1.5", "+", ".5"] "1.5+.5" ∧ EndsApart "1.5+" ∧
      split ("1.5+" ++ ".5") = split "1.5+" ++ split ".5" := by
  obtain ⟨decomposes, _, _, append⟩ := split_eq_iff_decomposes
  have ends : EndsApart "1.5+" := by
    intro last isLast
    have known : "1.5+".toList.getLast? = some '+' := by decide
    rw [known] at isLast
    obtain rfl := Option.mem_some_iff.mp isLast
    decide
  exact ⟨(decomposes _ _).mp (by decide), ends, append _ _ (.inl ends)⟩

end Calculator.Piece
