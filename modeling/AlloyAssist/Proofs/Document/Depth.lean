import AlloyAssist.Proofs.Document.Closing
import AlloyAssist.Proofs.Document.Preservation

/-!
# Levels and braces

Two counts follow the blocks of a document. Checking adds up all braces of the code lines, and its
sum may well be negative. Laying out looks at the two ends of a line only, never goes below zero,
and does not pass over the lines that open a block comment. They are one count where braces stand
at the ends of code lines only, where the comments that are not passed over hold none, and where no
line closes a block that is not open. `BracesAtEnds` says this of a document. A line of it is put
as deep as the braces above it are nested, and the level that is left at its end is zero exactly if
checking finds nothing wrong with its braces.
-/

namespace AlloyAssist

open Text Check

namespace Text

variable {c : Char} {text : List Char}

/-- A character that a text can only end with occurs once if the text ends with it. -/
theorem count_of_not_mem_dropLast (only : c ∉ text.dropLast) :
    text.count c = if text.getLast? = some c then 1 else 0 := by
  rcases List.eq_nil_or_concat text with rfl | ⟨front, last, rfl⟩
  · rfl
  · rw [List.concat_eq_append, List.dropLast_concat] at only
    rw [List.concat_eq_append, List.count_append, List.count_eq_zero_of_not_mem only,
      List.getLast?_concat, Nat.zero_add, List.count_singleton]
    simp

theorem count_of_not_mem_tail (only : c ∉ text.tail) :
    text.count c = if text.head? = some c then 1 else 0 := by
  cases text with
  | nil => rfl
  | cons first rest =>
      rw [List.tail_cons] at only
      rw [List.count_cons, List.count_eq_zero_of_not_mem only, Nat.zero_add]
      simp

end Text

namespace Check

theorem forall_not_tellsBraces_iff (catalog : Catalog) (lines : List (List Char)) :
    (∀ issue ∈ issues catalog lines, ¬issue.TellsBraces) ↔ braceBalance lines = 0 := by
  constructor
  · intro untold
    exact braceBalance_eq_zero_of_untold fun issue found => not_or.mp (untold issue found)
  · intro even issue found
    rw [issues, even] at found
    rcases List.mem_append.mp found with ofLine | ofBraces
    · exact not_tellsBraces_of_mem_lineIssues ofLine
    · cases ofBraces

end Check

namespace Indentation

/-- Braces stand where laying out looks for them, and none is closed that is not open. -/
structure BracesAtEnds (lines : List (List Char)) : Prop where
  /-- Laying out reads the ends of these lines, checking does not read them at all. -/
  comments : ∀ line ∈ lines, LineKind.classify line = .blockComment → '{' ∉ line ∧ '}' ∉ line
  opening : ∀ line ∈ lines, LineKind.classify line = .code → '{' ∉ (trim line).dropLast
  closing : ∀ line ∈ lines, LineKind.classify line = .code → '}' ∉ (trim line).tail
  /-- A line that steps out of a block is inside one. -/
  inside : ∀ index line, lines[index]? = some line → LineKind.classify line = .code →
    (trim line).head? = some '}' → 1 ≤ braceBalance (lines.take index)

theorem bracesAtEnds_iff {lines : List (List Char)} :
    BracesAtEnds lines ↔
      (∀ line ∈ lines, LineKind.classify line = .blockComment → '{' ∉ line ∧ '}' ∉ line) ∧
      (∀ line ∈ lines, LineKind.classify line = .code →
        '{' ∉ (trim line).dropLast ∧ '}' ∉ (trim line).tail) ∧
      ∀ numbered ∈ lines.zipIdx, LineKind.classify numbered.1 = .code →
        (trim numbered.1).head? = some '}' → 1 ≤ braceBalance (lines.take numbered.2) := by
  constructor
  · intro tidy
    refine ⟨tidy.comments, ?_, ?_⟩
    · intro line listed code
      exact ⟨tidy.opening line listed code, tidy.closing line listed code⟩
    · intro numbered listed
      exact tidy.inside numbered.2 numbered.1 (List.mk_mem_zipIdx_iff_getElem?.mp listed)
  · rintro ⟨comments, ends, inside⟩
    refine ⟨comments, ?_, ?_, ?_⟩
    · intro line listed code
      exact (ends line listed code).1
    · intro line listed code
      exact (ends line listed code).2
    · intro index line here
      exact inside (line, index) (List.mk_mem_zipIdx_iff_getElem?.mpr here)

instance (lines : List (List Char)) : Decidable (BracesAtEnds lines) :=
  decidable_of_iff' _ bracesAtEnds_iff

/-! ## One line -/

/-- The levels that a line steps out by. -/
def stepsOut (line : List Char) : Nat :=
  if (trim line).head? = some '}' then 1 else 0

/-- The levels that the lines below a line step in by. -/
def stepsIn (line : List Char) : Nat :=
  if (trim line).getLast? = some '{' then 1 else 0

variable {line : List Char} {level : Nat}

theorem ownLevel_eq_sub (level : Nat) (line : List Char) :
    ownLevel level line = level - stepsOut line := by
  rw [ownLevel, stepsOut]
  split
  · rfl
  · rfl

theorem nextLevel_of_not_isKept (moved : isKept line = false) (level : Nat) :
    nextLevel level line = ownLevel level line + stepsIn line := by
  rw [nextLevel, moved, if_neg Bool.false_ne_true, stepsIn]
  split
  · rfl
  · rfl

/-- Where a line has its braces at its ends only, its steps tell them all. -/
theorem braceDelta_of_ends (opening : '{' ∉ (trim line).dropLast)
    (closing : '}' ∉ (trim line).tail) :
    Line.braceDelta line = (stepsIn line : Int) - stepsOut line := by
  rw [← Line.braceDelta_trim, Line.braceDelta, count_of_not_mem_dropLast opening,
    count_of_not_mem_tail closing, stepsIn, stepsOut]

theorem steps_of_not_mem (opening : '{' ∉ line) (closing : '}' ∉ line) :
    stepsIn line = 0 ∧ stepsOut line = 0 := by
  constructor
  · apply if_neg
    intro back
    exact opening (mem_of_mem_trim (List.mem_of_getLast? back))
  · apply if_neg
    intro front
    exact closing (mem_of_mem_trim (List.mem_of_head? front))

theorem not_isCode_of_isKept (kept : isKept line = true) : ¬Line.isCode line = true := by
  rw [Line.isCode_eq_true_iff]
  rcases isKept_eq_true_iff.mp kept with kind | kind
  · simp [kind]
  · simp [kind]

theorem kind_of_not_isKept (moved : isKept line = false) :
    LineKind.classify line = .code ∨ LineKind.classify line = .blockComment := by
  rw [isKept] at moved
  cases kind : LineKind.classify line with
  | code => exact .inl rfl
  | blockComment => exact .inr rfl
  | blank => simp [kind] at moved
  | lineComment => simp [kind] at moved

/-! ## All lines -/

namespace BracesAtEnds

variable {lines : List (List Char)} {index : Nat}

theorem braceBalance_singleton (tidy : BracesAtEnds lines) (listed : line ∈ lines)
    (moved : isKept line = false) :
    braceBalance [line] = (stepsIn line : Int) - stepsOut line := by
  rcases kind_of_not_isKept moved with code | comment
  · rw [braceBalance_cons_of_isCode (Line.isCode_eq_true_iff.mpr code), braceBalance_nil,
      Int.add_zero, braceDelta_of_ends (tidy.opening line listed code) (tidy.closing line listed code)]
  · rcases tidy.comments line listed comment with ⟨opening, closing⟩
    rcases steps_of_not_mem opening closing with ⟨noneIn, noneOut⟩
    rw [braceBalance_cons_of_not_isCode (by simp [comment]), noneIn, noneOut]
    rfl

/-- A line that is moved finds the levels that it steps out by, where the level that it starts from
is the depth that the braces above leave. -/
theorem stepsOut_le (tidy : BracesAtEnds lines) (here : lines[index]? = some line)
    (moved : isKept line = false) (deep : (level : Int) = braceBalance (lines.take index)) :
    stepsOut line ≤ level := by
  rcases kind_of_not_isKept moved with code | comment
  · rw [stepsOut]
    split
    next closes =>
      have inside := tidy.inside index line here code closes
      omega
    next stays => exact Nat.zero_le level
  · rcases tidy.comments line (List.mem_of_getElem? here) comment with ⟨opening, closing⟩
    rw [(steps_of_not_mem opening closing).2]
    exact Nat.zero_le level

/-- A line that is moved is put on the depth that the braces above it leave, less its step out. -/
theorem ownLevel_eq (tidy : BracesAtEnds lines) (here : lines[index]? = some line)
    (moved : isKept line = false) (deep : (level : Int) = braceBalance (lines.take index)) :
    (ownLevel level line : Int) = braceBalance (lines.take index) - stepsOut line := by
  have enough := tidy.stepsOut_le here moved deep
  rw [ownLevel_eq_sub, Int.natCast_sub enough, deep]

/-- The step: behind a line the level is again the depth that the braces leave. -/
theorem nextLevel_eq (tidy : BracesAtEnds lines) (here : lines[index]? = some line)
    (deep : (level : Int) = braceBalance (lines.take index)) :
    (nextLevel level line : Int) = braceBalance (lines.take index) + braceBalance [line] := by
  cases kept : isKept line with
  | true =>
      rw [nextLevel, if_pos kept, braceBalance_cons_of_not_isCode (not_isCode_of_isKept kept),
        braceBalance_nil, deep, Int.add_zero]
  | false =>
      have own := tidy.ownLevel_eq here kept deep
      have steps := tidy.braceBalance_singleton (List.mem_of_getElem? here) kept
      rw [nextLevel_of_not_isKept kept, steps]
      omega

/-- The run: the level that lines lead to is the depth that their braces leave. -/
theorem levelAfter_take (tidy : BracesAtEnds lines) (index : Nat) :
    (levelAfter 0 (lines.take index) : Int) = braceBalance (lines.take index) := by
  induction index with
  | zero => rfl
  | succ index ih =>
      rw [List.take_add_one]
      cases here : lines[index]? with
      | none => simpa using ih
      | some line =>
          rw [Option.toList_some, braceBalance_append, ← tidy.nextLevel_eq here ih, levelAfter,
            levelAfter, List.foldl_append, List.foldl_cons, List.foldl_nil]

theorem levelAfter_eq (tidy : BracesAtEnds lines) :
    (levelAfter 0 lines : Int) = braceBalance lines := by
  have whole := tidy.levelAfter_take lines.length
  rwa [List.take_length] at whole

end BracesAtEnds

/-- In a document that has its braces at the ends of its lines, every line that is moved stands
behind two spaces for each brace that the code lines above leave open, less one if it starts with a
closing brace. The level that is left at the end is the brace balance of the document, and it is
zero exactly if nothing is reported of the braces. -/
theorem format_indents_by_brace_depth (catalog : Catalog) (text : String)
    (tidy : BracesAtEnds (Lines.split text.toList).contents) :
    let lines := (Lines.split text.toList).contents
    (∀ index line, lines[index]? = some line →
      ¬(LineKind.classify line = .blank ∨ LineKind.classify line = .lineComment) →
      ∃ level : Nat,
        (level : Int) = braceBalance (lines.take index) - stepsOut line ∧
        (Lines.split (format text).toList).written[index]? =
          some ((Lines.split text.toList).markAt index ++
            (List.replicate (2 * level) ' ' ++ trim line))) ∧
      (levelAfter 0 lines : Int) = braceBalance lines ∧
      (levelAfter 0 lines = 0 ↔
        ∀ issue ∈ (Report.ofText catalog text).issues, ¬issue.TellsBraces) := by
  intro lines
  have deep := tidy.levelAfter_eq
  refine ⟨?_, deep, ?_⟩
  · intro index line here solid
    have moved : isKept line = false := Bool.eq_false_iff.mpr (mt isKept_eq_true_iff.mp solid)
    have own := tidy.ownLevel_eq here moved (tidy.levelAfter_take index)
    refine ⟨ownLevel (levelAfter 0 (lines.take index)) line, own, ?_⟩
    rw [getElem?_written_format here, place_of_not_isKept moved, margin]
  · have untold := forall_not_tellsBraces_iff catalog lines
    rw [← deep, Int.natCast_eq_zero] at untold
    exact untold.symm

/-- A line that closes a block and opens the next one, between comments that do not count. -/
theorem format_indents_by_brace_depth_else :
    let text := "\ufeffa \x7b\n/* b */\n \x7d else \x7b\r\n// \x7d\n\tc\n\x7d"
    let lines := (Lines.split text.toList).contents
    BracesAtEnds lines ∧
      (Lines.split (format text).toList).written[1]? = some "  /* b */".toList ∧
      (Lines.split (format text).toList).written[2]? = some "\x7d else \x7b".toList ∧
      (Lines.split (format text).toList).written[4]? = some "  c".toList ∧
      levelAfter 0 lines = 0 ∧
      ∀ issue ∈ (Report.ofText .builtin text).issues, ¬issue.TellsBraces := by
  intro text lines
  have tidy : BracesAtEnds lines := by decide
  rcases format_indents_by_brace_depth .builtin text tidy with ⟨placed, deep, verdict⟩
  have even : braceBalance lines = 0 := by decide
  have level : levelAfter 0 lines = 0 := Int.natCast_eq_zero.mp (deep.trans even)
  refine ⟨tidy, ?_, ?_, ?_, level, verdict.mp level⟩
  · rcases placed 1 "/* b */".toList (by decide) (by decide) with ⟨own, depth, written⟩
    have inside : own = 1 := Int.natCast_inj.mp (depth.trans (by decide))
    rw [inside] at written
    exact written
  · rcases placed 2 " \x7d else \x7b".toList (by decide) (by decide) with ⟨own, depth, written⟩
    have outside : own = 0 := Int.natCast_inj.mp (depth.trans (by decide))
    rw [outside] at written
    exact written
  · rcases placed 4 "\tc".toList (by decide) (by decide) with ⟨own, depth, written⟩
    have inside : own = 1 := Int.natCast_inj.mp (depth.trans (by decide))
    rw [inside] at written
    exact written

end Indentation

end AlloyAssist
