import AlloyAssist.Proofs.Document.Layout

/-!
# Laying a document out twice

The first pass leaves nothing for a second one to do, unless it moves a byte order mark to
the start of the text. The second pass then reads the mark as the text's own and what
stood behind it as the first line. `Unsettled` says exactly when that makes a difference.
It happens once at most: no mark can move any more when it is the text's own, so a third
pass never changes anything.
-/

namespace AlloyAssist

open Text

namespace Text

theorem ClosedLine.WellFormed.tail {line : ClosedLine} (wellFormed : line.WellFormed) :
    ClosedLine.WellFormed { line with content := line.content.tail } where
  free := fun membership => wellFormed.free (List.mem_of_mem_tail membership)
  ending := by
    intro ending back
    apply wellFormed.ending ending
    cases content : line.content with
    | nil => simp [content] at back
    | cons c rest =>
        rw [content, List.tail_cons] at back
        rw [List.getLast?_cons, back]
        rfl

namespace Lines

/-- The lines that are read where the first one starts with a byte order mark: the mark
is the text's own, and the line goes on behind it. -/
def absorbMark (lines : Lines) : Lines :=
  match lines.closed with
  | [] => { lines with hasMark := true, last := lines.last.tail }
  | line :: closed =>
      { lines with
        hasMark := true
        closed := { line with content := line.content.tail } :: closed }

theorem hasMark_absorbMark (lines : Lines) : lines.absorbMark.hasMark = true := by
  unfold absorbMark
  split <;> rfl

theorem contents_absorbMark (lines : Lines) :
    lines.absorbMark.contents = lines.first.tail :: lines.contents.tail := by
  rcases lines with ⟨hasMark, closed, last⟩
  cases closed <;> rfl

theorem join_absorbMark {lines : Lines} (unmarked : lines.hasMark = false)
    (opened : lines.first.head? = some byteOrderMark) : lines.absorbMark.join = lines.join := by
  rcases lines with ⟨hasMark, closed, last⟩
  cases closed with
  | nil =>
      rcases List.head?_eq_some_iff.mp opened with ⟨rest, rfl⟩
      cases unmarked
      rfl
  | cons line closed =>
      rcases line with ⟨content, ending⟩
      have marked : ∃ rest, content = byteOrderMark :: rest := List.head?_eq_some_iff.mp opened
      rcases marked with ⟨rest, rfl⟩
      cases unmarked
      rfl

theorem wellFormed_absorbMark {lines : Lines}
    (closedFormed : ∀ line ∈ lines.closed, line.WellFormed) (free : '\n' ∉ lines.last) :
    lines.absorbMark.WellFormed := by
  rcases lines with ⟨hasMark, closed, last⟩
  cases closed with
  | nil =>
      exact ⟨closedFormed, fun membership => free (List.mem_of_mem_tail membership),
        fun absent => nomatch absent⟩
  | cons line closed =>
      simp only [List.mem_cons, forall_eq_or_imp] at closedFormed
      refine ⟨?_, free, fun absent => nomatch absent⟩
      simp only [absorbMark, List.mem_cons, forall_eq_or_imp]
      exact ⟨closedFormed.1.tail, closedFormed.2⟩

end Lines

end Text

namespace Indentation

/-! ## Levels that make no difference -/

/-- A line closes the only open block exactly if it starts with a closing brace. -/
theorem ownLevel_one_eq_zero_iff (line : List Char) :
    ownLevel 1 line = 0 ↔ (trim line).head? = some '}' := by
  unfold ownLevel
  split
  next closes => exact ⟨fun _ => closes, fun _ => rfl⟩
  next stays => exact ⟨fun equal => absurd equal Nat.one_ne_zero, fun closes => absurd closes stays⟩

/-- Starting one level deeper makes no difference exactly where the first line that is
moved at all closes the block that would be open. -/
theorem placeLines_zero_eq_one_iff (lines : List (List Char)) :
    placeLines 0 lines = placeLines 1 lines ↔
      ∀ line ∈ lines.find? (fun line => !isKept line), (trim line).head? = some '}' := by
  induction lines with
  | nil => simp [placeLines]
  | cons line lines ih =>
      rw [placeLines, placeLines, List.cons_eq_cons]
      cases kept : isKept line with
      | true =>
          rw [List.find?_cons_of_neg (by simp [kept]), ← ih, place_of_isKept kept,
            place_of_isKept kept]
          simp [nextLevel, kept]
      | false =>
          rw [List.find?_cons_of_pos (by simp [kept]), place_eq_place_iff kept, ownLevel_zero,
            eq_comm, ownLevel_one_eq_zero_iff]
          simp only [Option.mem_def, Option.some.injEq, forall_eq']
          constructor
          · exact And.left
          · intro closes
            have own : ownLevel 0 line = ownLevel 1 line := by
              rw [ownLevel_zero, (ownLevel_one_eq_zero_iff line).mpr closes]
            exact ⟨closes, by rw [nextLevel_congr kept own]⟩

/-! ## A second pass -/

/-- The rest of the first line is still indented when the mark in front of it has gone. -/
def IndentedBehindMark (body : List Char) : Prop :=
  isKept body = false ∧ ∃ c ∈ body.head?, isBlank c = true

/-- The rest of the first line is a comment when the mark in front of it has gone. A brace
at its end no longer opens a block, and the first line below that is moved at all misses
it. -/
def LosesBlock (body : List Char) (below : List (List Char)) : Prop :=
  isKept body = true ∧ body.getLast? = some '{' ∧
    ∃ line ∈ below.find? (fun line => !isKept line), (trim line).head? ≠ some '}'

/-- A byte order mark stands behind the blanks that the text opens with, and what follows
it is laid out otherwise once the mark is the text's own. -/
def Unsettled (lines : Lines) : Prop :=
  lines.hasMark = false ∧ ∃ body, trim lines.first = byteOrderMark :: body ∧
    (IndentedBehindMark body ∨ LosesBlock body lines.contents.tail)

theorem isKept_of_trim_eq_mark {line body : List Char}
    (opened : trim line = byteOrderMark :: body) : isKept line = false := by
  rw [isKept, LineKind.classify, opened]
  rfl

/-- Where no mark is in its place, the first line opens with one behind its indent. -/
theorem exists_body_of_not_markInPlace {lines : Lines} (moves : ¬lines.MarkInPlace) :
    lines.hasMark = false ∧ ∃ body, trim lines.first = byteOrderMark :: body := by
  rcases not_or.mp moves with ⟨unmarked, opened⟩
  rw [not_not, ← head?_trim] at opened
  exact ⟨Bool.eq_false_iff.mpr unmarked, List.head?_eq_some_iff.mp opened⟩

theorem head?_first_layOut_of_trim_eq_mark {lines : Lines} {body : List Char}
    (opened : trim lines.first = byteOrderMark :: body) :
    (layOut lines).first.head? = some byteOrderMark := by
  rw [first_layOut, place_zero_of_not_isKept (isKept_of_trim_eq_mark opened), opened]
  rfl

theorem split_toList_format_of_moved {text : String} {body : List Char}
    (unmarked : (Lines.split text.toList).hasMark = false)
    (opened : trim (Lines.split text.toList).first = byteOrderMark :: body) :
    Lines.split (format text).toList = (layOut (Lines.split text.toList)).absorbMark := by
  have wellFormed := Lines.wellFormed_split text.toList
  have stillUnmarked : (layOut (Lines.split text.toList)).hasMark = false := unmarked
  have moved := head?_first_layOut_of_trim_eq_mark opened
  rw [format, String.toList_ofList, ← Lines.join_absorbMark stillUnmarked moved]
  apply Lines.split_join
  exact Lines.wellFormed_absorbMark (wellFormed_of_mem_placeAll wellFormed.closed 0)
    (lf_not_mem_place wellFormed.last _)

/-- Read again, a text gives the lines that were laid out, or these lines with the mark that
opens the first one set aside. -/
theorem split_toList_format_cases (text : String) :
    ((Lines.split text.toList).MarkInPlace ∧
        Lines.split (format text).toList = layOut (Lines.split text.toList)) ∨
      (layOut (Lines.split text.toList)).hasMark = false ∧
        (layOut (Lines.split text.toList)).first.head? = some byteOrderMark ∧
        Lines.split (format text).toList = (layOut (Lines.split text.toList)).absorbMark := by
  by_cases inPlace : (Lines.split text.toList).MarkInPlace
  · exact .inl ⟨inPlace, split_toList_format inPlace⟩
  · rcases exists_body_of_not_markInPlace inPlace with ⟨unmarked, body, opened⟩
    exact .inr ⟨unmarked, head?_first_layOut_of_trim_eq_mark opened,
      split_toList_format_of_moved unmarked opened⟩

theorem nextLevel_zero_of_trim_eq_mark {line body : List Char}
    (opened : trim line = byteOrderMark :: body) :
    nextLevel 0 line = if body.getLast? = some '{' then 1 else 0 := by
  have brace : (byteOrderMark :: body).getLast? = some '{' ↔ body.getLast? = some '{' := by
    cases body with
    | nil => simp [byteOrderMark]
    | cons c rest => rw [List.getLast?_cons_cons]
  simp [nextLevel, isKept_of_trim_eq_mark opened, opened, brace]

theorem solid_of_getLast?_body {line body : List Char}
    (opened : trim line = byteOrderMark :: body) :
    ∀ c ∈ body.getLast?, isBlank c = false := by
  intro c back
  have lineBack : (trim line).getLast? = some c := by
    rw [opened, List.getLast?_cons, back]
    rfl
  exact solid_of_getLast?_trim lineBack

/-- A comment stays where it is. The lines below it stay too, unless they lose the block
that the comment seemed to open. -/
theorem comment_settles_iff {body : List Char} (kept : isKept body = true)
    (below : List (List Char)) :
    placeLines (nextLevel 0 body) below =
        placeLines (if body.getLast? = some '{' then 1 else 0) below ↔
      ¬LosesBlock body below := by
  have level : nextLevel 0 body = 0 := if_pos kept
  rw [level, LosesBlock]
  by_cases opens : body.getLast? = some '{'
  · rw [if_pos opens, placeLines_zero_eq_one_iff]
    simp only [kept, opens, true_and, not_exists, not_and, not_not]
  · rw [if_neg opens]
    simp only [opens, false_and, and_false, not_false_eq_true]

/-- Any other line steers the levels as it did behind the mark. It stays where it is unless
it is still indented. -/
theorem code_settles_iff {body : List Char} (moved : isKept body = false)
    (solid : ∀ c ∈ body.getLast?, isBlank c = false) :
    place 0 body = body ↔ ¬IndentedBehindMark body := by
  rw [place_zero_of_not_isKept moved, trim_eq_trimStart solid, trimStart_eq_self_iff,
    IndentedBehindMark]
  simp only [moved, true_and, not_exists, not_and, Bool.not_eq_true]

theorem nextLevel_zero_of_solid {body : List Char} (moved : isKept body = false)
    (solid : ∀ c ∈ body.getLast?, isBlank c = false) :
    nextLevel 0 body = if body.getLast? = some '{' then 1 else 0 := by
  have core := trim_ne_nil_of_not_isKept moved
  rw [trim_eq_trimStart solid] at core
  simp [nextLevel, moved, trim_eq_trimStart solid, getLast?_trimStart core]

/-- Whether a second pass leaves alone what the first one made of the first line and of the
lines below it. -/
theorem placeLines_body_iff {line body : List Char} (opened : trim line = byteOrderMark :: body)
    (below : List (List Char)) :
    placeLines 0 (body :: placeLines (nextLevel 0 line) below) =
        body :: placeLines (nextLevel 0 line) below ↔
      ¬(IndentedBehindMark body ∨ LosesBlock body below) := by
  have solid := solid_of_getLast?_body opened
  rw [placeLines, placeLines_placeLines, List.cons_eq_cons, not_or,
    nextLevel_zero_of_trim_eq_mark opened]
  cases kept : isKept body with
  | true =>
      have stays : ¬IndentedBehindMark body := by simp [IndentedBehindMark, kept]
      rw [comment_settles_iff kept]
      simp only [place_of_isKept kept, stays, not_false_eq_true, true_and]
  | false =>
      have keepsBlock : ¬LosesBlock body below := by simp [LosesBlock, kept]
      rw [nextLevel_zero_of_solid kept solid, code_settles_iff kept solid]
      simp only [keepsBlock, not_false_eq_true, and_true]

/-! ## When a second pass changes nothing -/

theorem format_format_of_markInPlace {text : String}
    (inPlace : (Lines.split text.toList).MarkInPlace) : format (format text) = format text := by
  rw [format, split_toList_format inPlace, layOut_layOut, format]

/-- A pass leaves no mark that could still move: one that was going to is the text's own. -/
theorem markInPlace_split_format (text : String) :
    (Lines.split (format text).toList).MarkInPlace := by
  rcases split_toList_format_cases text with ⟨inPlace, equal⟩ | ⟨-, -, equal⟩
  · rw [equal]
    rcases inPlace with marked | other
    · exact .inl marked
    · right
      rw [first_layOut, ← head?_trim, trim_place, head?_trim]
      exact other
  · rw [equal]
    exact .inl (Lines.hasMark_absorbMark _)

theorem format_format_iff_of_moved {text : String} {body : List Char}
    (unmarked : (Lines.split text.toList).hasMark = false)
    (opened : trim (Lines.split text.toList).first = byteOrderMark :: body) :
    format (format text) = format text ↔
      ¬(IndentedBehindMark body ∨ LosesBlock body (Lines.split text.toList).contents.tail) := by
  have reread := split_toList_format_of_moved unmarked opened
  have inPlace := markInPlace_split_format text
  have contents : (layOut (Lines.split text.toList)).absorbMark.contents =
      body :: placeLines (nextLevel 0 (Lines.split text.toList).first)
        (Lines.split text.toList).contents.tail := by
    rw [Lines.contents_absorbMark, first_layOut,
      place_zero_of_not_isKept (isKept_of_trim_eq_mark opened), opened, contents_layOut,
      Lines.contents_eq_cons]
    rfl
  rw [format_eq_self_iff inPlace, reread, layOut_eq_self_iff, contents, placeLines_body_iff opened]

/-- A second pass changes nothing, unless a byte order mark moves to the start of the text
and what stands behind it is still indented or loses the block it seemed to open. -/
theorem format_format_eq_iff (text : String) :
    format (format text) = format text ↔ ¬Unsettled (Lines.split text.toList) := by
  by_cases inPlace : (Lines.split text.toList).MarkInPlace
  · have settled : ¬Unsettled (Lines.split text.toList) := by
      rintro ⟨unmarked, body, opened, -⟩
      have front : (trimStart (Lines.split text.toList).first).head? = some byteOrderMark := by
        rw [← head?_trim, opened]
        rfl
      rcases inPlace with marked | other
      · rw [unmarked] at marked
        cases marked
      · exact other front
    exact iff_of_true (format_format_of_markInPlace inPlace) settled
  · rcases exists_body_of_not_markInPlace inPlace with ⟨unmarked, body, opened⟩
    rw [format_format_iff_of_moved unmarked opened, Unsettled]
    simp only [unmarked, opened, List.cons.injEq, true_and, exists_eq_left']

/-- Blanks, a byte order mark, blanks and a word: the first pass moves the mark, and the
second one the word. -/
theorem format_format_ne :
    format (format " \ufeff  a") ≠ format " \ufeff  a" := by
  decide

/-- The second pass is the last one that can change anything. The first one is, unless a byte
order mark stands behind the blanks that the text opens with. -/
theorem format_settles_on_second_pass (text : String) :
    format (format (format text)) = format (format text) ∧
      (text.toList.head? = some byteOrderMark ∨
          (trimStart (Lines.split text.toList).first).head? ≠ some byteOrderMark →
        format (format text) = format text) := by
  constructor
  · exact format_format_of_markInPlace (markInPlace_split_format text)
  · intro inPlace
    rw [← Lines.hasMark_split] at inPlace
    exact format_format_of_markInPlace inPlace

/-- With a mark that moves, a third pass is too many; with the text's own mark, or with one
further down, a second pass is. -/
theorem format_settles_marks :
    format (format (format " \ufeff  a")) = format (format " \ufeff  a") ∧
      format (format "\ufeff \ufeff  a") = format "\ufeff \ufeff  a" ∧
      format (format "a \x7b\n \ufeff  b") = format "a \x7b\n \ufeff  b" :=
  ⟨(format_settles_on_second_pass _).1, (format_settles_on_second_pass _).2 (.inl (by decide)),
    (format_settles_on_second_pass _).2 (.inr (by decide))⟩

end Indentation

end AlloyAssist
