import AlloyAssist.Document.Indentation
import AlloyAssist.Proofs.Document.Cores
import AlloyAssist.Proofs.Text.Splitting

/-!
# Laying a document out

Laying out moves lines and does nothing else: every line keeps its core and its ending,
so levels computed from the result are the levels computed from the original, and a
second pass over the lines puts them where they already are.

Written as a text and read again, the lines that were laid out come back unchanged, with
one exception. A byte order mark that only blanks keep from the start of the text moves
to the start, where it is no longer part of a line. `Lines.MarkInPlace` excludes it.
-/

namespace AlloyAssist

open Text

namespace Text.Lines

/-- The byte order mark that opens the text is the only one that could: none moves there
when the blanks in front of the first line go. -/
def MarkInPlace (lines : Lines) : Prop :=
  lines.hasMark = true ∨ (trimStart lines.first).head? ≠ some byteOrderMark

end Text.Lines

namespace Indentation

/-! ## One line -/

@[simp] theorem isKept_trim (line : List Char) : isKept (trim line) = isKept line := by
  simp only [isKept, LineKind.classify_trim]

@[simp] theorem ownLevel_trim (level : Nat) (line : List Char) :
    ownLevel level (trim line) = ownLevel level line := by
  simp only [ownLevel, trim_trim]

@[simp] theorem nextLevel_trim (level : Nat) (line : List Char) :
    nextLevel level (trim line) = nextLevel level line := by
  simp only [nextLevel, isKept_trim, ownLevel_trim, trim_trim]

theorem place_of_isKept {line : List Char} (kept : isKept line = true) (level : Nat) :
    place level line = line :=
  if_pos kept

theorem place_of_not_isKept {line : List Char} (moved : isKept line = false) (level : Nat) :
    place level line = margin (ownLevel level line) ++ trim line :=
  if_neg (by rw [moved]; exact Bool.false_ne_true)

/-- A line keeps its core wherever it is put. -/
@[simp] theorem trim_place (level : Nat) (line : List Char) :
    trim (place level line) = trim line := by
  cases kept : isKept line with
  | true => rw [place_of_isKept kept]
  | false =>
      have framed := trim_append_append
        (allBlank_replicate_space (2 * ownLevel level line)) allBlank_nil (trim line)
      rw [List.append_nil, trim_trim] at framed
      rw [place_of_not_isKept kept, margin, framed]

@[simp] theorem isKept_place (level : Nat) (line : List Char) :
    isKept (place level line) = isKept line := by
  rw [← isKept_trim, trim_place, isKept_trim]

@[simp] theorem ownLevel_place (level other : Nat) (line : List Char) :
    ownLevel level (place other line) = ownLevel level line := by
  rw [← ownLevel_trim, trim_place, ownLevel_trim]

@[simp] theorem nextLevel_place (level other : Nat) (line : List Char) :
    nextLevel level (place other line) = nextLevel level line := by
  rw [← nextLevel_trim, trim_place, nextLevel_trim]

@[simp] theorem place_place (level other : Nat) (line : List Char) :
    place level (place other line) = place level line := by
  cases kept : isKept line with
  | true => rw [place_of_isKept kept]
  | false =>
      rw [place_of_not_isKept (by rw [isKept_place, kept]), ownLevel_place, trim_place,
        place_of_not_isKept kept]

@[simp] theorem ownLevel_zero (line : List Char) : ownLevel 0 line = 0 := by
  unfold ownLevel
  split <;> rfl

theorem place_zero_of_not_isKept {line : List Char} (moved : isKept line = false) :
    place 0 line = trim line := by
  rw [place_of_not_isKept moved, ownLevel_zero]
  rfl

/-- A line that is moved shows the level it is put on. -/
theorem place_eq_place_iff {line : List Char} (moved : isKept line = false) (level other : Nat) :
    place level line = place other line ↔ ownLevel level line = ownLevel other line := by
  rw [place_of_not_isKept moved, place_of_not_isKept moved, List.append_cancel_right_eq]
  constructor
  · intro equal
    have length := congrArg List.length equal
    simp only [margin, List.length_replicate] at length
    omega
  · intro equal
    rw [equal]

/-- The lines below start from a level that the line's own level decides. -/
theorem nextLevel_congr {line : List Char} (moved : isKept line = false) {level other : Nat}
    (own : ownLevel level line = ownLevel other line) :
    nextLevel level line = nextLevel other line := by
  simp only [nextLevel, moved, own, Bool.false_eq_true, if_false]

theorem trim_ne_nil_of_not_isKept {line : List Char} (moved : isKept line = false) :
    trim line ≠ [] := by
  intro blank
  simp [isKept, LineKind.classify, blank] at moved

theorem lf_not_mem_place {line : List Char} (free : '\n' ∉ line) (level : Nat) :
    '\n' ∉ place level line := by
  cases kept : isKept line with
  | true => rwa [place_of_isKept kept]
  | false =>
      rw [place_of_not_isKept kept, margin, List.mem_append, not_or]
      constructor
      · intro membership
        cases List.eq_of_mem_replicate membership
      · intro membership
        exact free (mem_of_mem_trim membership)

/-- Putting a line somewhere brings no carriage return to its end. -/
theorem getLast?_place_ne_return {line : List Char} (ending : line.getLast? ≠ some '\r')
    (level : Nat) : (place level line).getLast? ≠ some '\r' := by
  cases kept : isKept line with
  | true => rwa [place_of_isKept kept]
  | false =>
      rw [place_of_not_isKept kept, List.getLast?_append_of_ne_nil _ (trim_ne_nil_of_not_isKept kept)]
      intro back
      cases solid_of_getLast?_trim back

/-! ## Consecutive lines -/

/-- Put consecutive lines on their levels, endings aside. -/
def placeLines (level : Nat) : List (List Char) → List (List Char)
  | [] => []
  | line :: lines => place level line :: placeLines (nextLevel level line) lines

theorem placeLines_append (level : Nat) (front back : List (List Char)) :
    placeLines level (front ++ back) =
      placeLines level front ++ placeLines (levelAfter level front) back := by
  induction front generalizing level with
  | nil => rfl
  | cons line front ih => simp only [List.cons_append, placeLines, ih, levelAfter, List.foldl_cons]

theorem placeLines_placeLines (level other : Nat) (lines : List (List Char)) :
    placeLines level (placeLines other lines) = placeLines level lines := by
  induction lines generalizing level other with
  | nil => rfl
  | cons line lines ih => simp only [placeLines, place_place, nextLevel_place, ih]

theorem map_trim_placeLines (level : Nat) (lines : List (List Char)) :
    (placeLines level lines).map trim = lines.map trim := by
  induction lines generalizing level with
  | nil => rfl
  | cons line lines ih => simp only [placeLines, List.map_cons, trim_place, ih]

theorem map_content_placeAll (level : Nat) (lines : List ClosedLine) :
    (placeAll level lines).map ClosedLine.content =
      placeLines level (lines.map ClosedLine.content) := by
  induction lines generalizing level with
  | nil => rfl
  | cons line lines ih => simp only [placeAll, placeLines, List.map_cons, ih]

theorem map_ending_placeAll (level : Nat) (lines : List ClosedLine) :
    (placeAll level lines).map ClosedLine.ending = lines.map ClosedLine.ending := by
  induction lines generalizing level with
  | nil => rfl
  | cons line lines ih => simp only [placeAll, List.map_cons, ih]

theorem wellFormed_of_mem_placeAll {lines : List ClosedLine}
    (wellFormed : ∀ line ∈ lines, line.WellFormed) (level : Nat) :
    ∀ line ∈ placeAll level lines, line.WellFormed := by
  induction lines generalizing level with
  | nil => simp [placeAll]
  | cons line lines ih =>
      simp only [List.mem_cons, forall_eq_or_imp, placeAll] at wellFormed ⊢
      refine ⟨⟨lf_not_mem_place wellFormed.1.free level, ?_⟩, ih wellFormed.2 _⟩
      exact fun ending => getLast?_place_ne_return (wellFormed.1.ending ending) level

/-! ## All lines of a document -/

theorem contents_layOut (lines : Lines) :
    (layOut lines).contents = placeLines 0 lines.contents := by
  simp only [Lines.contents, layOut, placeLines_append, map_content_placeAll, placeLines]

theorem endings_layOut (lines : Lines) : (layOut lines).endings = lines.endings := by
  have endings := map_ending_placeAll 0 lines.closed
  simp only [Lines.endings, layOut, ← List.map_map (g := some), ← Function.comp_def some, endings]

theorem first_layOut (lines : Lines) : (layOut lines).first = place 0 lines.first := by
  have contents := contents_layOut lines
  rw [Lines.contents_eq_cons, Lines.contents_eq_cons lines, placeLines] at contents
  exact (List.cons.inj contents).1

/-- Laying lines out twice is laying them out once. -/
theorem layOut_layOut (lines : Lines) : layOut (layOut lines) = layOut lines := by
  apply Lines.ext_of_contents
  · rfl
  · rw [contents_layOut, contents_layOut, placeLines_placeLines]
  · rw [endings_layOut]

theorem layOut_eq_self_iff (lines : Lines) :
    layOut lines = lines ↔ placeLines 0 lines.contents = lines.contents := by
  constructor
  · intro equal
    rw [← contents_layOut, equal]
  · intro contents
    apply Lines.ext_of_contents
    · rfl
    · rw [contents_layOut, contents]
    · exact endings_layOut lines

/-- No byte order mark is moved to the start of the text. -/
theorem head?_first_layOut {lines : Lines} (wellFormed : lines.WellFormed)
    (inPlace : lines.MarkInPlace) (unmarked : lines.hasMark = false) :
    (layOut lines).first.head? ≠ some byteOrderMark := by
  rw [first_layOut]
  cases kept : isKept lines.first with
  | true =>
      rw [place_of_isKept kept]
      exact wellFormed.mark unmarked
  | false =>
      rw [place_zero_of_not_isKept kept, head?_trim]
      exact inPlace.resolve_left (by rw [unmarked]; exact Bool.false_ne_true)

theorem wellFormed_layOut {lines : Lines} (wellFormed : lines.WellFormed)
    (inPlace : lines.MarkInPlace) : (layOut lines).WellFormed where
  closed := wellFormed_of_mem_placeAll wellFormed.closed 0
  last := lf_not_mem_place wellFormed.last _
  mark := head?_first_layOut wellFormed inPlace

/-- Lines that were laid out are read back from the text that they make. -/
theorem split_toList_format {text : String} (inPlace : (Lines.split text.toList).MarkInPlace) :
    Lines.split (format text).toList = layOut (Lines.split text.toList) := by
  rw [format, String.toList_ofList]
  exact Lines.split_join (wellFormed_layOut (Lines.wellFormed_split _) inPlace)

theorem format_eq_self_iff {text : String} (inPlace : (Lines.split text.toList).MarkInPlace) :
    format text = text ↔ layOut (Lines.split text.toList) = Lines.split text.toList := by
  constructor
  · intro equal
    rw [← split_toList_format inPlace, equal]
  · intro equal
    rw [format, equal, Lines.join_split, String.ofList_toList]

theorem map_trim_contents_format {text : String}
    (inPlace : (Lines.split text.toList).MarkInPlace) :
    (Lines.split (format text).toList).contents.map trim =
      (Lines.split text.toList).contents.map trim := by
  rw [split_toList_format inPlace, contents_layOut, map_trim_placeLines]

/-! ## What others see -/

/-- Laying a document out changes neither its issues nor its outline, unless a byte order
mark moves to the start of its text. -/
theorem analyses_format (catalog : Catalog) (text : String)
    (inPlace : text.toList.head? = some byteOrderMark ∨
      (trimStart (Lines.split text.toList).first).head? ≠ some byteOrderMark) :
    (Report.ofText catalog (format text)).issues = (Report.ofText catalog text).issues ∧
      Outline.ofText (format text) = Outline.ofText text := by
  rw [← Lines.hasMark_split] at inPlace
  have cores := map_trim_contents_format inPlace
  exact ⟨Check.issues_congr cores catalog, Outline.symbols_congr cores⟩

/-- A stray carriage return behind the first line, a mark behind the indent of the second. -/
theorem analyses_format_stray_return :
    (trimStart (Lines.split "\tx =\r\r\n \ufeff\"".toList).first).head? ≠ some byteOrderMark ∧
      (Report.ofText .builtin (format "\tx =\r\r\n \ufeff\"")).issues =
        (Report.ofText .builtin "\tx =\r\r\n \ufeff\"").issues ∧
      Outline.ofText (format "\tx =\r\r\n \ufeff\"") = Outline.ofText "\tx =\r\r\n \ufeff\"" :=
  ⟨by decide, analyses_format .builtin _ (.inr (by decide))⟩

end Indentation

end AlloyAssist
