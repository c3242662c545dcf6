import AlloyAssist.Proofs.Text.Splitting
import AlloyAssist.Proofs.Text.Trim

/-!
# Spelling a text otherwise

The same lines can be written with other endings, and with or without a byte order mark in
front of them. `respell` puts carriage returns in front of any line feeds that one chooses,
and a mark in front of the text if one likes.

Taken apart, the result has other endings and maybe a mark. A line that ended with a carriage
return and a line feed already is the exception: the second carriage return becomes its last
character. `Lines.withReturns` says what happens to each line.
-/

namespace AlloyAssist.Text

/-- Put a carriage return in front of the chosen line feeds, which are counted from zero. -/
def insertReturns (chosen : Nat → Bool) : List Char → List Char
  | [] => []
  | c :: text =>
      if c = '\n' then
        (if chosen 0 then ['\r', '\n'] else ['\n']) ++
          insertReturns (fun index => chosen (index + 1)) text
      else c :: insertReturns chosen text

/-- Put a carriage return in front of the chosen line feeds and, if it is to be marked, a byte
order mark in front of the text. -/
def respell (marked : Bool) (chosen : Nat → Bool) (text : String) : String :=
  String.ofList ((if marked then [byteOrderMark] else []) ++ insertReturns chosen text.toList)

/-! ## Between line feeds -/

theorem insertReturns_append {front : List Char} (free : '\n' ∉ front) (chosen : Nat → Bool)
    (text : List Char) :
    insertReturns chosen (front ++ text) = front ++ insertReturns chosen text := by
  induction front with
  | nil => rfl
  | cons c front ih =>
      simp only [List.mem_cons, not_or] at free
      rw [List.cons_append, insertReturns, if_neg (Ne.symm free.1), ih free.2, List.cons_append]

theorem insertReturns_lf (chosen : Nat → Bool) (text : List Char) :
    insertReturns chosen ('\n' :: text) =
      (if chosen 0 then ['\r'] else []) ++
        '\n' :: insertReturns (fun index => chosen (index + 1)) text := by
  rw [insertReturns, if_pos rfl]
  split <;> rfl

/-! ## Line by line -/

namespace ClosedLine

/-- The line with one more carriage return in front of its line feed, if it is chosen. -/
def withReturn (chosen : Bool) (line : ClosedLine) : ClosedLine :=
  match chosen, line.ending with
  | false, _ => line
  | true, .lf => { line with ending := .crlf }
  | true, .crlf => { line with content := line.content ++ ['\r'] }

theorem piece_withReturn (chosen : Bool) (line : ClosedLine) :
    (line.withReturn chosen).piece = line.piece ++ if chosen then ['\r'] else [] := by
  rcases line with ⟨content, ending⟩
  cases chosen with
  | false => exact (List.append_nil _).symm
  | true => cases ending <;> rfl

theorem WellFormed.withReturn {line : ClosedLine} (wellFormed : line.WellFormed)
    (chosen : Bool) : (line.withReturn chosen).WellFormed := by
  rcases line with ⟨content, ending⟩
  cases chosen with
  | false => exact wellFormed
  | true =>
      cases ending with
      | lf => exact ⟨wellFormed.free, fun absent => nomatch absent⟩
      | crlf =>
          have free : '\n' ∉ content := wellFormed.free
          exact ⟨by simp [ClosedLine.withReturn, free], fun absent => nomatch absent⟩

/-- A line that a line feed alone closes changes its ending only. -/
theorem content_withReturn {line : ClosedLine} (plain : line.ending = .lf) (chosen : Bool) :
    (line.withReturn chosen).content = line.content := by
  rcases line with ⟨content, ending⟩
  cases plain
  cases chosen with
  | false => rfl
  | true => rfl

/-- The line keeps its core: a carriage return is blank. -/
theorem trim_content_withReturn (chosen : Bool) (line : ClosedLine) :
    trim (line.withReturn chosen).content = trim line.content := by
  rcases line with ⟨content, ending⟩
  cases chosen with
  | false => rfl
  | true =>
      cases ending with
      | lf => rfl
      | crlf =>
          have blank : AllBlank ['\r'] := allBlank_cons.mpr ⟨rfl, allBlank_nil⟩
          exact trim_append blank content

theorem head?_content_withReturn (chosen : Bool) (line : ClosedLine) :
    (line.withReturn chosen).content.head? = line.content.head? ∨
      (line.withReturn chosen).content.head? = some '\r' := by
  rcases line with ⟨content, ending⟩
  cases chosen with
  | false => exact .inl rfl
  | true =>
      cases ending with
      | lf => exact .inl rfl
      | crlf =>
          cases content with
          | nil => exact .inr rfl
          | cons c content => exact .inl rfl

/-- Consecutive lines, with one more carriage return in front of each chosen line feed. -/
def withReturns (chosen : Nat → Bool) : List ClosedLine → List ClosedLine
  | [] => []
  | line :: lines =>
      line.withReturn (chosen 0) :: withReturns (fun index => chosen (index + 1)) lines

theorem wellFormed_of_mem_withReturns {lines : List ClosedLine}
    (wellFormed : ∀ line ∈ lines, line.WellFormed) (chosen : Nat → Bool) :
    ∀ line ∈ withReturns chosen lines, line.WellFormed := by
  induction lines generalizing chosen with
  | nil => exact wellFormed
  | cons line lines ih =>
      rcases List.forall_mem_cons.mp wellFormed with ⟨first, rest⟩
      exact List.forall_mem_cons.mpr ⟨first.withReturn (chosen 0), ih rest _⟩

theorem map_trim_content_withReturns (chosen : Nat → Bool) (lines : List ClosedLine) :
    (withReturns chosen lines).map (fun line => trim line.content) =
      lines.map fun line => trim line.content := by
  induction lines generalizing chosen with
  | nil => rfl
  | cons line lines ih =>
      rw [withReturns, List.map_cons, List.map_cons, trim_content_withReturn, ih]

theorem map_content_withReturns {lines : List ClosedLine}
    (plain : ∀ line ∈ lines, line.ending = .lf) (chosen : Nat → Bool) :
    (withReturns chosen lines).map content = lines.map content := by
  induction lines generalizing chosen with
  | nil => rfl
  | cons line lines ih =>
      rcases List.forall_mem_cons.mp plain with ⟨first, rest⟩
      rw [withReturns, List.map_cons, List.map_cons, content_withReturn first, ih rest]

/-- The lines as written: the chosen line feeds are found one line after the other. -/
theorem insertReturns_glue {lines : List ClosedLine} {last : List Char}
    (wellFormed : ∀ line ∈ lines, line.WellFormed) (free : '\n' ∉ last) (chosen : Nat → Bool) :
    insertReturns chosen (glue (lines.map piece) last) =
      glue ((withReturns chosen lines).map piece) last := by
  -- Each line holds one line feed, so both sides shift what is chosen by one per line.
  induction lines generalizing chosen with
  | nil =>
      have whole := insertReturns_append free chosen []
      rw [List.append_nil] at whole
      exact whole.trans (List.append_nil last)
  | cons line lines ih =>
      rcases List.forall_mem_cons.mp wellFormed with ⟨first, rest⟩
      rw [List.map_cons, glue_cons, insertReturns_append first.free_piece, insertReturns_lf,
        ih rest, withReturns, List.map_cons, glue_cons, piece_withReturn, List.append_assoc]

end ClosedLine

namespace Lines

/-- The lines with one more carriage return in front of each chosen line feed. -/
def withReturns (chosen : Nat → Bool) (lines : Lines) : Lines :=
  { lines with closed := ClosedLine.withReturns chosen lines.closed }

/-- The lines of a text that has a byte order mark, or gets one if it is to be marked. -/
def withMark (marked : Bool) (lines : Lines) : Lines :=
  { lines with hasMark := marked || lines.hasMark }

theorem join_withReturns {lines : Lines} (closedFormed : ∀ line ∈ lines.closed, line.WellFormed)
    (free : '\n' ∉ lines.last) (chosen : Nat → Bool) :
    (lines.withReturns chosen).join = insertReturns chosen lines.join := by
  have markFree : '\n' ∉ if lines.hasMark then [byteOrderMark] else [] := by
    cases lines.hasMark <;> decide
  rw [join_eq_body, join_eq_body, insertReturns_append markFree, body, body,
    ClosedLine.insertReturns_glue closedFormed free]
  rfl

theorem wellFormed_withReturns {lines : Lines} (wellFormed : lines.WellFormed)
    (chosen : Nat → Bool) : (lines.withReturns chosen).WellFormed := by
  refine ⟨ClosedLine.wellFormed_of_mem_withReturns wellFormed.closed chosen, wellFormed.last, ?_⟩
  intro unmarked
  have mark := wellFormed.mark unmarked
  rcases lines with ⟨hasMark, closed, last⟩
  cases closed with
  | nil => exact mark
  | cons line closed =>
      change (line.withReturn (chosen 0)).content.head? ≠ some byteOrderMark
      rcases line.head?_content_withReturn (chosen 0) with same | opened
      · rw [same]
        exact mark
      · rw [opened]
        decide

theorem map_trim_contents_withReturns (chosen : Nat → Bool) (lines : Lines) :
    (lines.withReturns chosen).contents.map trim = lines.contents.map trim := by
  have closed := ClosedLine.map_trim_content_withReturns chosen lines.closed
  simp only [contents, List.map_append, List.map_map, Function.comp_def, withReturns, closed]

theorem join_withMark {marked : Bool} {lines : Lines}
    (single : marked = true → lines.hasMark = false) :
    (lines.withMark marked).join = (if marked then [byteOrderMark] else []) ++ lines.join := by
  cases marked with
  | false => rfl
  | true =>
      rw [join, join, single rfl]
      rfl

/-! ## Taking the text apart -/

theorem split_insertReturns (chosen : Nat → Bool) (text : List Char) :
    split (insertReturns chosen text) = (split text).withReturns chosen := by
  have wellFormed := wellFormed_split text
  have spelled := join_withReturns wellFormed.closed wellFormed.last chosen
  rw [join_split] at spelled
  rw [← spelled]
  exact split_join (wellFormed_withReturns wellFormed chosen)

theorem split_cons_mark_of_head?_ne {text : List Char}
    (unmarked : text.head? ≠ some byteOrderMark) :
    split (byteOrderMark :: text) = (split text).withMark true := by
  rw [split_cons_mark, split_of_head?_ne unmarked]
  rfl

/-- A text that is spelled otherwise has the same lines, with other endings and marks. -/
theorem split_respell {marked : Bool} {text : String}
    (single : marked = true → text.toList.head? ≠ some byteOrderMark) (chosen : Nat → Bool) :
    split (respell marked chosen text).toList =
      ((split text.toList).withReturns chosen).withMark marked := by
  rw [respell, String.toList_ofList, ← split_insertReturns]
  cases marked with
  | false => rfl
  | true =>
      have unmarked : (insertReturns chosen text.toList).head? ≠ some byteOrderMark := by
        rw [Ne, ← hasMark_split, split_insertReturns]
        exact mt (hasMark_split _).mp (single rfl)
      exact split_cons_mark_of_head?_ne unmarked

theorem ending_eq_lf {text : List Char} (plain : '\r' ∉ text) :
    ∀ line ∈ (split text).closed, line.ending = .lf := by
  intro line membership
  cases ending : line.ending with
  | lf => rfl
  | crlf =>
      have onLine : '\r' ∈ line.chars := by simp [ClosedLine.chars, ending, Ending.chars]
      have inText : '\r' ∈ (split text).join := by
        rw [join, List.mem_append, List.mem_append]
        exact .inl (.inr (List.mem_flatMap.mpr ⟨line, membership, onLine⟩))
      rw [join_split] at inText
      exact absurd inText plain

end Lines

end AlloyAssist.Text
