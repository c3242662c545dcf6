import AlloyAssist.Document.Edit
import AlloyAssist.Proofs.Text.Numbering

/-!
# Carrying out an edit

An editor reads a place as a line, counted by line feeds, and a column in it, counted in UTF-16
code units with carriage returns included. `Position.offset?` resolves a place in this way, one
line and one character at a time, and gives up where the text has no such place. The place behind
any front part of a text resolves to the length of that part. A whole text reaches from the place
behind nothing to the place behind all of it, so that an edit over it leaves no character of the
old text, as long as that place can be sent.
-/

namespace AlloyAssist

open Text

/-! ## Resolving places -/

/-- How many characters of a line stand in front of a column. Unlike `indexAtColumn` this does
not settle for a character nearby: a column inside a pair of code units has no answer, and
neither has one behind the line. -/
def Text.indexOfColumn? : List Char → Nat → Option Nat
  | [], column => if column = 0 then some 0 else none
  | c :: line, column =>
      if column = 0 then some 0
      else if column < unitWidth c then none
      else (indexOfColumn? line (column - unitWidth c)).map (· + 1)

theorem Text.indexOfColumn?_append (front back : List Char) :
    indexOfColumn? (front ++ back) (columns front) = some front.length := by
  induction front with
  | nil => cases back <;> rfl
  | cons c front ih =>
      have width := unitWidth_pos c
      have rest : columns (c :: front) - unitWidth c = columns front := Nat.add_sub_cancel_left ..
      have behind : unitWidth c ≤ columns (c :: front) := Nat.le_add_right ..
      rw [List.cons_append, indexOfColumn?, if_neg (by omega), if_neg (by omega), rest, ih]
      rfl

namespace Position

/-- How many characters of a text stand in front of a place: the lines above with their line
feeds, and the characters in front of the column. -/
def offset? (text : List Char) (position : Position) : Option Nat :=
  (text.splitOn '\n')[position.line]?.bind fun line =>
    (indexOfColumn? line position.character).map fun index =>
      (((text.splitOn '\n').take position.line).flatMap (· ++ ['\n'])).length + index

/-- The place behind a text. -/
def behind (text : List Char) : Position :=
  ⟨text.count '\n', columns (cut text).2⟩

/-- The place behind a front part of a text resolves to the length of that part. -/
theorem offset?_behind (front back : List Char) :
    (behind front).offset? (front ++ back) = some front.length := by
  rcases exists_splitOn_append front back with ⟨more, rest, lines⟩
  have count : front.count '\n' = (cut front).1.length := (length_cut front).symm
  have above : ((cut front).1.flatMap (· ++ ['\n'])).length + (cut front).2.length =
      front.length := by
    conv_rhs => rw [← glue_cut front, glue, List.length_append]
  rw [offset?, lines, behind, count, List.getElem?_append_right (Nat.le_refl _), Nat.sub_self,
    List.getElem?_cons_zero, Option.bind_some, indexOfColumn?_append, List.take_left,
    Option.map_some, above]

end Position

/-! ## Carrying edits out -/

namespace TextEdit

/-- Put the new text in the place of what stands in the span, if the text has such a span. -/
def carryOut? (edit : TextEdit) (text : String) : Option String :=
  (edit.span.start.offset? text.toList).bind fun start =>
    (edit.span.stop.offset? text.toList).bind fun stop =>
      if start ≤ stop then
        some (String.ofList
          (text.toList.take start ++ edit.newText.toList ++ text.toList.drop stop))
      else none

end TextEdit

namespace Span

theorem offset?_start_ofWhole (text : List Char) :
    (ofWhole text).start.offset? text = some 0 :=
  Position.offset?_behind [] text

/-- Where lines are few and short enough, a whole text is sent with the place behind it. -/
theorem stop_ofWhole {text : List Char} (long : (text.splitOn '\n').length < UInt32.size)
    (wide : ∀ line ∈ text.splitOn '\n', columns line < UInt32.size) :
    (ofWhole text).stop = .behind text := by
  apply Position.sent_of_lt
  · rw [length_splitOn] at long
    exact Nat.lt_of_succ_lt long
  · apply wide
    rw [splitOn_eq_cut]
    exact List.mem_append_right _ (List.mem_singleton_self _)

theorem offset?_stop_ofWhole {text : List Char} (sent : (ofWhole text).stop = .behind text) :
    (ofWhole text).stop.offset? text = some text.length := by
  have resolved := Position.offset?_behind text []
  rwa [List.append_nil, ← sent] at resolved

theorem carryOut?_ofWhole {text : String} (sent : (ofWhole text.toList).stop = .behind text.toList)
    (newText : String) :
    (⟨ofWhole text.toList, newText⟩ : TextEdit).carryOut? text = some newText := by
  rw [TextEdit.carryOut?, offset?_start_ofWhole, offset?_stop_ofWhole sent, Option.bind_some,
    Option.bind_some, if_pos (Nat.zero_le _), List.take_zero, List.drop_length, List.nil_append,
    List.append_nil, String.ofList_toList]

end Span

namespace Indentation

/-- Laying a document out is no edit where nothing would change, and otherwise one edit that
starts at the very beginning. Where lines are few and short enough, it reaches to the very end and
leaves the document as it is laid out. -/
theorem edits_replace_whole_text (text : String) :
    (edits text = [] ↔ format text = text) ∧
      (format text ≠ text → ∃ edit, edits text = [edit] ∧
        edit.span.start = ⟨0, 0⟩ ∧
        edit.span.start.offset? text.toList = some 0 ∧
        edit.span.stop.line < UInt32.size ∧ edit.span.stop.character < UInt32.size ∧
        edit.newText = format text ∧
        ((text.toList.splitOn '\n').length < UInt32.size →
          (∀ line ∈ text.toList.splitOn '\n', columns line < UInt32.size) →
          edit.span.stop.offset? text.toList = some text.toList.length ∧
            edit.carryOut? text = some (format text))) := by
  by_cases settled : format text = text
  · have unedited : edits text = [] := if_pos settled
    exact ⟨⟨fun _ => settled, fun _ => unedited⟩, fun moved => absurd settled moved⟩
  · have one : edits text = [⟨Span.ofWhole text.toList, format text⟩] := if_neg settled
    rw [one]
    refine ⟨⟨fun empty => absurd empty (List.cons_ne_nil _ _), fun equal => absurd equal settled⟩,
      ?_⟩
    intro moved
    refine ⟨_, rfl, rfl, Span.offset?_start_ofWhole _, Position.wrap_lt _, Position.wrap_lt _, rfl,
      ?_⟩
    intro long wide
    have sent := Span.stop_ofWhole long wide
    exact ⟨Span.offset?_stop_ofWhole sent, Span.carryOut?_ofWhole sent (format text)⟩

/-- The carriage return at the end of the last line is replaced too, and the character in front of
it takes two columns. -/
theorem edits_replace_final_return :
    let text := "\ufeffx \x7b\r\ny😀\r"
    format text ≠ text ∧ (text.toList.splitOn '\n').length < UInt32.size ∧
      (∀ line ∈ text.toList.splitOn '\n', columns line < UInt32.size) ∧
      ∃ edit, edits text = [edit] ∧ edit.span.stop = ⟨1, 4⟩ ∧
        edit.span.stop.offset? text.toList = some text.toList.length ∧
        edit.carryOut? text = some "\ufeffx \x7b\r\n  y😀" := by
  intro text
  have moved : format text ≠ text := by decide
  have long : (text.toList.splitOn '\n').length < UInt32.size := by decide
  have wide : ∀ line ∈ text.toList.splitOn '\n', columns line < UInt32.size := by decide
  refine ⟨moved, long, wide, ?_⟩
  rcases (edits_replace_whole_text text).2 moved with ⟨edit, one, -, -, -, -, -, replaced⟩
  have stop : ∀ edit ∈ edits text, edit.span.stop = ⟨1, 4⟩ := by decide
  rw [one, List.forall_mem_singleton] at stop
  rcases replaced long wide with ⟨reaches, carried⟩
  exact ⟨edit, one, stop, reaches, carried.trans (by decide)⟩

end Indentation

end AlloyAssist
