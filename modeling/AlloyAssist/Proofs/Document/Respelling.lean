import AlloyAssist.Proofs.Document.Layout
import AlloyAssist.Proofs.Text.Respelling

/-!
# Documents that are spelled otherwise

How lines end, and whether a byte order mark opens the text, is a matter of spelling. Checking
and outlining do not see it, as lines keep their cores. Laying out keeps it: in a text without
carriage returns it makes no difference whether they, and a mark, are put in before or after.
A text that has some already is another matter, since one that is added becomes part of a line
then and may be trimmed away.
-/

namespace AlloyAssist

open Text

namespace Indentation

/-- Lines that a line feed alone closes are put on the same levels with other endings. -/
theorem placeAll_withReturns {lines : List ClosedLine} (plain : ∀ line ∈ lines, line.ending = .lf)
    (chosen : Nat → Bool) (level : Nat) :
    placeAll level (ClosedLine.withReturns chosen lines) =
      ClosedLine.withReturns chosen (placeAll level lines) := by
  induction lines generalizing chosen level with
  | nil => rfl
  | cons line lines ih =>
      rcases List.forall_mem_cons.mp plain with ⟨first, rest⟩
      rcases line with ⟨content, ending⟩
      cases first
      rw [ClosedLine.withReturns, placeAll, placeAll, ClosedLine.withReturns, ← ih rest]
      cases chosen 0 with
      | false => rfl
      | true => rfl

theorem layOut_withReturns {lines : Lines} (plain : ∀ line ∈ lines.closed, line.ending = .lf)
    (chosen : Nat → Bool) :
    layOut (lines.withReturns chosen) = (layOut lines).withReturns chosen := by
  simp only [layOut, Lines.withReturns, placeAll_withReturns plain,
    ClosedLine.map_content_withReturns plain]

/-- Without carriage returns in the text, laying it out and spelling it otherwise can change
places. -/
theorem format_respell {marked : Bool} {text : String}
    (single : marked = true → text.toList.head? ≠ some byteOrderMark)
    (plain : '\r' ∉ text.toList) (chosen : Nat → Bool) :
    format (respell marked chosen text) = respell marked chosen (format text) := by
  have wellFormed := Lines.wellFormed_split text.toList
  have unmarked : marked = true →
      ((layOut (Lines.split text.toList)).withReturns chosen).hasMark = false := by
    intro wanted
    exact Bool.eq_false_iff.mpr (mt (Lines.hasMark_split _).mp (single wanted))
  have spelled : ((layOut (Lines.split text.toList)).withReturns chosen).join =
      insertReturns chosen (layOut (Lines.split text.toList)).join :=
    Lines.join_withReturns (wellFormed_of_mem_placeAll wellFormed.closed 0)
      (lf_not_mem_place wellFormed.last _) chosen
  apply String.toList_inj.mp
  -- Laying out looks neither at the mark nor at endings, so both can be taken out of it.
  calc (format (respell marked chosen text)).toList
      = (layOut (((Lines.split text.toList).withReturns chosen).withMark marked)).join := by
        rw [format, String.toList_ofList, Lines.split_respell single]
    _ = ((layOut ((Lines.split text.toList).withReturns chosen)).withMark marked).join := rfl
    _ = (((layOut (Lines.split text.toList)).withReturns chosen).withMark marked).join := by
        rw [layOut_withReturns (Lines.ending_eq_lf plain)]
    _ = (if marked then [byteOrderMark] else []) ++
          insertReturns chosen (layOut (Lines.split text.toList)).join := by
        rw [Lines.join_withMark unmarked, spelled]
    _ = (respell marked chosen (format text)).toList := by
        rw [respell, format, String.toList_ofList, String.toList_ofList]

end Indentation

/-- Carriage returns in front of line feeds and a byte order mark in front of the text change
neither the issues of a document nor its outline. They come out of laying it out as they went
in, unless the text holds carriage returns of its own. -/
theorem analyses_respell (marked : Bool) (chosen : Nat → Bool) (text : String)
    (single : marked = true → text.toList.head? ≠ some byteOrderMark) :
    (∀ catalog, (Report.ofText catalog (respell marked chosen text)).issues =
        (Report.ofText catalog text).issues) ∧
      Outline.ofText (respell marked chosen text) = Outline.ofText text ∧
      ('\r' ∉ text.toList → Indentation.format (respell marked chosen text) =
        respell marked chosen (Indentation.format text)) := by
  have cores : (Lines.split (respell marked chosen text).toList).contents.map trim =
      (Lines.split text.toList).contents.map trim := by
    rw [Lines.split_respell single]
    exact Lines.map_trim_contents_withReturns chosen (Lines.split text.toList)
  refine ⟨?_, ?_, ?_⟩
  · intro catalog
    exact Check.issues_congr cores catalog
  · exact Outline.symbols_congr cores
  · intro plain
    exact Indentation.format_respell single plain chosen

/-- A second carriage return behind an attribute, and one of two line feeds in a block. -/
theorem analyses_respell_mixed :
    let chosen : Nat → Bool := fun index => index == 0
    (Report.ofText .builtin (respell true chosen "x =\r\ny")).issues =
        (Report.ofText .builtin "x =\r\ny").issues ∧
      respell true chosen "x \x7b\ny\n\x7d" = "\ufeffx \x7b\r\ny\n\x7d" ∧
      Indentation.format (respell true chosen "x \x7b\ny\n\x7d") =
        respell true chosen (Indentation.format "x \x7b\ny\n\x7d") := by
  intro chosen
  refine ⟨?_, ?_, ?_⟩
  · exact (analyses_respell true chosen "x =\r\ny" (by decide)).1 .builtin
  · decide
  · exact (analyses_respell true chosen "x \x7b\ny\n\x7d" (by decide)).2.2 (by decide)

end AlloyAssist
