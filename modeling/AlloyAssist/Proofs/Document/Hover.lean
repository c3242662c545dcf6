import AlloyAssist.Proofs.Document.Nesting
import AlloyAssist.Proofs.Line.Word
import AlloyAssist.Proofs.Text.Column
import AlloyAssist.Proofs.Text.Numbering

/-!
# Pointing at a declared type

Two readers look at the line of a declaration. The outline reads it from its start, without the
byte order mark; a hover looks for the word around a column, on the line as it is shown, with the
mark. They agree on the type of the component. Blanks and the mark are no characters of words, so
the word starts where the type does, and it ends at the blank in front of the label. Every column
from one end of the type to the other therefore tells of the declared component if the catalog
lists it, and of nothing if it does not.
-/

namespace AlloyAssist

open Text

/-! ## The word that a type is -/

theorem Line.not_continuesType_of_isBlank {c : Char} (blank : isBlank c = true) :
    ¬ContinuesType c := by
  rw [← isTypeChar_iff, isTypeChar_of_isBlank blank]
  exact Bool.false_ne_true

theorem Line.not_continuesType_mark : ¬ContinuesType byteOrderMark := by
  rw [← isTypeChar_iff]
  decide

namespace Declaration.Reading

variable {line : List Char}

/-- What follows the type. -/
def back (reading : Reading line) : List Char :=
  reading.gap ++ '"' :: (reading.label ++ '"' :: (reading.space ++ '{' :: reading.rest))

/-- Behind blanks, and behind anything else that is no character of a word, the type is the word
at each of its characters and right behind the last one. -/
theorem touchesWord (reading : Reading line) {mark : List Char}
    (outside : ∀ c ∈ mark, ¬Line.ContinuesType c) {index : Nat}
    (starts : (mark ++ reading.indent).length ≤ index)
    (stops : index ≤ (mark ++ reading.indent).length + reading.typeName.length) :
    Line.TouchesWord (mark ++ line) index (mark ++ reading.indent) reading.typeName
      reading.back := by
  have run := reading.isRun_typeName
    (reading.label ++ '"' :: (reading.space ++ '{' :: reading.rest))
  refine ⟨?_, ?_, ?_, starts, stops, ?_, ?_⟩
  · rw [List.append_assoc]
    exact congrArg (mark ++ ·) reading.spelled
  · rcases reading.isType with ⟨c, parts, spelled, -, -⟩
    rw [spelled]
    exact List.cons_ne_nil c parts
  · intro c membership
    exact Line.isTypeChar_iff.mp (run.inside c membership)
  · intro c last
    rcases List.mem_append.mp (List.mem_of_getLast? last) with inMark | inIndent
    · exact outside c inMark
    · exact Line.not_continuesType_of_isBlank (reading.indentBlank c inIndent)
  · intro c first
    rw [← Line.isTypeChar_iff, run.outside c first]
    exact Bool.false_ne_true

/-- The type stands behind blanks at one place only. -/
theorem eq_of_spelled (reading : Reading line) {indent back : List Char}
    (blank : AllBlank indent) (spelled : line = indent ++ (reading.typeName ++ back)) :
    indent = reading.indent := by
  have equal := spelled.symm.trans reading.spelled
  exact ((Line.isRun_isBlank_name blank reading.isType).unique
    (Line.isRun_isBlank_name reading.indentBlank reading.isType) equal).1

end Declaration.Reading

/-! ## The line of a symbol -/

theorem Text.Lines.not_continuesType_of_mem_markAt {lines : Lines} {index : Nat} {c : Char}
    (membership : c ∈ lines.markAt index) : ¬Line.ContinuesType c := by
  unfold markAt at membership
  split at membership
  · rw [List.mem_singleton.mp membership]
    exact Line.not_continuesType_mark
  · cases membership

namespace Document

/-- Behind the mark, the line of a symbol as it is shown opens with the same declaration. -/
theorem exists_reading_of_mem_outline {document : Document} {symbol : OutlineSymbol}
    (listed : symbol ∈ Outline.ofText document.content) :
    ∃ (line : List Char) (reading : Declaration.Reading line),
      reading.declaration = symbol.declaration ∧
        document.line symbol.startLine =
          (Lines.split document.content.toList).markAt symbol.startLine ++ line := by
  rcases Outline.mem_symbols_iff.mp listed with ⟨checked, here, -, declared, -⟩
  have opens := Declaration.read?_eq_some_iff.mp declared
  have shown := document.getElem?_lines symbol.startLine
  rw [here, Option.map_some] at shown
  have hidden : symbol.declaration.Opens (hideReturn checked) := by
    rcases hideReturn_cases checked with returned | ⟨unreturned, -⟩
    · rw [returned] at opens
      exact opens.of_append (allBlank_cons.mpr ⟨rfl, allBlank_nil⟩)
    · rwa [← unreturned]
  have inner : symbol.declaration.Opens
      (if symbol.startLine + 1 = (Lines.split document.content.toList).contents.length then
        hideReturn checked else checked) := by
    split
    · exact hidden
    · exact opens
  rcases Declaration.opens_iff_exists_reading.mp inner with ⟨reading, declares⟩
  refine ⟨_, reading, declares, ?_⟩
  rw [line_eq_getD, shown]
  rfl

theorem exists_place_of_mem_outline {document : Document} {symbol : OutlineSymbol}
    (listed : symbol ∈ Outline.ofText document.content) :
    ∃ indent back, AllBlank indent ∧
      document.line symbol.startLine =
        (Lines.split document.content.toList).markAt symbol.startLine ++
          (indent ++ (symbol.declaration.typeName.toList ++ back)) := by
  rcases exists_reading_of_mem_outline listed with ⟨line, reading, declares, shown⟩
  refine ⟨reading.indent, reading.back, reading.indentBlank, ?_⟩
  rw [shown, ← declares, Declaration.Reading.declaration, String.toList_ofList]
  exact congrArg (_ ++ ·) reading.spelled

/-- The type of a declared component is the word at each of its columns and right behind it. -/
theorem wordAt?_declared {document : Document} {symbol : OutlineSymbol}
    (listed : symbol ∈ Outline.ofText document.content) {indent back : List Char}
    (blank : AllBlank indent)
    (shown : document.line symbol.startLine =
      (Lines.split document.content.toList).markAt symbol.startLine ++
        (indent ++ (symbol.declaration.typeName.toList ++ back)))
    {column : Nat}
    (start : columns ((Lines.split document.content.toList).markAt symbol.startLine ++ indent) ≤
      column)
    (stop : column ≤ columns ((Lines.split document.content.toList).markAt symbol.startLine ++
      indent ++ symbol.declaration.typeName.toList)) :
    Line.wordAt? (document.line symbol.startLine) column =
      some symbol.declaration.typeName := by
  rcases exists_reading_of_mem_outline listed with ⟨line, reading, declares, shownLine⟩
  have typeName : symbol.declaration.typeName.toList = reading.typeName := by
    rw [← declares, Declaration.Reading.declaration, String.toList_ofList]
  rw [typeName] at shown stop
  have spelled : line = indent ++ (reading.typeName ++ back) :=
    List.append_cancel_left (shownLine.symm.trans shown)
  -- The type stands behind blanks at one place only, so the given place is that of the reading.
  have place := reading.eq_of_spelled blank spelled
  subst place
  have bounds := indexAtColumn_bounds _ _ back start stop
  rw [List.append_assoc, ← spelled] at bounds
  rw [shownLine, Line.wordAt?_eq_some_iff, typeName]
  exact ⟨_, _, reading.touchesWord (fun c => Lines.not_continuesType_of_mem_markAt) bounds.1 bounds.2⟩

end Document

/-! ## The answer -/

namespace Catalog

theorem hoverCard?_of_component? {catalog : Catalog} {typeName : String} {entry : Entry}
    (listed : catalog.component? typeName = some entry) :
    catalog.hoverCard? typeName =
      some ("**" ++ typeName ++ "**\n\nGrafana Alloy component\n\n" ++
        entry.description.getD "Component for Grafana Alloy configuration.") := by
  rw [hoverCard?, describe?, listed]
  rfl

theorem hoverCard?_of_unlisted {catalog : Catalog} {typeName : String}
    (unlisted : ∀ entry ∈ catalog.components, entry.name ≠ typeName) :
    catalog.hoverCard? typeName = none := by
  have gone : catalog.component? typeName = none := by
    apply List.find?_eq_none.mpr
    intro entry membership
    simpa using unlisted entry membership
  rw [hoverCard?, describe?, gone]
  rfl

theorem exists_component?_of_listed {catalog : Catalog} {typeName : String}
    (listed : ∃ entry ∈ catalog.components, entry.name = typeName) :
    ∃ entry, catalog.component? typeName = some entry := by
  apply Option.isSome_iff_exists.mp
  apply List.find?_isSome.mpr
  simpa using listed

end Catalog

namespace Workspace

theorem answer_hover {workspace : Workspace} {url : Url} {document : Document}
    (opened : workspace.document? url = some document) (catalog : Catalog) {line column : Nat}
    {word : String} (found : Line.wordAt? (document.line line) column = some word) :
    workspace.answer catalog (.hover url ⟨line, column⟩) =
      (catalog.hoverCard? word).elim .nothing .hover := by
  rw [answer, opened, Option.bind_some, Document.hoverCard?, found, Option.bind_some]

/-- The type of a symbol stands on the symbol's line, behind the byte order mark, if the line has
it, and behind blanks. At every column from its start to right behind its end, it is the word that
is found, and a hover there is answered with the card of the type if the catalog lists it, and
with nothing if it does not. -/
theorem hover_tells_declared_type {workspace : Workspace} {url : Url} {document : Document}
    (opened : workspace.document? url = some document) (catalog : Catalog)
    {symbol : OutlineSymbol} (listed : symbol ∈ Outline.ofText document.content) :
    let typeName := symbol.declaration.typeName
    let line := document.line symbol.startLine
    let mark := (Lines.split document.content.toList).markAt symbol.startLine
    (∃ indent back, AllBlank indent ∧ line = mark ++ (indent ++ (typeName.toList ++ back))) ∧
      ∀ (indent back : List Char) (column : Nat), AllBlank indent →
        line = mark ++ (indent ++ (typeName.toList ++ back)) →
        columns (mark ++ indent) ≤ column →
        column ≤ columns (mark ++ indent ++ typeName.toList) →
        Line.wordAt? line column = some typeName ∧
          ((∃ entry ∈ catalog.components, entry.name = typeName) →
            ∃ entry, catalog.component? typeName = some entry ∧
              workspace.answer catalog (.hover url ⟨symbol.startLine, column⟩) =
                .hover ("**" ++ typeName ++ "**\n\nGrafana Alloy component\n\n" ++
                  entry.description.getD "Component for Grafana Alloy configuration.")) ∧
          ((∀ entry ∈ catalog.components, entry.name ≠ typeName) →
            workspace.answer catalog (.hover url ⟨symbol.startLine, column⟩) = .nothing) := by
  intro typeName line mark
  refine ⟨Document.exists_place_of_mem_outline listed, ?_⟩
  intro indent back column blank shown start stop
  have found := Document.wordAt?_declared listed blank shown start stop
  have answered := answer_hover opened catalog found
  refine ⟨found, ?_, ?_⟩
  · intro known
    rcases Catalog.exists_component?_of_listed known with ⟨entry, first⟩
    rw [Catalog.hoverCard?_of_component? first] at answered
    exact ⟨entry, first, answered⟩
  · intro unknown
    rw [Catalog.hoverCard?_of_unlisted unknown] at answered
    exact answered

/-- The mark and a wide blank take a column each, and the column right behind the type still tells
of it. -/
theorem hover_tells_declared_type_behind_mark :
    let document : Document := ⟨"\ufeff\u3000loki.write \"x\" \x7b\n\x7d", "alloy"⟩
    let url : Url := ⟨"untitled", none, "a", none, none⟩
    Outline.ofText document.content = [⟨⟨"loki.write", "x"⟩, 0, 1⟩] ∧
      Line.wordAt? (document.line 0) 12 = some "loki.write" ∧
      (Workspace.empty.put url document).answer .builtin (.hover url ⟨0, 12⟩) =
        .hover "**loki.write**\n\nGrafana Alloy component\n\nSends logs to a Loki endpoint." := by
  intro document url
  have opened : (Workspace.empty.put url document).document? url = some document := by
    rw [Workspace.document?_put, if_pos rfl]
  have symbols : Outline.ofText document.content = [⟨⟨"loki.write", "x"⟩, 0, 1⟩] := by decide
  have listed : ⟨⟨"loki.write", "x"⟩, 0, 1⟩ ∈ Outline.ofText document.content := by
    rw [symbols]
    exact List.mem_singleton_self _
  have blank : AllBlank ['\u3000'] := allBlank_cons.mpr ⟨rfl, allBlank_nil⟩
  have known : ∃ entry ∈ Catalog.builtin.components, entry.name = "loki.write" := by decide
  have described : Catalog.builtin.component? "loki.write" =
      some ⟨"loki.write", some "Sends logs to a Loki endpoint."⟩ := by decide
  rcases (hover_tells_declared_type opened .builtin listed).2 ['\u3000'] " \"x\" \x7b".toList 12
    blank (by decide) (by decide) (by decide) with ⟨found, told, -⟩
  rcases told known with ⟨entry, first, answered⟩
  rw [described] at first
  cases first
  exact ⟨symbols, found, answered⟩

end Workspace

end AlloyAssist
