import AlloyAssist.Proofs.Document.Stateless
import AlloyAssist.Proofs.Text.Numbering
import AlloyAssist.Workspace.Answer

/-!
# Blocks nest

The end of every block is searched for on its own: the braces are counted anew from its
declaration on. Two such counts that go over the same lines differ by what was open where the
second one started. If the block above is still open there, it had braces open, so its count
stays ahead of the other and reaches zero no earlier. Blocks are therefore nested or apart, no
matter how a document's braces are balanced.

The spans that an editor is shown follow the lines of the blocks, as long as every line has a
number that can be sent. The line behind these is sent as the first one, so that a block which
reaches it is shown to end before its own declaration does.
-/

namespace AlloyAssist

open Text

/-! ## Places and spans -/

/-- Places are ordered by lines, and on a line by columns. -/
instance : LE Position :=
  ⟨fun left right =>
    left.line < right.line ∨ left.line = right.line ∧ left.character ≤ right.character⟩

instance : LT Position :=
  ⟨fun left right =>
    left.line < right.line ∨ left.line = right.line ∧ left.character < right.character⟩

namespace Span

/-- A span that does not reach out of another one. -/
def Within (inner outer : Span) : Prop :=
  outer.start ≤ inner.start ∧ inner.stop ≤ outer.stop

/-- A span that ends before another one starts. -/
def Before (left right : Span) : Prop :=
  left.stop < right.start

end Span

namespace Outline

open Check

/-! ## Searching for the end of a block -/

theorem closingLine?_bounds {depth : Int} {index close : Nat} {lines : List (List Char)}
    (closes : closingLine? depth index lines = some close) :
    index ≤ close ∧ close < index + lines.length := by
  induction lines generalizing depth index with
  | nil => cases closes
  | cons line lines ih =>
      rw [closingLine?] at closes
      rw [List.length_cons]
      split at closes
      · split at closes
        · cases closes
          omega
        · have later := ih closes
          omega
      · have later := ih closes
        omega

/-- A declaration stands on a code line, so that the search for its end may start there as on any
other line. -/
theorem closingLineFrom?_eq {line : List Char} (code : Line.isCode line = true) (index : Nat)
    (lines : List (List Char)) :
    closingLineFrom? index line lines = closingLine? 0 index (line :: lines) := by
  rw [closingLine?, if_pos code, Int.zero_add, closingLineFrom?]

theorem closingLine?_eq_none {lines : List (List Char)}
    (skipped : ∀ line ∈ lines, ¬Line.isCode line = true) (depth : Int) (index : Nat) :
    closingLine? depth index lines = none := by
  induction lines generalizing index with
  | nil => rfl
  | cons line lines ih =>
      rcases List.forall_mem_cons.mp skipped with ⟨first, rest⟩
      rw [closingLine?, if_neg first, ih rest]

/-- The search goes on with what the lines in front leave open. -/
theorem closingLine?_append (depth : Int) (index : Nat) (front rest : List (List Char)) :
    closingLine? depth index (front ++ rest) =
      (closingLine? depth index front).or
        (closingLine? (depth + braceBalance front) (index + front.length) rest) := by
  induction front generalizing depth index with
  | nil =>
      rw [braceBalance_nil, Int.add_zero]
      rfl
  | cons line front ih =>
      have shifted : index + (line :: front).length = index + 1 + front.length := by
        rw [List.length_cons]
        omega
      rw [List.cons_append, closingLine?, closingLine?, shifted]
      by_cases code : Line.isCode line = true
      · rw [if_pos code, if_pos code, braceBalance_cons_of_isCode code, ← Int.add_assoc]
        by_cases closed : depth + Line.braceDelta line ≤ 0
        · rw [if_pos closed, if_pos closed]
          rfl
        · rw [if_neg closed, if_neg closed, ih]
      · rw [if_neg code, if_neg code, braceBalance_cons_of_not_isCode code, ih]

/-- As long as no end is found, no more braces are closed than opened. -/
theorem braceBalance_nonneg {depth : Int} (opened : 0 ≤ depth) {index : Nat}
    {lines : List (List Char)} (runs : closingLine? depth index lines = none) :
    0 ≤ depth + braceBalance lines := by
  induction lines generalizing depth index with
  | nil => rwa [braceBalance_nil, Int.add_zero]
  | cons line lines ih =>
      rw [closingLine?] at runs
      by_cases code : Line.isCode line = true
      · rw [if_pos code] at runs
        rw [braceBalance_cons_of_isCode code, ← Int.add_assoc]
        by_cases closed : depth + Line.braceDelta line ≤ 0
        · rw [if_pos closed] at runs
          cases runs
        · rw [if_neg closed] at runs
          exact ih (by omega) runs
      · rw [if_neg code] at runs
        rw [braceBalance_cons_of_not_isCode code]
        exact ih opened runs

/-- With fewer braces open the end comes no later. -/
theorem closingLine?_mono {fewer more : Int} (le : fewer ≤ more) {index close : Nat}
    {lines : List (List Char)} (closes : closingLine? more index lines = some close) :
    ∃ earlier ≤ close, closingLine? fewer index lines = some earlier := by
  induction lines generalizing fewer more index with
  | nil => cases closes
  | cons line lines ih =>
      have bounds := closingLine?_bounds closes
      rw [closingLine?] at closes ⊢
      by_cases code : Line.isCode line = true
      · rw [if_pos code] at closes ⊢
        by_cases closed : fewer + Line.braceDelta line ≤ 0
        · rw [if_pos closed]
          exact ⟨index, bounds.1, rfl⟩
        · rw [if_neg (by omega)] at closes
          rw [if_neg closed]
          exact ih (by omega) closes
      · rw [if_neg code] at closes ⊢
        exact ih le closes

/-! ## Two blocks -/

/-- The line on which a block that starts on a line ends. -/
def blockEnd (lines : List (List Char)) (index : Nat) : Nat :=
  (closingLine? 0 index (lines.drop index)).getD (lines.length - 1)

theorem blockEnd_bounds {lines : List (List Char)} {index : Nat} (inside : index < lines.length) :
    index ≤ blockEnd lines index ∧ blockEnd lines index < lines.length := by
  rw [blockEnd]
  cases found : closingLine? 0 index (lines.drop index) with
  | none =>
      rw [Option.getD_none]
      omega
  | some close =>
      have bounds := closingLine?_bounds found
      rw [List.length_drop] at bounds
      rw [Option.getD_some]
      omega

/-- A later start cuts the search for the end in two. -/
theorem blockEnd_eq_or {lines : List (List Char)} {outer inner : Nat} (above : outer ≤ inner)
    (inside : inner ≤ lines.length) :
    blockEnd lines outer =
      ((closingLine? 0 outer ((lines.drop outer).take (inner - outer))).or
        (closingLine? (braceBalance ((lines.drop outer).take (inner - outer))) inner
          (lines.drop inner))).getD (lines.length - 1) := by
  have rest : (lines.drop outer).drop (inner - outer) = lines.drop inner := by
    rw [List.drop_drop, Nat.add_sub_cancel' above]
  have start : outer + ((lines.drop outer).take (inner - outer)).length = inner := by
    rw [List.length_take, List.length_drop]
    omega
  have search := closingLine?_append 0 outer ((lines.drop outer).take (inner - outer))
    ((lines.drop outer).drop (inner - outer))
  rw [List.take_append_drop, Int.zero_add, start, rest] at search
  rw [blockEnd, search]

/-- A block ends before a later one starts, or not before that one ends. -/
theorem blockEnd_nested {lines : List (List Char)} {outer inner : Nat} (above : outer < inner)
    (inside : inner < lines.length) :
    blockEnd lines outer < inner ∨ blockEnd lines inner ≤ blockEnd lines outer := by
  rw [blockEnd_eq_or (Nat.le_of_lt above) (Nat.le_of_lt inside)]
  cases apart : closingLine? 0 outer ((lines.drop outer).take (inner - outer)) with
  | some close =>
      left
      have bounds := closingLine?_bounds apart
      rw [List.length_take, List.length_drop] at bounds
      rw [Option.some_or, Option.getD_some]
      omega
  | none =>
      right
      have opened := braceBalance_nonneg (Int.le_refl 0) apart
      rw [Int.zero_add] at opened
      rw [Option.none_or]
      cases found : closingLine? (braceBalance ((lines.drop outer).take (inner - outer))) inner
          (lines.drop inner) with
      | some close =>
          rcases closingLine?_mono opened found with ⟨earlier, le, innerFound⟩
          rw [blockEnd, innerFound]
          exact le
      | none =>
          have bounds := (blockEnd_bounds inside).2
          rw [Option.getD_none]
          omega

/-! ## The symbols of a document -/

/-- The symbol of a numbered line, if it declares a component. -/
def symbolAt (lines : List (List Char)) (numbered : List Char × Nat) : Option OutlineSymbol :=
  if LineKind.classify numbered.1 = .code then
    (Declaration.read? numbered.1).map fun declaration =>
      ⟨declaration, numbered.2, blockEnd lines numbered.2⟩
  else none

theorem symbolAt_eq_some_iff {lines : List (List Char)} {numbered : List Char × Nat}
    {symbol : OutlineSymbol} :
    symbolAt lines numbered = some symbol ↔
      LineKind.classify numbered.1 = .code ∧
        Declaration.read? numbered.1 = some symbol.declaration ∧
        symbol.startLine = numbered.2 ∧ symbol.endLine = blockEnd lines numbered.2 := by
  rw [symbolAt]
  by_cases code : LineKind.classify numbered.1 = .code
  · rw [if_pos code, Option.map_eq_some_iff, and_iff_right code]
    constructor
    · rintro ⟨declaration, declared, rfl⟩
      exact ⟨declared, rfl, rfl⟩
    · rintro ⟨declared, start, stop⟩
      refine ⟨symbol.declaration, declared, ?_⟩
      rw [← start] at stop ⊢
      rw [← stop]
  · rw [if_neg code]
    constructor
    · intro absurdity
      cases absurdity
    · rintro ⟨isCode, -⟩
      exact absurd isCode code

/-- The lines that are still to come, with the lines above them already gone through. -/
theorem symbolsFrom_eq (above lines : List (List Char)) :
    symbolsFrom ((above ++ lines).length - 1) above.length lines =
      (lines.zipIdx above.length).filterMap (symbolAt (above ++ lines)) := by
  -- The induction moves one line at a time from `lines` to the end of `above`.
  induction lines generalizing above with
  | nil => rfl
  | cons line lines ih =>
      have shifted : above ++ line :: lines = (above ++ [line]) ++ lines := by simp
      have length : above.length + 1 = (above ++ [line]).length := by simp
      rw [symbolsFrom, List.zipIdx_cons, List.filterMap_cons, symbolAt, length]
      by_cases code : LineKind.classify line = .code
      · have isCode := Line.isCode_eq_true_iff.mpr code
        have stop : (closingLineFrom? above.length line lines).getD
            ((above ++ line :: lines).length - 1) =
            blockEnd (above ++ line :: lines) above.length := by
          rw [closingLineFrom?_eq isCode, blockEnd, List.drop_left]
        rw [if_pos isCode, if_pos code, stop, shifted, ih]
        cases Declaration.read? line with
        | none => rfl
        | some declaration => rfl
      · rw [if_neg (mt Line.isCode_eq_true_iff.mp code), if_neg code, shifted, ih]

theorem symbols_eq (lines : List (List Char)) :
    symbols lines = lines.zipIdx.filterMap (symbolAt lines) :=
  symbolsFrom_eq [] lines

/-- A symbol belongs to the code line that declares it. -/
theorem mem_symbols_iff {lines : List (List Char)} {symbol : OutlineSymbol} :
    symbol ∈ symbols lines ↔
      ∃ line, lines[symbol.startLine]? = some line ∧ LineKind.classify line = .code ∧
        Declaration.read? line = some symbol.declaration ∧
        symbol.endLine = blockEnd lines symbol.startLine := by
  rw [symbols_eq, List.mem_filterMap]
  constructor
  · rintro ⟨⟨line, index⟩, membership, found⟩
    rcases symbolAt_eq_some_iff.mp found with ⟨code, declared, rfl, stop⟩
    exact ⟨line, List.mk_mem_zipIdx_iff_getElem?.mp membership, code, declared, stop⟩
  · rintro ⟨line, here, code, declared, stop⟩
    refine ⟨(line, symbol.startLine), List.mk_mem_zipIdx_iff_getElem?.mpr here, ?_⟩
    exact symbolAt_eq_some_iff.mpr ⟨code, declared, rfl, stop⟩

theorem startLine_lt_of_mem {lines : List (List Char)} {symbol : OutlineSymbol}
    (membership : symbol ∈ symbols lines) : symbol.startLine < lines.length := by
  rcases mem_symbols_iff.mp membership with ⟨line, here, -⟩
  exact (List.getElem?_eq_some_iff.mp here).1

theorem map_declaration_symbols (lines : List (List Char)) :
    (symbols lines).map (fun symbol => (symbol.startLine, symbol.declaration)) =
      lines.zipIdx.filterMap fun (line, index) =>
        if LineKind.classify line = .code then (Declaration.read? line).map (index, ·)
        else none := by
  rw [symbols_eq, List.map_filterMap]
  apply List.filterMap_congr
  rintro ⟨line, index⟩ -
  by_cases code : LineKind.classify line = .code
  · simp [symbolAt, code, Function.comp_def]
  · simp [symbolAt, code]

theorem pairwise_startLine (lines : List (List Char)) :
    (symbols lines).Pairwise fun upper lower => upper.startLine < lower.startLine := by
  have numbered : lines.zipIdx.Pairwise fun upper lower => upper.2 < lower.2 := by
    rw [← List.pairwise_map, List.zipIdx_map_snd]
    exact List.pairwise_lt_range'
  rw [symbols_eq]
  refine numbered.filterMap _ ?_
  intro upper lower above upperSymbol upperFound lowerSymbol lowerFound
  rcases symbolAt_eq_some_iff.mp upperFound with ⟨-, -, upperStart, -⟩
  rcases symbolAt_eq_some_iff.mp lowerFound with ⟨-, -, lowerStart, -⟩
  rwa [upperStart, lowerStart]

theorem bounds_of_mem {lines : List (List Char)} {symbol : OutlineSymbol}
    (membership : symbol ∈ symbols lines) :
    symbol.startLine ≤ symbol.endLine ∧ symbol.endLine < lines.length := by
  rcases mem_symbols_iff.mp membership with ⟨-, -, -, -, stop⟩
  rw [stop]
  exact blockEnd_bounds (startLine_lt_of_mem membership)

theorem nested_of_mem {lines : List (List Char)} {outer inner : OutlineSymbol}
    (outerMembership : outer ∈ symbols lines) (innerMembership : inner ∈ symbols lines)
    (above : outer.startLine < inner.startLine) :
    outer.endLine < inner.startLine ∨ inner.endLine ≤ outer.endLine := by
  rcases mem_symbols_iff.mp outerMembership with ⟨-, -, -, -, outerStop⟩
  rcases mem_symbols_iff.mp innerMembership with ⟨-, -, -, -, innerStop⟩
  rw [outerStop, innerStop]
  exact blockEnd_nested above (startLine_lt_of_mem innerMembership)

end Outline

/-! ## What an editor is shown -/

namespace OutlineItem

variable (catalog : Catalog) (document : Document)

/-- A lower line ends at a later place, however short it is. -/
theorem lineEnd_le {upper lower : Nat} (le : upper ≤ lower) (fits : lower < UInt32.size) :
    Position.sent upper (columns (document.line upper)) ≤
      .sent lower (columns (document.line lower)) := by
  rcases Nat.lt_or_eq_of_le le with lt | rfl
  · exact .inl (Position.wrap_lt_wrap lt fits)
  · exact .inr ⟨rfl, Nat.le_refl _⟩

theorem selection_within_span {symbol : OutlineSymbol}
    (le : symbol.startLine ≤ symbol.endLine) (fits : symbol.endLine < UInt32.size) :
    (ofSymbol catalog document symbol).selection.Within
      (ofSymbol catalog document symbol).span := by
  constructor
  · exact .inr ⟨rfl, Nat.le_refl 0⟩
  · exact lineEnd_le document le fits

theorem span_before {outer inner : OutlineSymbol} (apart : outer.endLine < inner.startLine)
    (fits : inner.startLine < UInt32.size) :
    (ofSymbol catalog document outer).span.Before (ofSymbol catalog document inner).span :=
  .inl (Position.wrap_lt_wrap apart fits)

theorem span_within {outer inner : OutlineSymbol} (above : outer.startLine < inner.startLine)
    (fits : inner.startLine < UInt32.size) (le : inner.endLine ≤ outer.endLine)
    (outerFits : outer.endLine < UInt32.size) :
    (ofSymbol catalog document inner).span.Within (ofSymbol catalog document outer).span := by
  constructor
  · exact .inl (Position.wrap_lt_wrap above fits)
  · exact lineEnd_le document le outerFits

end OutlineItem

namespace Outline

/-- The symbols of a document are the declarations on its code lines, from the top down, with
blocks inside the document that are nested or apart; so are the spans that are answered, if every
line has a number that can be sent. -/
theorem symbols_form_outline (document : Document) (catalog : Catalog) :
    let lines := (Lines.split document.content.toList).contents
    let symbols := Outline.ofText document.content
    (symbols.map (fun symbol => (symbol.startLine, symbol.declaration)) =
      lines.zipIdx.filterMap fun (line, index) =>
        if LineKind.classify line = .code then (Declaration.read? line).map (index, ·)
        else none) ∧
      (symbols.map OutlineSymbol.startLine).Pairwise (· < ·) ∧
      (∀ symbol ∈ symbols,
        symbol.startLine ≤ symbol.endLine ∧ symbol.endLine < lines.length) ∧
      (∀ outer ∈ symbols, ∀ inner ∈ symbols, outer.startLine < inner.startLine →
        outer.endLine < inner.startLine ∨ inner.endLine ≤ outer.endLine) ∧
      (lines.length ≤ UInt32.size →
        ∀ (workspace : Workspace) (url : Url), workspace.document? url = some document →
          ∃ items, workspace.answer catalog (.outline url) = .outline items ∧
            items.map (fun item => (item.span.start.line, item.span.stop.line)) =
              symbols.map (fun symbol => (symbol.startLine, symbol.endLine)) ∧
            (∀ item ∈ items, item.selection.Within item.span) ∧
            items.Pairwise fun outer inner =>
              outer.span.Before inner.span ∨ inner.span.Within outer.span) := by
  intro lines symbols
  have increasing := pairwise_startLine lines
  refine ⟨map_declaration_symbols lines, List.pairwise_map.mpr increasing,
    fun symbol => bounds_of_mem, fun outer outerMembership inner => nested_of_mem outerMembership,
    ?_⟩
  intro numbered workspace url here
  have startFits : ∀ symbol ∈ symbols, symbol.startLine < UInt32.size := fun symbol listed =>
    Nat.lt_of_lt_of_le (startLine_lt_of_mem listed) numbered
  have endFits : ∀ symbol ∈ symbols, symbol.endLine < UInt32.size := fun symbol listed =>
    Nat.lt_of_lt_of_le (bounds_of_mem listed).2 numbered
  refine ⟨document.outlineItems catalog, ?_, ?_, ?_, ?_⟩
  · rw [Workspace.answer, here, Option.elim_some]
  · rw [Document.outlineItems, List.map_map]
    apply List.map_congr_left
    intro symbol listed
    exact Prod.ext (Position.wrap_of_lt (startFits symbol listed))
      (Position.wrap_of_lt (endFits symbol listed))
  · intro item membership
    rcases List.mem_map.mp membership with ⟨symbol, listed, rfl⟩
    exact OutlineItem.selection_within_span catalog document (bounds_of_mem listed).1
      (endFits symbol listed)
  · rw [Document.outlineItems, List.pairwise_map]
    refine increasing.imp_of_mem ?_
    intro outer inner outerListed innerListed above
    have innerFits := startFits inner innerListed
    rcases nested_of_mem outerListed innerListed above with apart | nested
    · exact .inl (OutlineItem.span_before catalog document apart innerFits)
    · exact .inr (OutlineItem.span_within catalog document above innerFits nested
        (endFits outer outerListed))

/-- One block inside another, and one behind both that is never closed. -/
theorem symbols_form_outline_nested_and_apart :
    let document : Document :=
      ⟨"a \"x\" \x7b\n b \"y\" \x7b\n \x7d\n\x7d\nc \"z\" \x7b\n", "alloy"⟩
    let url : Url := ⟨"untitled", none, "a", none, none⟩
    Outline.ofText document.content =
        [⟨⟨"a", "x"⟩, 0, 3⟩, ⟨⟨"b", "y"⟩, 1, 2⟩, ⟨⟨"c", "z"⟩, 4, 5⟩] ∧
      ∃ items, (Workspace.empty.put url document).answer .builtin (.outline url) =
          .outline items ∧
        items.map (fun item => (item.span.start.line, item.span.stop.line)) =
          [(0, 3), (1, 2), (4, 5)] ∧
        (∀ item ∈ items, item.selection.Within item.span) ∧
        items.Pairwise fun outer inner =>
          outer.span.Before inner.span ∨ inner.span.Within outer.span := by
  intro document url
  have opened : (Workspace.empty.put url document).document? url = some document := by
    rw [Workspace.document?_put, if_pos rfl]
  have symbols : Outline.ofText document.content =
      [⟨⟨"a", "x"⟩, 0, 3⟩, ⟨⟨"b", "y"⟩, 1, 2⟩, ⟨⟨"c", "z"⟩, 4, 5⟩] := by decide
  refine ⟨symbols, ?_⟩
  rcases (symbols_form_outline document .builtin).2.2.2.2 (by decide) _ url opened with
    ⟨items, answered, lines, selections, spans⟩
  rw [symbols] at lines
  exact ⟨items, answered, lines, selections, spans⟩

/-! ## More lines than can be numbered -/

/-- A block that is opened on the first line and never closed, in front of blank lines. -/
def unclosed (blankLines : Nat) : Lines :=
  ⟨false, ⟨"a \"x\" \x7b".toList, .lf⟩ :: List.replicate blankLines ⟨[], .lf⟩, []⟩

theorem wellFormed_unclosed (blankLines : Nat) : (unclosed blankLines).WellFormed where
  closed := by
    rw [unclosed, List.forall_mem_cons]
    refine ⟨⟨by decide, by decide⟩, ?_⟩
    intro line membership
    rw [List.eq_of_mem_replicate membership]
    exact ⟨by decide, by decide⟩
  last := List.not_mem_nil
  mark := by
    intro _
    change "a \"x\" \x7b".toList.head? ≠ some byteOrderMark
    decide

theorem contents_unclosed (blankLines : Nat) :
    (unclosed blankLines).contents =
      "a \"x\" \x7b".toList :: (List.replicate blankLines [] ++ [[]]) := by
  simp [unclosed, Lines.contents]

theorem mem_symbols_unclosed (blankLines : Nat) :
    ⟨⟨"a", "x"⟩, 0, blankLines + 1⟩ ∈ symbols (unclosed blankLines).contents := by
  have blank : ∀ line ∈ List.replicate blankLines [] ++ [[]], ¬Line.isCode line = true := by
    intro line membership
    rcases List.mem_append.mp membership with above | last
    · rw [List.eq_of_mem_replicate above]
      decide
    · rw [List.mem_singleton.mp last]
      decide
  have runs : closingLineFrom? 0 "a \"x\" \x7b".toList (List.replicate blankLines [] ++ [[]]) =
      none := closingLine?_eq_none blank 1 1
  rw [closingLineFrom?_eq (by decide)] at runs
  have declared : Declaration.read? "a \"x\" \x7b".toList = some ⟨"a", "x"⟩ := by decide
  rw [mem_symbols_iff, contents_unclosed]
  refine ⟨_, rfl, by decide, declared, ?_⟩
  rw [blockEnd, List.drop_zero, runs]
  simp

/-- The text of these lines, as an open document. -/
def unclosedDocument (blankLines : Nat) : Document :=
  ⟨String.ofList (unclosed blankLines).join, "alloy"⟩

theorem split_unclosedDocument (blankLines : Nat) :
    Lines.split (unclosedDocument blankLines).content.toList = unclosed blankLines := by
  rw [unclosedDocument, String.toList_ofList, Lines.split_join (wellFormed_unclosed blankLines)]

theorem line_zero_unclosedDocument (blankLines : Nat) :
    (unclosedDocument blankLines).line 0 = "a \"x\" \x7b".toList := by
  rw [Document.line_eq_getD, Document.getElem?_lines, split_unclosedDocument, contents_unclosed]
  simp [Lines.markAt, unclosed]

theorem line_last_unclosedDocument (blankLines : Nat) :
    (unclosedDocument blankLines).line (blankLines + 1) = [] := by
  rw [Document.line_eq_getD, Document.getElem?_lines, split_unclosedDocument, contents_unclosed]
  simp [Lines.markAt, Document.hideReturn]

/-- If the last line is sent as the first one, the block is shown to end in front of the end of
its own declaration. -/
theorem exists_selection_not_within_span {blankLines : Nat}
    (wraps : Position.wrap (blankLines + 1) = 0) (catalog : Catalog) :
    ∃ item ∈ (unclosedDocument blankLines).outlineItems catalog,
      ¬item.selection.Within item.span := by
  have listed : ⟨⟨"a", "x"⟩, 0, blankLines + 1⟩ ∈
      Outline.ofText (unclosedDocument blankLines).content := by
    rw [ofText, split_unclosedDocument]
    exact mem_symbols_unclosed blankLines
  refine ⟨_, List.mem_map_of_mem listed, ?_⟩
  rintro ⟨-, above | ⟨-, inFront⟩⟩
  · change Position.wrap 0 < Position.wrap (blankLines + 1) at above
    rw [wraps] at above
    exact Nat.not_lt_zero _ above
  · change Position.wrap (columns ((unclosedDocument blankLines).line 0)) ≤
      Position.wrap (columns ((unclosedDocument blankLines).line (blankLines + 1))) at inFront
    rw [line_zero_unclosedDocument, line_last_unclosedDocument] at inFront
    exact absurd inFront (by decide)

/-- A declaration need not be shown as part of its block: the block may end on the first line that
has no number to be sent. -/
theorem not_forall_selection_within_span :
    ¬∀ (document : Document) (catalog : Catalog) (workspace : Workspace) (url : Url)
        (items : List OutlineItem),
      workspace.document? url = some document →
      workspace.answer catalog (.outline url) = .outline items →
      ∀ item ∈ items, item.selection.Within item.span := by
  intro claim
  have wraps : Position.wrap (UInt32.size - 1 + 1) = 0 := by decide
  rcases exists_selection_not_within_span wraps .builtin with ⟨item, listed, outside⟩
  generalize unclosedDocument (UInt32.size - 1) = document at listed
  let url : Url := ⟨"untitled", none, "a", none, none⟩
  have opened : (Workspace.empty.put url document).document? url = some document := by
    rw [Workspace.document?_put, if_pos rfl]
  have answered : (Workspace.empty.put url document).answer .builtin (.outline url) =
      .outline (document.outlineItems .builtin) := by
    rw [Workspace.answer, opened, Option.elim_some]
  exact outside (claim document .builtin _ url _ opened answered item listed)

end Outline

end AlloyAssist
