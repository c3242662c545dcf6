import AlloyAssist.Catalog.Suggestion
import AlloyAssist.Proofs.Document.Layout
import AlloyAssist.Proofs.Document.Problems
import AlloyAssist.Proofs.Line.Unambiguous

/-!
# Inserting a suggested component

A suggestion is chosen, its snippet is inserted, and the places that the snippet leaves open are
filled in. For a component the result is a block of three lines that holds nothing yet. Whatever
looks at documents has its own idea of such a block: reading its head, looking its type up,
counting its braces and quotes, and telling how deep its lines are. `Declaration.emptyBlock`
writes the lines of the block down once, each of these is asked about them, and what is inserted
is shown to be their text.
-/

namespace AlloyAssist

open Text

/-! ## Filling in places -/

namespace Suggestion

/-- A place that a snippet leaves open, as it is written there, and what goes into it. -/
structure Filling where
  place : List Char
  value : List Char

/-- Fill in the places of a text from its start on. What goes into them is not searched again. -/
def fill (fillings : List Filling) : List Char → List Char
  | [] => []
  | c :: text =>
      match fillings.find? fun filling => filling.place.isPrefixOf (c :: text) with
      | some filling => filling.value ++ fill fillings (text.drop (filling.place.length - 1))
      | none => c :: fill fillings text
termination_by text => text.length

/-- The place of the label. -/
def labelPlace : List Char := "$\x7b1:label\x7d".toList

/-- The place of whatever the block is to hold. -/
def bodyPlace : List Char := "$\x7b2\x7d".toList

/-- What is inserted once the label is filled in and the block is left empty. -/
def inserted (suggestion : Suggestion) (label : String) : String :=
  String.ofList (fill [⟨labelPlace, label.toList⟩, ⟨bodyPlace, []⟩] suggestion.snippet.toList)

variable {fillings : List Filling}

/-- Places start with a dollar sign, so a run without one is copied. -/
theorem fill_append (marked : ∀ filling ∈ fillings, filling.place.head? = some '$')
    {run : List Char} (free : '$' ∉ run) (rest : List Char) :
    fill fillings (run ++ rest) = run ++ fill fillings rest := by
  induction run with
  | nil => rfl
  | cons c run ih =>
      simp only [List.mem_cons, not_or] at free
      have nowhere : (fillings.find? fun filling =>
          filling.place.isPrefixOf (c :: (run ++ rest))) = none := by
        rw [List.find?_eq_none]
        intro filling membership starts
        rcases List.head?_eq_some_iff.mp (marked filling membership) with ⟨more, place⟩
        rw [place, List.isPrefixOf_iff_prefix, List.cons_prefix_cons] at starts
        exact free.1 starts.1
      rw [List.cons_append, fill, nowhere, ih free.2, List.cons_append]

theorem fill_place {filling : Filling} (written : filling.place ≠ []) {rest : List Char}
    (found : (fillings.find? fun other => other.place.isPrefixOf (filling.place ++ rest)) =
      some filling) :
    fill fillings (filling.place ++ rest) = filling.value ++ fill fillings rest := by
  rcases List.exists_cons_of_ne_nil written with ⟨c, place, spelled⟩
  have behind : (place ++ rest).drop (filling.place.length - 1) = rest := by
    rw [spelled, List.length_cons, Nat.add_sub_cancel, List.drop_left]
  rw [spelled, List.cons_append] at found
  rw [spelled, List.cons_append, fill, found]
  exact congrArg (filling.value ++ fill fillings ·) behind

theorem toList_inserted {name : String} (free : '$' ∉ name.toList) (description : Option String)
    (label : String) :
    (inserted ⟨.component, name, description⟩ label).toList =
      (name.toList ++ [' ', '"']) ++ (label.toList ++
        ['"', ' ', '{', '\n', ' ', ' ', '\n', '}']) := by
  have snippet : (snippet ⟨.component, name, description⟩).toList =
      (name.toList ++ [' ', '"']) ++ (labelPlace ++
        (['"', ' ', '{', '\n', ' ', ' '] ++ (bodyPlace ++ (['\n', '}'] ++ [])))) := by
    change (name ++ " \"$\x7b1:label\x7d\" \x7b\n  $\x7b2\x7d\n\x7d").toList = _
    rw [String.toList_append, List.append_assoc]
    rfl
  let fillings : List Filling := [⟨labelPlace, label.toList⟩, ⟨bodyPlace, []⟩]
  have marked : ∀ filling ∈ fillings, filling.place.head? = some '$' := by
    simp only [fillings, List.mem_cons, List.not_mem_nil, or_false, forall_eq_or_imp, forall_eq]
    exact ⟨rfl, rfl⟩
  have labelled : ∀ rest, fill fillings (labelPlace ++ rest) = label.toList ++ fill fillings rest :=
    fun rest => @fill_place fillings ⟨labelPlace, label.toList⟩ (List.cons_ne_nil _ _) rest rfl
  have emptied : ∀ rest, fill fillings (bodyPlace ++ rest) = fill fillings rest :=
    fun rest => @fill_place fillings ⟨bodyPlace, []⟩ (List.cons_ne_nil _ _) rest rfl
  have ended : fill fillings [] = [] := by rw [fill]
  rw [inserted, String.toList_ofList, snippet, fill_append marked (by simp [free]), labelled,
    fill_append marked (by decide), emptied, fill_append marked (by decide), ended]
  rfl

end Suggestion

/-! ## A block that holds nothing -/

theorem LineKind.classify_of_isNameStart {line : List Char} {c : Char}
    (front : (trim line).head? = some c) (start : Line.isNameStart c = true) :
    classify line = .code := by
  rcases List.head?_eq_some_iff.mp front with ⟨rest, core⟩
  have solid : c ≠ '/' := by
    rintro rfl
    cases start
  unfold classify
  rw [core]
  split
  next gone => cases gone
  next equal => exact absurd (List.cons.inj equal).1 solid
  next equal => exact absurd (List.cons.inj equal).1 solid
  next => rfl

theorem Line.IsName.isTypeChar {name : List Char} (named : IsName Line.isTypeChar name) {c : Char}
    (membership : c ∈ name) : Line.isTypeChar c = true := by
  rcases named with ⟨first, rest, rfl, start, inside⟩
  rcases List.mem_cons.mp membership with rfl | later
  · exact isTypeChar_of_isNameChar (isNameChar_of_isNameStart start)
  · exact inside c later

namespace Declaration

/-- The line that opens a block of the declaration. -/
def headLine (declaration : Declaration) : List Char :=
  declaration.typeName.toList ++ [' ', '"'] ++ (declaration.label.toList ++ ['"', ' ', '{'])

/-- A block of the declaration that holds nothing yet. -/
def emptyBlock (declaration : Declaration) : Lines where
  hasMark := false
  closed := [⟨declaration.headLine, .lf⟩, ⟨[' ', ' '], .lf⟩]
  last := ['}']

theorem contents_emptyBlock (declaration : Declaration) :
    declaration.emptyBlock.contents = [declaration.headLine, [' ', ' '], ['}']] := rfl

/-- The type is a name, and nothing in the label ends the label, its line or its block. -/
structure Plain (declaration : Declaration) : Prop where
  named : Line.IsName Line.isTypeChar declaration.typeName.toList
  unquoted : '"' ∉ declaration.label.toList
  unopened : '{' ∉ declaration.label.toList
  unclosed : '}' ∉ declaration.label.toList
  unbroken : '\n' ∉ declaration.label.toList

namespace Plain

variable {declaration : Declaration}

theorem read?_headLine (plain : declaration.Plain) :
    read? declaration.headLine = some declaration := by
  rw [read?_eq_some_iff]
  refine ⟨[], [' '], [' '], [], allBlank_nil, ?_, by simp, ?_, plain.named, plain.unquoted, ?_⟩
  · exact allBlank_replicate_space 1
  · exact allBlank_replicate_space 1
  · simp [headLine]

/-- What neither the type nor the label holds is counted around them. -/
theorem count_headLine (plain : declaration.Plain) {c : Char} (other : Line.isTypeChar c = false)
    (absent : c ∉ declaration.label.toList) :
    declaration.headLine.count c = [' ', '"', '"', ' ', '{'].count c := by
  have outside : c ∉ declaration.typeName.toList := by
    intro membership
    rw [plain.named.isTypeChar membership] at other
    cases other
  simp only [headLine, List.count_append, List.count_cons, List.count_nil,
    List.count_eq_zero_of_not_mem outside, List.count_eq_zero_of_not_mem absent]
  omega

theorem braceDelta_headLine (plain : declaration.Plain) :
    Line.braceDelta declaration.headLine = 1 := by
  rw [Line.braceDelta, plain.count_headLine rfl plain.unopened,
    plain.count_headLine rfl plain.unclosed]
  rfl

theorem quoteCount_headLine (plain : declaration.Plain) :
    Line.quoteCount declaration.headLine = 2 := by
  rw [Line.quoteCount, plain.count_headLine rfl plain.unquoted]
  rfl

theorem getLast?_headLine (declaration : Declaration) :
    declaration.headLine.getLast? = some '{' := by
  rw [headLine, List.getLast?_append, List.getLast?_append]
  rfl

theorem head?_headLine (plain : declaration.Plain) :
    ∃ c, declaration.headLine.head? = some c ∧ Line.isNameStart c = true := by
  rcases plain.named with ⟨c, rest, spelled, start, -⟩
  exact ⟨c, by rw [headLine, spelled]; rfl, start⟩

theorem trim_headLine (plain : declaration.Plain) :
    trim declaration.headLine = declaration.headLine := by
  rcases plain.head?_headLine with ⟨c, front, start⟩
  rw [trim_eq_trimStart, trimStart_eq_self]
  · rw [front]
    rintro _ ⟨rfl⟩
    exact Line.solid_of_isNameStart start
  · rw [getLast?_headLine]
    rintro _ ⟨rfl⟩
    rfl

theorem classify_headLine (plain : declaration.Plain) :
    LineKind.classify declaration.headLine = .code := by
  rcases plain.head?_headLine with ⟨c, front, start⟩
  exact LineKind.classify_of_isNameStart (by rw [plain.trim_headLine, front]) start

theorem wellFormed_emptyBlock (plain : declaration.Plain) :
    declaration.emptyBlock.WellFormed where
  closed := by
    have unbroken : '\n' ∉ declaration.headLine := by
      rw [← List.count_eq_zero, plain.count_headLine rfl plain.unbroken]
      rfl
    simp only [emptyBlock, List.mem_cons, List.not_mem_nil, or_false, forall_eq_or_imp, forall_eq]
    refine ⟨⟨unbroken, ?_⟩, by decide, by decide⟩
    intro _
    simp [getLast?_headLine]
  last := by simp [emptyBlock]
  mark := by
    intro _
    rcases plain.head?_headLine with ⟨c, front, start⟩
    change declaration.headLine.head? ≠ _
    rw [front]
    rintro ⟨rfl⟩
    cases start

/-- Nothing is wrong with the head of a block whose type is accepted, unless it has no label. -/
theorem lineProblems_headLine (plain : declaration.Plain) {catalog : Catalog}
    (accepted : catalog.accepts declaration.typeName = true)
    (labelled : ¬AllBlank declaration.label.toList) :
    Check.lineProblems catalog [] declaration.headLine = [] := by
  rw [List.eq_nil_iff_forall_not_mem]
  intro problem found
  rw [Check.mem_lineProblems_iff, plain.read?_headLine, Check.mem_attributeProblems_iff,
    Check.mem_quoteProblems_iff, plain.quoteCount_headLine, plain.trim_headLine,
    getLast?_headLine] at found
  rcases found with ⟨_, ⟨rfl⟩, found⟩ | ⟨_, -, -, ⟨⟩⟩ | ⟨-, ⟨⟩, -⟩
  rcases Check.mem_declarationProblems_iff.mp found with ⟨-, ⟨⟩⟩ | ⟨-, unknown⟩ | ⟨-, gone⟩
  · exact unknown accepted
  · exact labelled (trim_eq_nil_iff.mp gone)

theorem issues_emptyBlock (plain : declaration.Plain) {catalog : Catalog}
    (accepted : catalog.accepts declaration.typeName = true)
    (labelled : ¬AllBlank declaration.label.toList) :
    Check.issues catalog declaration.emptyBlock.contents = [] := by
  have code := Line.isCode_eq_true_iff.mpr plain.classify_headLine
  have balance : Check.braceBalance declaration.emptyBlock.contents = 0 := by
    rw [contents_emptyBlock, Check.braceBalance_cons_of_isCode code, plain.braceDelta_headLine]
    rfl
  rw [Check.issues, balance, contents_emptyBlock, Check.lineIssues, if_pos code,
    plain.lineProblems_headLine accepted labelled]
  rfl

theorem symbols_emptyBlock (plain : declaration.Plain) :
    Outline.symbols declaration.emptyBlock.contents = [⟨declaration, 0, 2⟩] := by
  have code := Line.isCode_eq_true_iff.mpr plain.classify_headLine
  have closing : Outline.closingLineFrom? 0 declaration.headLine [[' ', ' '], ['}']] = some 2 := by
    rw [Outline.closingLineFrom?, plain.braceDelta_headLine]
    rfl
  rw [Outline.symbols, contents_emptyBlock, Outline.symbolsFrom, if_pos code, plain.read?_headLine,
    closing]
  rfl

theorem layOut_emptyBlock (plain : declaration.Plain) :
    Indentation.layOut declaration.emptyBlock = declaration.emptyBlock := by
  have moved : Indentation.isKept declaration.headLine = false := by
    rw [Indentation.isKept, plain.classify_headLine]
  have below : Indentation.nextLevel 0 declaration.headLine = 1 := by
    rw [Indentation.nextLevel, moved, plain.trim_headLine, getLast?_headLine,
      Indentation.ownLevel_zero]
    rfl
  rw [Indentation.layOut_eq_self_iff, contents_emptyBlock, Indentation.placeLines,
    Indentation.place_zero_of_not_isKept moved, plain.trim_headLine, below]
  rfl

end Plain

end Declaration

/-! ## What is inserted -/

namespace Suggestion

/-- What is inserted for a component is the text of a block that holds nothing. -/
theorem toList_inserted_eq_join {declaration : Declaration} (plain : declaration.Plain)
    (description : Option String) :
    (inserted ⟨.component, declaration.typeName, description⟩ declaration.label).toList =
      declaration.emptyBlock.join := by
  have free : '$' ∉ declaration.typeName.toList := by
    intro membership
    cases plain.named.isTypeChar membership
  rw [toList_inserted free]
  simp [Lines.join, Declaration.emptyBlock, Declaration.headLine, ClosedLine.chars, Ending.chars]

end Suggestion

/-- What is inserted for a listed component is in order: checking finds nothing, the outline lists
the component with all three lines, and laying out changes nothing. The name has to be one that
can be declared. The label has to be more than blanks, and nothing in it may end the label, its
line or its block. -/
theorem Catalog.inserted_component_is_clean (catalog : Catalog) {entry : Entry}
    (listed : entry ∈ catalog.components)
    (named : Line.SpellsName Line.ContinuesType entry.name.toList) {label : String}
    (labelled : ¬AllBlank label.toList)
    (unquoted : '"' ∉ label.toList) (unopened : '{' ∉ label.toList)
    (unclosed : '}' ∉ label.toList) (unbroken : '\n' ∉ label.toList) :
    ∃ suggestion ∈ catalog.suggestions,
      suggestion = ⟨.component, entry.name, entry.description⟩ ∧
      (Report.ofText catalog (suggestion.inserted label)).issues = [] ∧
      Outline.ofText (suggestion.inserted label) = [⟨⟨entry.name, label⟩, 0, 2⟩] ∧
      Indentation.format (suggestion.inserted label) = suggestion.inserted label := by
  let declaration : Declaration := ⟨entry.name, label⟩
  have declarable : declaration.Plain :=
    ⟨(Line.isName_iff_spellsName Line.isTypeChar_iff).mpr named, unquoted, unopened, unclosed,
      unbroken⟩
  have accepted : catalog.accepts declaration.typeName = true :=
    accepts_eq_true_iff.mpr (.inl ⟨entry, listed, rfl⟩)
  have offered : ⟨.component, entry.name, entry.description⟩ ∈ catalog.suggestions :=
    List.mem_append_left _ (List.mem_map.mpr ⟨entry, listed, rfl⟩)
  have text := Suggestion.toList_inserted_eq_join declarable entry.description
  have lines : Lines.split (Suggestion.inserted ⟨.component, entry.name, entry.description⟩
      label).toList = declaration.emptyBlock := by
    rw [text, Lines.split_join declarable.wellFormed_emptyBlock]
  refine ⟨_, offered, rfl, ?_, ?_, ?_⟩
  · rw [Report.ofText, lines]
    exact declarable.issues_emptyBlock accepted labelled
  · rw [Outline.ofText, lines]
    exact declarable.symbols_emptyBlock
  · rw [Indentation.format, lines, declarable.layOut_emptyBlock, ← text, String.ofList_toList]

/-- A label that looks like code, a comment and a place of the snippet, between two blanks. -/
theorem Catalog.inserted_component_is_clean_odd_label :
    ∃ suggestion ∈ builtin.suggestions,
      suggestion = ⟨.component, "discovery.file", none⟩ ∧
      (Report.ofText .builtin (suggestion.inserted "\u00a0x = $1 //\r")).issues = [] ∧
      Outline.ofText (suggestion.inserted "\u00a0x = $1 //\r") =
        [⟨⟨"discovery.file", "\u00a0x = $1 //\r"⟩, 0, 2⟩] ∧
      Indentation.format (suggestion.inserted "\u00a0x = $1 //\r") =
        suggestion.inserted "\u00a0x = $1 //\r" :=
  have named : Line.IsName Line.isTypeChar "discovery.file".toList :=
    ⟨'d', "iscovery.file".toList, rfl, rfl, List.all_eq_true.mp rfl⟩
  have labelled : ¬AllBlank "\u00a0x = $1 //\r".toList :=
    fun blank => Bool.false_ne_true (blank 'x' (by decide))
  @inserted_component_is_clean .builtin ⟨"discovery.file", none⟩ (by decide)
    ((Line.isName_iff_spellsName Line.isTypeChar_iff).mp named) "\u00a0x = $1 //\r" labelled
    (by decide) (by decide) (by decide) (by decide)

end AlloyAssist
