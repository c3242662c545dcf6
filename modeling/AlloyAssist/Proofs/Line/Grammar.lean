import AlloyAssist.Line.Declaration
import AlloyAssist.Proofs.Text.Trim

/-!
# What declarations and attributes look like

The readers of `Declaration` and `Attribute` take the longest run of characters at
every point. The grammars here say instead that a line can be written in a certain way,
and the readers accept exactly the lines that can. That the longest run never loses a
reading comes from classes of characters that do not meet: blanks, the characters of
names, and the quote, brace or equals sign that ends a run.
-/

namespace AlloyAssist

open Text

namespace Line

/-! ## Classes of characters -/

theorem isTypeChar_iff_toNat (c : Char) :
    isTypeChar c = true ↔
      65 ≤ c.toNat ∧ c.toNat ≤ 90 ∨ 97 ≤ c.toNat ∧ c.toNat ≤ 122 ∨
        48 ≤ c.toNat ∧ c.toNat ≤ 57 ∨ c.toNat = 95 ∨ c.toNat = 46 := by
  have underscore : c = '_' ↔ c.toNat = 95 := Char.toNat_inj.symm
  have dot : c = '.' ↔ c.toNat = 46 := Char.toNat_inj.symm
  have letter : c.isAlpha = true ↔
      65 ≤ c.toNat ∧ c.toNat ≤ 90 ∨ 97 ≤ c.toNat ∧ c.toNat ≤ 122 := by
    change (decide (c.val ≥ 'A'.val ∧ c.val ≤ 'Z'.val) ||
      (decide (c.val ≥ 'a'.val) && decide (c.val ≤ 'z'.val))) = true ↔ _
    simp only [Bool.or_eq_true, Bool.and_eq_true, decide_eq_true_eq, ge_iff_le,
      UInt32.le_iff_toNat_le]
    rfl
  have digit : c.isDigit = true ↔ 48 ≤ c.toNat ∧ c.toNat ≤ 57 := by
    simp only [Char.isDigit, Bool.and_eq_true, decide_eq_true_eq, ge_iff_le,
      UInt32.le_iff_toNat_le]
    rfl
  simp only [isTypeChar, isNameChar, Char.isAlphanum, Bool.or_eq_true, beq_iff_eq, letter, digit,
    underscore, dot]
  omega

theorem isTypeChar_of_isBlank {c : Char} (blank : isBlank c = true) : isTypeChar c = false := by
  simp only [isBlank, blankRanges, List.any_cons, List.any_nil, Bool.or_false, Bool.or_eq_true,
    Bool.and_eq_true, decide_eq_true_eq] at blank
  rw [← Bool.not_eq_true, isTypeChar_iff_toNat]
  omega

theorem isTypeChar_of_isNameChar {c : Char} (name : isNameChar c = true) :
    isTypeChar c = true := by
  simp [isTypeChar, name]

theorem isNameChar_of_isNameStart {c : Char} (start : isNameStart c = true) :
    isNameChar c = true := by
  simp only [isNameStart, isNameChar, Char.isAlphanum, Bool.or_eq_true] at start ⊢
  exact start.imp_left .inl

theorem solid_of_isNameStart {c : Char} (start : isNameStart c = true) : isBlank c = false := by
  have typeChar := isTypeChar_of_isNameChar (isNameChar_of_isNameStart start)
  rw [← Bool.not_eq_true]
  intro blank
  rw [isTypeChar_of_isBlank blank] at typeChar
  cases typeChar

/-- A name: a first character and any number of characters of a class. -/
def IsName (isPart : Char → Bool) (name : List Char) : Prop :=
  ∃ c rest, name = c :: rest ∧ isNameStart c = true ∧ ∀ part ∈ rest, isPart part = true

/-! ## Runs of a class -/

/-- A run of a class ends where something else follows. -/
theorem span_append {isPart : Char → Bool} {run : List Char}
    (inside : ∀ c ∈ run, isPart c = true) (rest : List Char)
    (outside : ∀ c ∈ rest.head?, isPart c = false) :
    (run ++ rest).takeWhile isPart = run ∧ (run ++ rest).dropWhile isPart = rest := by
  rw [List.takeWhile_append_of_pos inside, List.dropWhile_append_of_pos inside]
  cases rest with
  | nil => simp
  | cons c rest => simp [outside c rfl]

/-- A run up to a character ends where it is met first, or with the text. -/
theorem span_until {stop : Char} {run : List Char} (free : stop ∉ run) (rest : List Char)
    (ends : ∀ c ∈ rest.head?, c = stop) :
    (run ++ rest).takeWhile (· != stop) = run ∧ (run ++ rest).dropWhile (· != stop) = rest := by
  apply span_append
  · intro c membership
    exact bne_iff_ne.mpr fun equal => free (equal ▸ membership)
  · intro c front
    rw [ends c front, bne_self_eq_false]

end Line

/-! ## Declarations -/

namespace Declaration

/-- A quoted label and an opening brace, with blanks in front of either. -/
def OpensLabel (label text : List Char) : Prop :=
  ∃ gap space rest : List Char, AllBlank gap ∧ AllBlank space ∧ '"' ∉ label ∧
    text = gap ++ '"' :: (label ++ '"' :: (space ++ '{' :: rest))

/-- A line that opens with a declaration: a type, blanks, a quoted label and an opening
brace, with blanks in front of the type and of the brace. -/
def Opens (declaration : Declaration) (line : List Char) : Prop :=
  ∃ indent gap space rest : List Char,
    AllBlank indent ∧ AllBlank gap ∧ gap ≠ [] ∧ AllBlank space ∧
      Line.IsName Line.isTypeChar declaration.typeName.toList ∧
      '"' ∉ declaration.label.toList ∧
      line = indent ++ declaration.typeName.toList ++ gap ++
        '"' :: (declaration.label.toList ++ '"' :: (space ++ '{' :: rest))

theorem opensLabel_of_readLabel? {text label : List Char} (read : readLabel? text = some label) :
    OpensLabel label text := by
  rcases exists_eq_append_trimStart text with ⟨gap, gapBlank, gapSplit⟩
  unfold readLabel? at read
  split at read
  next rest opened =>
    split at read
    next tail closed =>
      split at read
      next behind braced =>
        rcases exists_eq_append_trimStart tail with ⟨space, spaceBlank, spaceSplit⟩
        cases read
        refine ⟨gap, space, behind, gapBlank, spaceBlank, ?_, ?_⟩
        · intro membership
          simpa using List.mem_takeWhile_imp membership
        · rw [← braced, ← spaceSplit, ← closed, List.takeWhile_append_dropWhile, ← opened]
          exact gapSplit
      next => cases read
    next => cases read
  next => cases read

theorem readLabel?_of_opensLabel {text label : List Char} (opens : OpensLabel label text) :
    readLabel? text = some label := by
  rcases opens with ⟨gap, space, rest, gapBlank, spaceBlank, unquoted, rfl⟩
  rcases Line.span_until unquoted ('"' :: (space ++ '{' :: rest)) (by simp) with ⟨taken, dropped⟩
  have opened : trimStart (gap ++ '"' :: (label ++ '"' :: (space ++ '{' :: rest))) =
      '"' :: (label ++ '"' :: (space ++ '{' :: rest)) := by
    rw [trimStart_append gapBlank, trimStart_cons_of_not_isBlank rfl]
  have braced : trimStart (space ++ '{' :: rest) = '{' :: rest := by
    rw [trimStart_append spaceBlank, trimStart_cons_of_not_isBlank rfl]
  simp only [readLabel?, opened, dropped, braced, taken]

theorem opens_of_read? {line : List Char} {declaration : Declaration}
    (read : read? line = some declaration) : declaration.Opens line := by
  rcases exists_eq_append_trimStart line with ⟨indent, indentBlank, indentSplit⟩
  unfold read? at read
  split at read
  next => cases read
  next c rest opened =>
    split at read
    next start =>
      split at read
      next => cases read
      next gap tail ended =>
        split at read
        next gapBlank =>
          rcases Option.map_eq_some_iff.mp read with ⟨label, labelRead, rfl⟩
          rcases opensLabel_of_readLabel? labelRead with
            ⟨more, space, behind, moreBlank, spaceBlank, unquoted, rfl⟩
          refine ⟨indent, gap :: more, space, behind, indentBlank,
            allBlank_cons.mpr ⟨gapBlank, moreBlank⟩, List.cons_ne_nil _ _, spaceBlank, ?_, ?_, ?_⟩
          · rw [String.toList_ofList]
            exact ⟨c, _, rfl, start, fun part membership => List.mem_takeWhile_imp membership⟩
          · rwa [String.toList_ofList]
          · rw [String.toList_ofList, String.toList_ofList]
            calc
              line = indent ++ c :: rest := by rw [← opened]; exact indentSplit
              _ = indent ++ c :: (rest.takeWhile Line.isTypeChar ++
                    rest.dropWhile Line.isTypeChar) := by rw [List.takeWhile_append_dropWhile]
              _ = _ := by rw [ended]; simp only [List.append_assoc, List.cons_append]
        next => cases read
    next => cases read

theorem read?_of_opens {line : List Char} {declaration : Declaration}
    (opens : declaration.Opens line) : read? line = some declaration := by
  rcases opens with
    ⟨indent, gap, space, rest, indentBlank, gapBlank, gapped, spaceBlank,
      ⟨c, parts, nameEq, start, inside⟩, unquoted, rfl⟩
  rcases List.exists_cons_of_ne_nil gapped with ⟨first, more, rfl⟩
  rcases allBlank_cons.mp gapBlank with ⟨firstBlank, moreBlank⟩
  have labelRead := readLabel?_of_opensLabel
    ⟨more, space, rest, moreBlank, spaceBlank, unquoted, rfl⟩
  rcases Line.span_append inside
      (first :: (more ++ '"' :: (declaration.label.toList ++ '"' :: (space ++ '{' :: rest))))
      (by simpa using Line.isTypeChar_of_isBlank firstBlank) with ⟨taken, dropped⟩
  have opened : trimStart (indent ++ declaration.typeName.toList ++ first :: more ++
      '"' :: (declaration.label.toList ++ '"' :: (space ++ '{' :: rest))) =
      c :: (parts ++ first ::
        (more ++ '"' :: (declaration.label.toList ++ '"' :: (space ++ '{' :: rest)))) := by
    rw [List.append_assoc, List.append_assoc, trimStart_append indentBlank, nameEq,
      List.cons_append, trimStart_cons_of_not_isBlank (Line.solid_of_isNameStart start)]
    rfl
  simp only [read?, opened, start, dropped, firstBlank, labelRead, taken, if_true, ← nameEq,
    Option.map_some, String.ofList_toList]

/-- Declarations are read off exactly the lines that open with them. -/
theorem read?_eq_some_iff {line : List Char} {declaration : Declaration} :
    read? line = some declaration ↔ declaration.Opens line :=
  ⟨opens_of_read?, read?_of_opens⟩

end Declaration

/-! ## Attributes -/

namespace Attribute

/-- A line that opens with an attribute: a name and an equals sign, with blanks in front
of either. -/
def Opens (name : String) (line : List Char) : Prop :=
  ∃ indent space rest : List Char, AllBlank indent ∧ AllBlank space ∧
    Line.IsName Line.isNameChar name.toList ∧
      line = indent ++ name.toList ++ space ++ '=' :: rest

theorem opens_of_read? {line : List Char} {name : String} (read : read? line = some name) :
    Opens name line := by
  rcases exists_eq_append_trimStart line with ⟨indent, indentBlank, indentSplit⟩
  unfold read? at read
  split at read
  next => cases read
  next c rest opened =>
    split at read
    next start =>
      split at read
      next behind ended =>
        rcases exists_eq_append_trimStart (rest.dropWhile Line.isNameChar) with
          ⟨space, spaceBlank, spaceSplit⟩
        cases read
        refine ⟨indent, space, behind, indentBlank, spaceBlank, ?_, ?_⟩
        · rw [String.toList_ofList]
          exact ⟨c, _, rfl, start, fun part membership => List.mem_takeWhile_imp membership⟩
        · rw [String.toList_ofList]
          calc
            line = indent ++ c :: rest := by rw [← opened]; exact indentSplit
            _ = indent ++ c :: (rest.takeWhile Line.isNameChar ++
                  rest.dropWhile Line.isNameChar) := by rw [List.takeWhile_append_dropWhile]
            _ = indent ++ c :: (rest.takeWhile Line.isNameChar ++ (space ++ '=' :: behind)) := by
                  rw [← ended, ← spaceSplit]
            _ = _ := by simp only [List.append_assoc, List.cons_append]
      next => cases read
    next => cases read

theorem read?_of_opens {line : List Char} {name : String} (opens : Opens name line) :
    read? line = some name := by
  rcases opens with
    ⟨indent, space, rest, indentBlank, spaceBlank, ⟨c, parts, nameEq, start, inside⟩, rfl⟩
  have outside : ∀ c ∈ (space ++ '=' :: rest).head?, Line.isNameChar c = false := by
    cases space with
    | nil => simp [Line.isNameChar, Char.isAlphanum]
    | cons first more =>
        have notType := Line.isTypeChar_of_isBlank (allBlank_cons.mp spaceBlank).1
        simpa [Line.isTypeChar] using (Bool.or_eq_false_iff.mp notType).1
  rcases Line.span_append inside (space ++ '=' :: rest) outside with ⟨taken, dropped⟩
  have opened : trimStart (indent ++ name.toList ++ space ++ '=' :: rest) =
      c :: (parts ++ (space ++ '=' :: rest)) := by
    rw [List.append_assoc, List.append_assoc, trimStart_append indentBlank, nameEq,
      List.cons_append, trimStart_cons_of_not_isBlank (Line.solid_of_isNameStart start)]
  have ended : trimStart (space ++ '=' :: rest) = '=' :: rest := by
    rw [trimStart_append spaceBlank, trimStart_cons_of_not_isBlank rfl]
  simp only [read?, opened, start, dropped, ended, taken, if_true, ← nameEq, String.ofList_toList]

/-- Attributes are read off exactly the lines that open with them. -/
theorem read?_eq_some_iff {line : List Char} {name : String} :
    read? line = some name ↔ Opens name line :=
  ⟨opens_of_read?, read?_of_opens⟩

end Attribute

end AlloyAssist
