import AlloyAssist.Proofs.Line.Grammar

/-!
# One way to read a line

A reading cuts a line into the parts that its grammar names. It is data, not only the fact that
the line can be cut, so that two readings can be compared part by part. No line has two: each
part is a run of one class of characters, and what follows it starts with a character of another,
so every cut is where the class ends. For the same reason a line that opens with a declaration
does not open with an attribute.

The classes of characters in names are spelled out here, apart from the tests that the readers
make.
-/

namespace AlloyAssist

open Text

namespace Line

/-! ## Names, spelled out -/

/-- Letters and the underscore. -/
def StartsName (c : Char) : Prop :=
  'A' ≤ c ∧ c ≤ 'Z' ∨ 'a' ≤ c ∧ c ≤ 'z' ∨ c = '_'

/-- Letters, digits and the underscore. -/
def ContinuesName (c : Char) : Prop :=
  StartsName c ∨ '0' ≤ c ∧ c ≤ '9'

/-- Letters, digits, the underscore and the dot. -/
def ContinuesType (c : Char) : Prop :=
  ContinuesName c ∨ c = '.'

/-- A first character that starts names, and any number of characters of a class. -/
def SpellsName (continues : Char → Prop) (name : List Char) : Prop :=
  ∃ c rest, name = c :: rest ∧ StartsName c ∧ ∀ part ∈ rest, continues part

theorem isNameStart_iff {c : Char} : isNameStart c = true ↔ StartsName c := by
  change (decide (c.val ≥ 'A'.val ∧ c.val ≤ 'Z'.val) ||
    (decide (c.val ≥ 'a'.val) && decide (c.val ≤ 'z'.val)) || c == '_') = true ↔ _
  simp only [Bool.or_eq_true, Bool.and_eq_true, decide_eq_true_eq, beq_iff_eq, or_assoc]
  rfl

theorem isNameChar_iff {c : Char} : isNameChar c = true ↔ ContinuesName c := by
  have digit : c.isDigit = true ↔ '0' ≤ c ∧ c ≤ '9' := by
    simp only [Char.isDigit, Bool.and_eq_true, decide_eq_true_eq]
    rfl
  rw [ContinuesName, ← isNameStart_iff, ← digit]
  simp only [isNameChar, isNameStart, Char.isAlphanum, Bool.or_eq_true]
  exact or_right_comm

theorem isTypeChar_iff {c : Char} : isTypeChar c = true ↔ ContinuesType c := by
  rw [ContinuesType, ← isNameChar_iff, isTypeChar, Bool.or_eq_true, beq_iff_eq]

theorem isName_iff_spellsName {isPart : Char → Bool} {continues : Char → Prop}
    (agree : ∀ {c}, isPart c = true ↔ continues c) {name : List Char} :
    IsName isPart name ↔ SpellsName continues name := by
  simp only [IsName, SpellsName, isNameStart_iff, agree]

/-! ## Runs -/

/-- A run of a class that ends where something else follows. -/
structure IsRun (isPart : Char → Bool) (run rest : List Char) : Prop where
  inside : ∀ c ∈ run, isPart c = true
  outside : ∀ c ∈ rest.head?, isPart c = false

/-- A text starts with one run of a class only. -/
theorem IsRun.unique {isPart : Char → Bool} {run rest other behind : List Char}
    (left : IsRun isPart run rest) (right : IsRun isPart other behind)
    (equal : run ++ rest = other ++ behind) : run = other ∧ rest = behind := by
  rcases span_append left.inside rest left.outside with ⟨leftTaken, leftDropped⟩
  rcases span_append right.inside behind right.outside with ⟨rightTaken, rightDropped⟩
  constructor
  · rw [← leftTaken, equal, rightTaken]
  · rw [← leftDropped, equal, rightDropped]

theorem isRun_isBlank {blanks rest : List Char} {c : Char} (blank : AllBlank blanks)
    (solid : isBlank c = false) : IsRun isBlank blanks (c :: rest) := by
  refine ⟨blank, ?_⟩
  intro first front
  rw [Option.mem_some.mp front] at solid
  exact solid

theorem isRun_isBlank_name {blanks name rest : List Char} {continues : Char → Prop}
    (blank : AllBlank blanks) (spelled : SpellsName continues name) :
    IsRun isBlank blanks (name ++ rest) := by
  rcases spelled with ⟨c, parts, rfl, start, -⟩
  exact isRun_isBlank blank (solid_of_isNameStart (isNameStart_iff.mpr start))

/-- A name ends at the blanks behind it, or at the character behind these. Taken as a run of the
widest class, the name of an attribute ends where a component type does. -/
theorem SpellsName.isRun {continues : Char → Prop} {name blanks rest : List Char} {c : Char}
    (spelled : SpellsName continues name) (goesOn : ∀ {part}, continues part → ContinuesType part)
    (blank : AllBlank blanks) (outside : isTypeChar c = false) :
    IsRun isTypeChar name (blanks ++ c :: rest) := by
  rcases spelled with ⟨start, parts, rfl, starts, inside⟩
  constructor
  · intro part membership
    apply isTypeChar_iff.mpr
    rcases List.mem_cons.mp membership with rfl | behind
    · exact .inl (.inl starts)
    · exact goesOn (inside part behind)
  · intro first front
    cases blanks with
    | nil =>
        rw [List.nil_append, List.head?_cons, Option.mem_some] at front
        rw [← front, outside]
    | cons firstBlank more =>
        rw [List.cons_append, List.head?_cons, Option.mem_some] at front
        rw [← front]
        exact isTypeChar_of_isBlank (allBlank_cons.mp blank).1

end Line

/-! ## Declarations -/

namespace Declaration

/-- A line cut into the parts of a declaration. -/
@[ext] structure Reading (line : List Char) where
  indent : List Char
  typeName : List Char
  gap : List Char
  label : List Char
  space : List Char
  rest : List Char
  indentBlank : AllBlank indent
  isType : Line.SpellsName Line.ContinuesType typeName
  gapBlank : AllBlank gap
  gapped : gap ≠ []
  unquoted : '"' ∉ label
  spaceBlank : AllBlank space
  spelled : line =
    indent ++ (typeName ++ (gap ++ '"' :: (label ++ '"' :: (space ++ '{' :: rest))))

namespace Reading

variable {line : List Char}

/-- What is declared. -/
def declaration (reading : Reading line) : Declaration :=
  ⟨String.ofList reading.typeName, String.ofList reading.label⟩

theorem isRun_typeName (reading : Reading line) (tail : List Char) :
    Line.IsRun Line.isTypeChar reading.typeName (reading.gap ++ '"' :: tail) :=
  reading.isType.isRun id reading.gapBlank rfl

theorem isRun_label (reading : Reading line) (tail : List Char) :
    Line.IsRun (· != '"') reading.label ('"' :: tail) := by
  constructor
  · intro c membership
    exact bne_iff_ne.mpr fun equal => reading.unquoted (equal ▸ membership)
  · simp

/-- Every cut of a declaration is where it has to be. -/
theorem unique (left right : Reading line) : left = right := by
  have equal := left.spelled.symm.trans right.spelled
  rcases (Line.isRun_isBlank_name left.indentBlank left.isType).unique
    (Line.isRun_isBlank_name right.indentBlank right.isType) equal with ⟨indentEq, equal⟩
  rcases (left.isRun_typeName _).unique (right.isRun_typeName _) equal with ⟨typeEq, equal⟩
  rcases (Line.isRun_isBlank left.gapBlank rfl).unique
    (Line.isRun_isBlank right.gapBlank rfl) equal with ⟨gapEq, equal⟩
  rcases (left.isRun_label _).unique (right.isRun_label _) (List.cons.inj equal).2 with
    ⟨labelEq, equal⟩
  rcases (Line.isRun_isBlank left.spaceBlank rfl).unique
    (Line.isRun_isBlank right.spaceBlank rfl) (List.cons.inj equal).2 with ⟨spaceEq, equal⟩
  exact Reading.ext indentEq typeEq gapEq labelEq spaceEq (List.cons.inj equal).2

end Reading

/-- A line opens with a declaration if it has a reading that declares it. -/
theorem opens_iff_exists_reading {line : List Char} {declaration : Declaration} :
    declaration.Opens line ↔ ∃ reading : Reading line, reading.declaration = declaration := by
  constructor
  · rintro ⟨indent, gap, space, rest, indentBlank, gapBlank, gapped, spaceBlank, name, unquoted,
      equal⟩
    have isType := (Line.isName_iff_spellsName Line.isTypeChar_iff).mp name
    refine ⟨⟨indent, _, gap, _, space, rest, indentBlank, isType, gapBlank, gapped, unquoted,
      spaceBlank, ?_⟩, ?_⟩
    · simpa only [List.append_assoc] using equal
    · simp only [Reading.declaration, String.ofList_toList]
  · rintro ⟨reading, rfl⟩
    have name := (Line.isName_iff_spellsName Line.isTypeChar_iff).mpr reading.isType
    refine ⟨reading.indent, reading.gap, reading.space, reading.rest, reading.indentBlank,
      reading.gapBlank, reading.gapped, reading.spaceBlank, ?_, ?_, ?_⟩
    · simpa only [Reading.declaration, String.toList_ofList] using name
    · simpa only [Reading.declaration, String.toList_ofList] using reading.unquoted
    · simpa only [Reading.declaration, String.toList_ofList, List.append_assoc]
        using reading.spelled

end Declaration

/-! ## Attributes -/

namespace Attribute

/-- A line cut into the parts of an attribute. -/
@[ext] structure Reading (line : List Char) where
  indent : List Char
  name : List Char
  space : List Char
  rest : List Char
  indentBlank : AllBlank indent
  isName : Line.SpellsName Line.ContinuesName name
  spaceBlank : AllBlank space
  spelled : line = indent ++ (name ++ (space ++ '=' :: rest))

namespace Reading

variable {line : List Char}

/-- What is set. -/
def target (reading : Reading line) : String :=
  String.ofList reading.name

theorem isRun_name (reading : Reading line) (tail : List Char) :
    Line.IsRun Line.isTypeChar reading.name (reading.space ++ '=' :: tail) :=
  reading.isName.isRun .inl reading.spaceBlank rfl

/-- Every cut of an attribute is where it has to be. -/
theorem unique (left right : Reading line) : left = right := by
  have equal := left.spelled.symm.trans right.spelled
  rcases (Line.isRun_isBlank_name left.indentBlank left.isName).unique
    (Line.isRun_isBlank_name right.indentBlank right.isName) equal with ⟨indentEq, equal⟩
  rcases (left.isRun_name _).unique (right.isRun_name _) equal with ⟨nameEq, equal⟩
  rcases (Line.isRun_isBlank left.spaceBlank rfl).unique
    (Line.isRun_isBlank right.spaceBlank rfl) equal with ⟨spaceEq, equal⟩
  exact Reading.ext indentEq nameEq spaceEq (List.cons.inj equal).2

/-- The name of an attribute would be the type of a declaration, and then an equals sign would
stand where the quote does. -/
theorem not_declaration (reading : Reading line) (declaration : Declaration.Reading line) :
    False := by
  have equal := reading.spelled.symm.trans declaration.spelled
  rcases (Line.isRun_isBlank_name reading.indentBlank reading.isName).unique
    (Line.isRun_isBlank_name declaration.indentBlank declaration.isType) equal with ⟨-, equal⟩
  rcases (reading.isRun_name _).unique (declaration.isRun_typeName _) equal with ⟨-, equal⟩
  rcases (Line.isRun_isBlank reading.spaceBlank rfl).unique
    (Line.isRun_isBlank declaration.gapBlank rfl) equal with ⟨-, equal⟩
  exact absurd (List.cons.inj equal).1 (by decide)

end Reading

/-- A line opens with an attribute if it has a reading that sets it. -/
theorem opens_iff_exists_reading {line : List Char} {name : String} :
    Opens name line ↔ ∃ reading : Reading line, reading.target = name := by
  constructor
  · rintro ⟨indent, space, rest, indentBlank, spaceBlank, isName, equal⟩
    have spelled := (Line.isName_iff_spellsName Line.isNameChar_iff).mp isName
    refine ⟨⟨indent, _, space, rest, indentBlank, spelled, spaceBlank, ?_⟩, ?_⟩
    · simpa only [List.append_assoc] using equal
    · simp only [Reading.target, String.ofList_toList]
  · rintro ⟨reading, rfl⟩
    have isName := (Line.isName_iff_spellsName Line.isNameChar_iff).mpr reading.isName
    refine ⟨reading.indent, reading.space, reading.rest, reading.indentBlank,
      reading.spaceBlank, ?_, ?_⟩
    · simpa only [Reading.target, String.toList_ofList] using isName
    · simpa only [Reading.target, String.toList_ofList, List.append_assoc]
        using reading.spelled

end Attribute

/-- The readers accept exactly the lines that have a reading and return what it tells. A line has
one reading of either kind at most, and not one of both. -/
theorem Line.readers_accept_unambiguous_grammars (line : List Char) :
    (∀ declaration, Declaration.read? line = some declaration ↔
      ∃ reading : Declaration.Reading line, reading.declaration = declaration) ∧
      (∀ left right : Declaration.Reading line, left = right) ∧
      (∀ name, Attribute.read? line = some name ↔
        ∃ reading : Attribute.Reading line, reading.target = name) ∧
      (∀ left right : Attribute.Reading line, left = right) ∧
      ¬((Declaration.read? line).isSome = true ∧ (Attribute.read? line).isSome = true) := by
  have declarations : ∀ declaration, Declaration.read? line = some declaration ↔
      ∃ reading : Declaration.Reading line, reading.declaration = declaration := by
    intro declaration
    rw [Declaration.read?_eq_some_iff, Declaration.opens_iff_exists_reading]
  have attributes : ∀ name, Attribute.read? line = some name ↔
      ∃ reading : Attribute.Reading line, reading.target = name := by
    intro name
    rw [Attribute.read?_eq_some_iff, Attribute.opens_iff_exists_reading]
  refine ⟨declarations, Declaration.Reading.unique, attributes, Attribute.Reading.unique, ?_⟩
  rintro ⟨declares, sets⟩
  rcases Option.isSome_iff_exists.mp declares with ⟨declaration, declared⟩
  rcases Option.isSome_iff_exists.mp sets with ⟨name, set⟩
  rcases (declarations declaration).mp declared with ⟨declarationReading, -⟩
  rcases (attributes name).mp set with ⟨attributeReading, -⟩
  exact attributeReading.not_declaration declarationReading

end AlloyAssist
