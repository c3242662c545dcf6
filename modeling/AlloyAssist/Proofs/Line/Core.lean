import AlloyAssist.Line.Kind
import AlloyAssist.Proofs.Line.Grammar

/-!
# The core of a line

Every question asked of a line is answered by its trimmed core: what kind of line it is,
what it declares or sets, and how many braces and quotes it holds. Lines that differ in
their layout only are therefore the same line to everything that asks.
-/

namespace AlloyAssist

open Text

@[simp] theorem LineKind.classify_trim (line : List Char) :
    LineKind.classify (trim line) = LineKind.classify line := by
  simp only [LineKind.classify, trim_trim]

/-- A reader that passes over the blanks in front of a line, and reads nothing else when
blanks are put behind it, reads the core of the line. -/
theorem Line.read_trim {α : Type} {read : List Char → Option α}
    (front : ∀ text, read (trimStart text) = read text)
    (back : ∀ text blanks, AllBlank blanks →
      ∀ found, read (text ++ blanks) = some found ↔ read text = some found)
    (line : List Char) : read (trim line) = read line := by
  rcases exists_eq_trimEnd_append (trimStart line) with ⟨blanks, blank, split⟩
  rw [← front line]
  ext found
  rw [trim, ← back _ blanks blank, ← split]

namespace Declaration

theorem Opens.of_append {declaration : Declaration} {text blanks : List Char}
    (blank : AllBlank blanks) (opens : declaration.Opens (text ++ blanks)) :
    declaration.Opens text := by
  rcases opens with
    ⟨indent, gap, space, rest, indentBlank, gapBlank, gapped, spaceBlank, name, unquoted, equal⟩
  have brace : text ++ blanks = (indent ++ declaration.typeName.toList ++ gap ++
      '"' :: (declaration.label.toList ++ '"' :: space)) ++ '{' :: rest := by
    simpa only [List.append_assoc, List.cons_append] using equal
  rcases exists_of_append_eq blank rfl brace with ⟨behind, textEq⟩
  refine ⟨indent, gap, space, behind, indentBlank, gapBlank, gapped, spaceBlank, name, unquoted, ?_⟩
  simpa only [List.append_assoc, List.cons_append] using textEq

theorem Opens.append {declaration : Declaration} {text : List Char}
    (opens : declaration.Opens text) (more : List Char) : declaration.Opens (text ++ more) := by
  rcases opens with
    ⟨indent, gap, space, rest, indentBlank, gapBlank, gapped, spaceBlank, name, unquoted, rfl⟩
  refine ⟨indent, gap, space, rest ++ more, indentBlank, gapBlank, gapped, spaceBlank, name,
    unquoted, ?_⟩
  simp only [List.append_assoc, List.cons_append]

@[simp] theorem read?_trim (line : List Char) : read? (trim line) = read? line := by
  apply Line.read_trim
  · intro text
    simp only [read?, trimStart_trimStart]
  · intro text blanks blank declaration
    rw [read?_eq_some_iff, read?_eq_some_iff]
    exact ⟨Opens.of_append blank, fun opens => opens.append blanks⟩

end Declaration

namespace Attribute

theorem Opens.of_append {name : String} {text blanks : List Char} (blank : AllBlank blanks)
    (opens : Opens name (text ++ blanks)) : Opens name text := by
  rcases opens with ⟨indent, space, rest, indentBlank, spaceBlank, isName, equal⟩
  rcases exists_of_append_eq blank rfl equal with ⟨behind, textEq⟩
  exact ⟨indent, space, behind, indentBlank, spaceBlank, isName, textEq⟩

theorem Opens.append {name : String} {text : List Char} (opens : Opens name text)
    (more : List Char) : Opens name (text ++ more) := by
  rcases opens with ⟨indent, space, rest, indentBlank, spaceBlank, isName, rfl⟩
  refine ⟨indent, space, rest ++ more, indentBlank, spaceBlank, isName, ?_⟩
  simp only [List.append_assoc, List.cons_append]

@[simp] theorem read?_trim (line : List Char) : read? (trim line) = read? line := by
  apply Line.read_trim
  · intro text
    simp only [read?, trimStart_trimStart]
  · intro text blanks blank name
    rw [read?_eq_some_iff, read?_eq_some_iff]
    exact ⟨Opens.of_append blank, fun opens => opens.append blanks⟩

end Attribute

namespace Line

@[simp] theorem isCode_trim (line : List Char) : isCode (trim line) = isCode line := by
  simp only [isCode, LineKind.classify_trim]

@[simp] theorem braceDelta_trim (line : List Char) : braceDelta (trim line) = braceDelta line := by
  rw [braceDelta, count_trim rfl, count_trim rfl, braceDelta]

@[simp] theorem quoteCount_trim (line : List Char) : quoteCount (trim line) = quoteCount line :=
  count_trim rfl line

end Line

end AlloyAssist
