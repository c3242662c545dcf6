import AlloyAssist.Text.Blank
import Mathlib.Data.List.DropRight
import Mathlib.Data.List.TakeWhile

/-!
# Trimming

Trimming takes blanks from both ends of a text and nothing else. Every text is its
trimmed core between two runs of blanks, and blanks put around a text never change
that core. Whatever looks only at the core is therefore blind to layout.
-/

namespace AlloyAssist.Text

/-- A text that holds nothing but blanks. -/
def AllBlank (text : List Char) : Prop :=
  ∀ c ∈ text, isBlank c = true

instance (text : List Char) : Decidable (AllBlank text) :=
  inferInstanceAs (Decidable (∀ c ∈ text, isBlank c = true))

@[simp] theorem allBlank_nil : AllBlank [] := by
  intro c membership
  cases membership

@[simp] theorem allBlank_cons {c : Char} {text : List Char} :
    AllBlank (c :: text) ↔ isBlank c = true ∧ AllBlank text := by
  simp [AllBlank]

@[simp] theorem allBlank_append {left right : List Char} :
    AllBlank (left ++ right) ↔ AllBlank left ∧ AllBlank right := by
  simp [AllBlank, or_imp, forall_and]

theorem allBlank_replicate_space (count : Nat) : AllBlank (List.replicate count ' ') := by
  intro c membership
  rw [List.eq_of_mem_replicate membership]
  rfl

theorem AllBlank.not_mem {blanks : List Char} (blank : AllBlank blanks) {c : Char}
    (solid : isBlank c = false) : c ∉ blanks := by
  intro membership
  rw [blank c membership] at solid
  cases solid

theorem AllBlank.count_eq_zero {blanks : List Char} (blank : AllBlank blanks) {c : Char}
    (solid : isBlank c = false) : blanks.count c = 0 :=
  List.count_eq_zero_of_not_mem (blank.not_mem solid)

/-- A solid character found in front of a run of blanks was there before the blanks were
added. -/
theorem exists_of_append_eq {text blanks front rest : List Char} {c : Char}
    (blank : AllBlank blanks) (solid : isBlank c = false)
    (equal : text ++ blanks = front ++ c :: rest) : ∃ behind, text = front ++ c :: behind := by
  have outside := blank.not_mem solid
  rcases List.append_eq_append_iff.mp equal with ⟨more, -, blanksEq⟩ | ⟨more, textEq, restEq⟩
  · exact absurd (by rw [blanksEq]; simp) outside
  · cases more with
    | nil => exact absurd (by rw [← List.nil_append blanks, ← restEq]; simp) outside
    | cons other behind =>
        rcases List.cons.inj restEq with ⟨rfl, -⟩
        exact ⟨behind, textEq⟩

/-! ## One end at a time -/

theorem trimStart_append {blanks : List Char} (blank : AllBlank blanks) (text : List Char) :
    trimStart (blanks ++ text) = trimStart text :=
  List.dropWhile_append_of_pos blank

theorem trimEnd_append {blanks : List Char} (blank : AllBlank blanks) (text : List Char) :
    trimEnd (text ++ blanks) = trimEnd text := by
  simp only [trimEnd, List.reverse_append]
  rw [List.dropWhile_append_of_pos]
  intro c membership
  exact blank c (List.mem_reverse.mp membership)

theorem trimStart_eq_nil_iff {text : List Char} : trimStart text = [] ↔ AllBlank text :=
  List.dropWhile_eq_nil_iff

theorem exists_eq_append_trimStart (text : List Char) :
    ∃ blanks, AllBlank blanks ∧ text = blanks ++ trimStart text :=
  ⟨text.takeWhile isBlank, fun _ membership => List.mem_takeWhile_imp membership,
    List.takeWhile_append_dropWhile.symm⟩

theorem exists_eq_trimEnd_append (text : List Char) :
    ∃ blanks, AllBlank blanks ∧ text = trimEnd text ++ blanks := by
  refine ⟨text.rtakeWhile isBlank, fun c membership => List.mem_rtakeWhile_imp membership, ?_⟩
  exact (List.rdropWhile_append_rtakeWhile ..).symm

theorem solid_of_head?_trimStart {text : List Char} {c : Char}
    (front : (trimStart text).head? = some c) : isBlank c = false := by
  have solid := List.head?_dropWhile_not isBlank text
  rw [← trimStart, front] at solid
  simpa using solid

theorem solid_of_getLast?_trimEnd {text : List Char} {c : Char}
    (back : (trimEnd text).getLast? = some c) : isBlank c = false := by
  rw [trimEnd, List.getLast?_reverse] at back
  exact solid_of_head?_trimStart back

theorem trimEnd_eq_self {text : List Char}
    (solid : ∀ c ∈ text.getLast?, isBlank c = false) : trimEnd text = text := by
  rcases exists_eq_trimEnd_append text with ⟨blanks, blank, split⟩
  cases back : blanks.getLast? with
  | none =>
      rw [List.getLast?_eq_none_iff.mp back, List.append_nil] at split
      exact split.symm
  | some c =>
      have last : text.getLast? = some c := by rw [split, List.getLast?_append, back]; rfl
      have blankLast := blank c (List.mem_of_getLast? back)
      rw [solid c last] at blankLast
      cases blankLast

theorem trimStart_eq_self {text : List Char}
    (solid : ∀ c ∈ text.head?, isBlank c = false) : trimStart text = text := by
  cases text with
  | nil => rfl
  | cons c text => exact trimStart_cons_of_not_isBlank (solid c rfl)

theorem trimStart_eq_self_iff {text : List Char} :
    trimStart text = text ↔ ∀ c ∈ text.head?, isBlank c = false := by
  constructor
  · intro equal c front
    rw [← equal] at front
    exact solid_of_head?_trimStart front
  · exact trimStart_eq_self

/-- Unless nothing is left, a text ends as before when its front is trimmed. -/
theorem getLast?_trimStart {text : List Char} (solid : trimStart text ≠ []) :
    (trimStart text).getLast? = text.getLast? := by
  rcases exists_eq_append_trimStart text with ⟨blanks, -, split⟩
  conv_rhs => rw [split, List.getLast?_append_of_ne_nil _ solid]

@[simp] theorem trimStart_trimStart (text : List Char) :
    trimStart (trimStart text) = trimStart text :=
  trimStart_eq_self fun _ front => solid_of_head?_trimStart front

theorem trimEnd_cons_of_not_isBlank {c : Char} {text : List Char} (solid : isBlank c = false) :
    trimEnd (c :: text) = c :: trimEnd text := by
  simp only [trimEnd, List.reverse_cons, List.dropWhile_append]
  split
  next gone =>
    rw [List.isEmpty_iff.mp gone]
    simp [solid]
  next kept => simp

/-! ## Both ends -/

/-- A text is its core between two runs of blanks. -/
theorem exists_eq_append_trim (text : List Char) :
    ∃ left right, AllBlank left ∧ AllBlank right ∧ text = left ++ trim text ++ right := by
  rcases exists_eq_append_trimStart text with ⟨left, leftBlank, leftSplit⟩
  rcases exists_eq_trimEnd_append (trimStart text) with ⟨right, rightBlank, rightSplit⟩
  refine ⟨left, right, leftBlank, rightBlank, ?_⟩
  rw [trim, List.append_assoc, ← rightSplit, ← leftSplit]

theorem trim_append {blanks : List Char} (blank : AllBlank blanks) (text : List Char) :
    trim (text ++ blanks) = trim text := by
  simp only [trim, trimStart, List.dropWhile_append]
  split
  next gone =>
    rw [List.isEmpty_iff.mp gone, List.dropWhile_eq_nil_iff.mpr blank]
  next kept => exact trimEnd_append blank _

theorem trim_append_append {left right : List Char} (leftBlank : AllBlank left)
    (rightBlank : AllBlank right) (text : List Char) :
    trim (left ++ text ++ right) = trim text := by
  rw [trim_append rightBlank, trim, trimStart_append leftBlank, trim]

@[simp] theorem trim_trim (text : List Char) : trim (trim text) = trim text := by
  rcases exists_eq_append_trim text with ⟨left, right, leftBlank, rightBlank, frame⟩
  conv_rhs => rw [frame, trim_append_append leftBlank rightBlank]

theorem trim_eq_trimStart {text : List Char}
    (solid : ∀ c ∈ text.getLast?, isBlank c = false) : trim text = trimStart text := by
  rcases exists_eq_append_trimStart text with ⟨blanks, -, split⟩
  apply trimEnd_eq_self
  intro c back
  apply solid
  rw [split, List.getLast?_append, back]
  rfl

theorem trim_eq_nil_iff {text : List Char} : trim text = [] ↔ AllBlank text := by
  constructor
  · intro gone
    rcases exists_eq_append_trim text with ⟨left, right, leftBlank, rightBlank, frame⟩
    rw [frame, gone]
    simp [leftBlank, rightBlank]
  · intro blank
    rw [trim, trimStart_eq_nil_iff.mpr blank, trimEnd_nil]

/-- Trimming loses no solid character. -/
theorem count_trim {c : Char} (solid : isBlank c = false) (text : List Char) :
    (trim text).count c = text.count c := by
  rcases exists_eq_append_trim text with ⟨left, right, leftBlank, rightBlank, frame⟩
  conv_rhs => rw [frame]
  simp [leftBlank.count_eq_zero solid, rightBlank.count_eq_zero solid]

theorem mem_of_mem_trim {c : Char} {text : List Char} (membership : c ∈ trim text) :
    c ∈ text := by
  rcases exists_eq_append_trim text with ⟨left, right, -, -, frame⟩
  rw [frame]
  simp [membership]

/-- The core of a text starts where the text has its first solid character. -/
theorem head?_trim (text : List Char) : (trim text).head? = (trimStart text).head? := by
  rw [trim]
  cases front : trimStart text with
  | nil => rfl
  | cons c rest =>
      have solid : isBlank c = false := solid_of_head?_trimStart (by rw [front]; rfl)
      rw [trimEnd_cons_of_not_isBlank solid, List.head?_cons, List.head?_cons]

theorem solid_of_getLast?_trim {text : List Char} {c : Char}
    (back : (trim text).getLast? = some c) : isBlank c = false :=
  solid_of_getLast?_trimEnd back

/-! ## What is left without blanks -/

/-- The characters of a text that are not blank. -/
def solids (text : List Char) : List Char :=
  text.filter fun c => !isBlank c

@[simp] theorem solids_append (left right : List Char) :
    solids (left ++ right) = solids left ++ solids right :=
  List.filter_append left right

theorem solids_eq_nil_iff {text : List Char} : solids text = [] ↔ AllBlank text := by
  simp [solids, AllBlank]

@[simp] theorem solids_trim (text : List Char) : solids (trim text) = solids text := by
  rcases exists_eq_append_trim text with ⟨left, right, leftBlank, rightBlank, frame⟩
  conv_rhs => rw [frame]
  rw [solids_append, solids_append, solids_eq_nil_iff.mpr leftBlank,
    solids_eq_nil_iff.mpr rightBlank, List.nil_append, List.append_nil]

/-- The core of a text ends where the text has its last solid character. -/
theorem getLast?_trim (text : List Char) : (trim text).getLast? = (solids text).getLast? := by
  rw [← solids_trim]
  cases back : (trim text).getLast? with
  | none =>
      rw [List.getLast?_eq_none_iff.mp back]
      rfl
  | some c =>
      rcases List.getLast?_eq_some_iff.mp back with ⟨front, split⟩
      rw [split, solids_append, solids, solids, List.filter_cons_of_pos]
      · rw [List.filter_nil, List.getLast?_concat]
      · rw [solid_of_getLast?_trim back, Bool.not_false]

/-- Behind a solid character, a text ends at that character if nothing but blanks follows, and
otherwise where what follows ends. -/
theorem getLast?_trim_append_cons {c : Char} (solid : isBlank c = false) (front rest : List Char) :
    (trim (front ++ c :: rest)).getLast? = some ((trim rest).getLast?.getD c) := by
  have behind : solids (c :: rest) = c :: solids rest := by
    apply List.filter_cons_of_pos
    rw [solid, Bool.not_false]
  rw [getLast?_trim, getLast?_trim, solids_append, behind,
    List.getLast?_append_of_ne_nil _ (List.cons_ne_nil _ _), List.getLast?_cons]

end AlloyAssist.Text
