import AlloyAssist.Text.Column

/-!
# Columns and the characters they fall on

The column behind a front part of a text falls on the first character of the rest, and a later
column never falls on an earlier character. The columns from one end of a stretch of text to the
other therefore fall on its characters, or on the place right behind the last of them.

A column is a position in the UTF-16 form of a text. `utf16` writes this form out, and the character
that a column falls on turns out to be the one that is spelled there, whichever half of a pair the
column points at.
-/

namespace AlloyAssist.Text

/-! ## The UTF-16 form of a text -/

/-- The code units that spell a character: its own number, or a pair of surrogates for one outside
the basic plane. -/
def codeUnits (c : Char) : List Nat :=
  if c.toNat < 0x10000 then [c.toNat]
  else [0xD800 + (c.toNat - 0x10000) / 0x400, 0xDC00 + (c.toNat - 0x10000) % 0x400]

/-- The code units that spell a text. -/
def utf16 (text : List Char) : List Nat :=
  text.flatMap codeUnits

theorem length_codeUnits (c : Char) : (codeUnits c).length = unitWidth c := by
  rw [codeUnits, unitWidth]
  split
  · rfl
  · rfl

theorem utf16_cons (c : Char) (text : List Char) : utf16 (c :: text) = codeUnits c ++ utf16 text :=
  List.flatMap_cons

theorem length_utf16 (text : List Char) : (utf16 text).length = columns text := by
  induction text with
  | nil => rfl
  | cons c text ih => rw [utf16_cons, List.length_append, length_codeUnits, ih, columns]

theorem length_le_columns (text : List Char) : text.length ≤ columns text := by
  induction text with
  | nil => exact Nat.le_refl 0
  | cons c text ih =>
      have width := unitWidth_pos c
      rw [List.length_cons, columns]
      omega

/-! ## Characters at columns -/

theorem indexAtColumn_columns (front back : List Char) :
    indexAtColumn (front ++ back) (columns front) = front.length := by
  induction front with
  | nil =>
      cases back with
      | nil => rfl
      | cons c back => simp [indexAtColumn, unitWidth_pos]
  | cons c front ih =>
      have behind : ¬unitWidth c + columns front < unitWidth c := by omega
      simp [indexAtColumn, columns, behind, ih]

theorem indexAtColumn_mono (text : List Char) {left right : Nat} (le : left ≤ right) :
    indexAtColumn text left ≤ indexAtColumn text right := by
  induction text generalizing left right with
  | nil => exact Nat.le_refl 0
  | cons c text ih =>
      rw [indexAtColumn, indexAtColumn]
      split
      · exact Nat.zero_le _
      · rw [if_neg (by omega)]
        apply Nat.succ_le_succ
        apply ih
        omega

/-- The columns of a stretch of text fall on its characters, or right behind them. -/
theorem indexAtColumn_bounds (before word after : List Char) {column : Nat}
    (start : columns before ≤ column) (stop : column ≤ columns (before ++ word)) :
    before.length ≤ indexAtColumn (before ++ (word ++ after)) column ∧
      indexAtColumn (before ++ (word ++ after)) column ≤ before.length + word.length := by
  constructor
  · have lower := indexAtColumn_mono (before ++ (word ++ after)) start
    rwa [indexAtColumn_columns] at lower
  · have upper := indexAtColumn_mono (before ++ word ++ after) stop
    rwa [indexAtColumn_columns, List.length_append, List.append_assoc] at upper

/-- No column falls on a character that starts behind it. -/
theorem columns_take_indexAtColumn_le (text : List Char) (column : Nat) :
    columns (text.take (indexAtColumn text column)) ≤ column := by
  induction text generalizing column with
  | nil => exact Nat.zero_le column
  | cons c text ih =>
      rw [indexAtColumn]
      split
      next inside => exact Nat.zero_le column
      next behind =>
          have rest := ih (column - unitWidth c)
          rw [List.take_succ_cons, columns]
          omega

/-- No column falls on a character that ends in front of it. -/
theorem lt_columns_take_succ {text : List Char} {column : Nat}
    (inside : indexAtColumn text column < text.length) :
    column < columns (text.take (indexAtColumn text column + 1)) := by
  induction text generalizing column with
  | nil => exact absurd inside (Nat.not_lt_zero _)
  | cons c text ih =>
      rw [indexAtColumn] at inside ⊢
      split at inside
      next first =>
          rw [if_pos first, List.take_succ_cons, columns]
          omega
      next behind =>
          have rest := ih (Nat.lt_of_succ_lt_succ inside)
          rw [if_neg behind, List.take_succ_cons, columns]
          omega

theorem columns_take_le (text : List Char) (count : Nat) :
    columns (text.take count) ≤ columns text := by
  have whole := columns_append (text.take count) (text.drop count)
  rw [List.take_append_drop] at whole
  omega

theorem indexAtColumn_eq_length_iff (text : List Char) (column : Nat) :
    indexAtColumn text column = text.length ↔ columns text ≤ column := by
  constructor
  · intro behind
    have start := columns_take_indexAtColumn_le text column
    rwa [behind, List.take_length] at start
  · intro behind
    apply Nat.le_antisymm (indexAtColumn_le text column)
    apply Nat.le_of_not_lt
    intro inside
    have stop := lt_columns_take_succ inside
    have whole := columns_take_le text (indexAtColumn text column + 1)
    omega

/-- The code unit at a column is one of those that spell the character which the column falls on. -/
theorem getElem?_utf16 (text : List Char) (column : Nat) :
    (utf16 text)[column]? =
      text[indexAtColumn text column]?.bind fun c =>
        (codeUnits c)[column - columns (text.take (indexAtColumn text column))]? := by
  induction text generalizing column with
  | nil => rfl
  | cons c text ih =>
      rw [indexAtColumn, utf16_cons]
      split
      next inside =>
          rw [List.getElem?_append_left (by rwa [length_codeUnits])]
          rfl
      next behind =>
          have within : unitWidth c ≤ column := Nat.le_of_not_lt behind
          rw [List.getElem?_append_right (by rwa [length_codeUnits]), length_codeUnits, ih,
            List.getElem?_cons_succ, List.take_succ_cons, columns, Nat.sub_sub]

/-- Columns and characters correspond. A column falls on a character of the text if it is one of
the columns that the character takes in the UTF-16 form, be it in the middle of a pair, and behind
the text if there is no such character; the column in front of a character leads back to it. -/
theorem indexAtColumn_corresponds_to_utf16 (text : List Char) (column : Nat) :
    indexAtColumn text column ≤ text.length ∧
      (indexAtColumn text column < text.length →
        (utf16 (text.take (indexAtColumn text column))).length ≤ column ∧
          column < (utf16 (text.take (indexAtColumn text column + 1))).length) ∧
      (indexAtColumn text column = text.length ↔ (utf16 text).length ≤ column) ∧
      ((utf16 text)[column]? =
        text[indexAtColumn text column]?.bind fun c =>
          (codeUnits c)[column - (utf16 (text.take (indexAtColumn text column))).length]?) ∧
      (∀ later, column ≤ later → indexAtColumn text column ≤ indexAtColumn text later) ∧
      ∀ count, count ≤ text.length →
        indexAtColumn text (utf16 (text.take count)).length = count := by
  simp only [length_utf16]
  refine ⟨indexAtColumn_le text column, ?_, indexAtColumn_eq_length_iff text column,
    getElem?_utf16 text column, ?_, ?_⟩
  · intro inside
    exact ⟨columns_take_indexAtColumn_le text column, lt_columns_take_succ inside⟩
  · intro later le
    exact indexAtColumn_mono text le
  · intro count within
    have front := indexAtColumn_columns (text.take count) (text.drop count)
    rwa [List.take_append_drop, List.length_take, Nat.min_eq_left within] at front

/-- The second half of a pair, the column behind it, and a column far behind the end. -/
theorem indexAtColumn_corresponds_to_utf16_pair :
    let text := "é😀x".toList
    (indexAtColumn text 2 = 1 ∧ 1 < text.length ∧
      (utf16 (text.take 1)).length ≤ 2 ∧ 2 < (utf16 (text.take 2)).length) ∧
      (utf16 text)[2]? = some 0xDE00 ∧
      indexAtColumn text 2 ≤ indexAtColumn text 40 ∧
      (3 ≤ text.length ∧ indexAtColumn text (utf16 (text.take 3)).length = 3) ∧
      indexAtColumn text 40 = 3 := by
  intro text
  have second : indexAtColumn text 2 = 1 := by decide
  rcases indexAtColumn_corresponds_to_utf16 text 2 with ⟨-, bounds, -, spelled, mono, inverse⟩
  rcases indexAtColumn_corresponds_to_utf16 text 40 with ⟨-, -, behind, -⟩
  rw [second] at bounds spelled
  exact ⟨⟨second, by decide, bounds (by decide)⟩, spelled.trans (by decide), mono 40 (by decide),
    ⟨by decide, inverse 3 (by decide)⟩, behind.mpr (by decide)⟩

end AlloyAssist.Text
