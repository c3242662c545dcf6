/-!
# Columns

An editor counts the columns of a line in UTF-16 code units: a character outside
the basic plane takes two of them. A column inside such a pair belongs to the
character that the pair spells, and a column past the end belongs to the end.
-/

namespace AlloyAssist.Text

/-- How many UTF-16 code units a character takes. -/
def unitWidth (c : Char) : Nat :=
  if c.toNat < 0x10000 then 1 else 2

/-- The column just behind a text. -/
def columns : List Char → Nat
  | [] => 0
  | c :: text => unitWidth c + columns text

/-- The index of the character that a column falls into; the number of
characters when the column lies behind the text. -/
def indexAtColumn : List Char → Nat → Nat
  | [], _ => 0
  | c :: text, column =>
      if column < unitWidth c then 0
      else indexAtColumn text (column - unitWidth c) + 1

theorem unitWidth_pos (c : Char) : 0 < unitWidth c := by
  unfold unitWidth; split <;> decide

@[simp] theorem columns_nil : columns [] = 0 := rfl

@[simp] theorem columns_append (left right : List Char) :
    columns (left ++ right) = columns left + columns right := by
  induction left with
  | nil => simp
  | cons c left ih => simp [columns, ih, Nat.add_assoc]

/-- A column never points behind the end. -/
theorem indexAtColumn_le (text : List Char) (column : Nat) :
    indexAtColumn text column ≤ text.length := by
  induction text generalizing column with
  | nil => simp [indexAtColumn]
  | cons c text ih =>
      simp only [indexAtColumn, List.length_cons]
      split
      · exact Nat.zero_le _
      · exact Nat.succ_le_succ (ih _)

end AlloyAssist.Text
