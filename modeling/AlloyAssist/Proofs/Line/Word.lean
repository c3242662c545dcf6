import AlloyAssist.Line.Word
import AlloyAssist.Proofs.Line.Unambiguous

/-!
# The word that a cursor touches

A cursor touches a word if it stands inside it or at one of its ends, and a word is as long as it
can be: on neither side does another of its characters follow. The search for a word goes out
from the cursor in both directions. It is shown here that it comes back with the word that is
touched, whichever character of it the cursor stands at, and with nothing only if there is no
such word, that is, if no character of a word stands on either side of the cursor.
-/

namespace AlloyAssist.Line

open Text

theorem isWordChar_iff {c : Char} : isWordChar c = true ↔ ContinuesType c :=
  isTypeChar_iff

theorem isWordChar_eq_false_iff {c : Char} : isWordChar c = false ↔ ¬ContinuesType c := by
  rw [← isWordChar_iff, Bool.not_eq_true]

/-- A line cut into a word, what stands in front of it and what follows, with a cursor in the
word or at one of its ends. -/
structure TouchesWord (line : List Char) (index : Nat) (before word after : List Char) :
    Prop where
  spelled : line = before ++ (word ++ after)
  inhabited : word ≠ []
  inside : ∀ c ∈ word, ContinuesType c
  starts : before.length ≤ index
  stops : index ≤ before.length + word.length
  unpreceded : ∀ c ∈ before.getLast?, ¬ContinuesType c
  unfollowed : ∀ c ∈ after.head?, ¬ContinuesType c

/-! ## What the search leaves out -/

/-- What stands in front of the word around an index. -/
def beforeWord (line : List Char) (index : Nat) : List Char :=
  (line.take index).rdropWhile isWordChar

/-- What stands behind the word around an index. -/
def behindWord (line : List Char) (index : Nat) : List Char :=
  (line.drop index).dropWhile isWordChar

variable {line : List Char} {index : Nat}

theorem beforeWord_append (line : List Char) (index : Nat) :
    beforeWord line index ++ (line.take index).rtakeWhile isWordChar = line.take index :=
  List.rdropWhile_append_rtakeWhile

theorem wordAround_eq_append (line : List Char) (index : Nat) :
    wordAround line index =
      (line.take index).rtakeWhile isWordChar ++ (line.drop index).takeWhile isWordChar := rfl

theorem eq_beforeWord_append (line : List Char) (index : Nat) :
    line = beforeWord line index ++ (wordAround line index ++ behindWord line index) := by
  have back : (line.drop index).takeWhile isWordChar ++ behindWord line index = line.drop index :=
    List.takeWhile_append_dropWhile
  rw [wordAround_eq_append, List.append_assoc, back, ← List.append_assoc, beforeWord_append,
    List.take_append_drop]

theorem length_beforeWord (inside : index ≤ line.length) :
    (beforeWord line index).length + ((line.take index).rtakeWhile isWordChar).length = index := by
  have length := congrArg List.length (beforeWord_append line index)
  rwa [List.length_append, List.length_take, Nat.min_eq_left inside] at length

theorem unpreceded_beforeWord {c : Char} (last : c ∈ (beforeWord line index).getLast?) :
    ¬ContinuesType c := by
  have inhabited : beforeWord line index ≠ [] := by
    intro gone
    simp [gone] at last
  rw [List.getLast?_eq_some_getLast inhabited, Option.mem_some] at last
  rw [← last, ← isWordChar_iff]
  exact List.rdropWhile_last_not isWordChar (line.take index) inhabited

theorem unfollowed_behindWord {c : Char} (first : c ∈ (behindWord line index).head?) :
    ¬ContinuesType c := by
  have outside := List.head?_dropWhile_not isWordChar (line.drop index)
  rw [← behindWord, Option.mem_def.mp first] at outside
  exact isWordChar_eq_false_iff.mp outside

/-! ## What the search finds -/

theorem continuesType_of_mem_wordAround {c : Char} (membership : c ∈ wordAround line index) :
    ContinuesType c := by
  rw [← isWordChar_iff]
  rw [wordAround_eq_append, List.mem_append] at membership
  rcases membership with front | back
  · exact List.mem_rtakeWhile_imp front
  · exact List.mem_takeWhile_imp back

/-- If the search finds something, the cursor touches it. -/
theorem touchesWord_wordAround (inside : index ≤ line.length)
    (found : wordAround line index ≠ []) :
    TouchesWord line index (beforeWord line index) (wordAround line index)
      (behindWord line index) := by
  have length := length_beforeWord inside
  refine ⟨eq_beforeWord_append line index, found, ?_, ?_, ?_, ?_, ?_⟩
  · intro c membership
    exact continuesType_of_mem_wordAround membership
  · omega
  · rw [wordAround_eq_append, List.length_append]
    omega
  · intro c last
    exact unpreceded_beforeWord last
  · intro c first
    exact unfollowed_behindWord first

/-- If the cursor touches a word, the search finds it. -/
theorem TouchesWord.wordAround_eq {before word after : List Char}
    (touches : TouchesWord line index before word after) : wordAround line index = word := by
  rcases touches with ⟨rfl, -, inside, starts, stops, unpreceded, unfollowed⟩
  -- The cursor cuts the word in two, and either half is all that the search finds on its side.
  have within : index - before.length ≤ word.length := by omega
  have front : (before ++ (word ++ after)).take index =
      before ++ word.take (index - before.length) := by
    rw [List.take_append, List.take_of_length_le starts, List.take_append_of_le_length within]
  have back : (before ++ (word ++ after)).drop index =
      word.drop (index - before.length) ++ after := by
    rw [List.drop_append, List.drop_of_length_le starts, List.nil_append,
      List.drop_append_of_le_length within]
  have frontRun : IsRun isWordChar (word.take (index - before.length)).reverse before.reverse := by
    constructor
    · intro c membership
      exact isWordChar_iff.mpr (inside c (List.mem_of_mem_take (List.mem_reverse.mp membership)))
    · intro c last
      rw [List.head?_reverse] at last
      exact isWordChar_eq_false_iff.mpr (unpreceded c last)
  have backRun : IsRun isWordChar (word.drop (index - before.length)) after := by
    constructor
    · intro c membership
      exact isWordChar_iff.mpr (inside c (List.mem_of_mem_drop membership))
    · intro c first
      exact isWordChar_eq_false_iff.mpr (unfollowed c first)
  rw [wordAround_eq_append, front, back, List.rtakeWhile, List.reverse_append,
    (span_append frontRun.inside _ frontRun.outside).1,
    (span_append backRun.inside _ backRun.outside).1, List.reverse_reverse, List.take_append_drop]

/-! ## What the search does not find -/

theorem takeWhile_isWordChar_eq_nil_iff {text : List Char} :
    text.takeWhile isWordChar = [] ↔ ∀ c ∈ text.head?, ¬ContinuesType c := by
  cases text with
  | nil => simp
  | cons c text => simp [List.takeWhile_cons, isWordChar_iff]

theorem getLast?_take_of_pos {text : List Char} (inside : index ≤ text.length)
    (positive : 0 < index) : (text.take index).getLast? = text[index - 1]? := by
  have before : index - 1 < text.length := by omega
  rw [List.getLast?_take, if_neg (Nat.ne_of_gt positive), List.getElem?_eq_getElem before,
    Option.some_or]

/-- The search finds nothing if no character of a word stands on either side of the cursor. -/
theorem wordAround_eq_nil_iff {text : List Char} (inside : index ≤ text.length) :
    wordAround text index = [] ↔
      (0 < index → ∀ c ∈ text[index - 1]?, ¬ContinuesType c) ∧
        ∀ c ∈ text[index]?, ¬ContinuesType c := by
  rw [wordAround_eq_append, List.append_eq_nil_iff, List.rtakeWhile, List.reverse_eq_nil_iff,
    takeWhile_isWordChar_eq_nil_iff, takeWhile_isWordChar_eq_nil_iff, List.head?_reverse,
    List.head?_drop]
  rcases Nat.eq_zero_or_pos index with rfl | positive
  · simp
  · rw [getLast?_take_of_pos inside positive, imp_iff_right positive]

/-! ## The word at a column -/

variable {column : Nat}

theorem wordAt?_of_ne_nil (found : wordAround line (indexAtColumn line column) ≠ []) :
    wordAt? line column = some (String.ofList (wordAround line (indexAtColumn line column))) := by
  rw [wordAt?]
  split
  next gone => exact absurd gone found
  next => rfl

theorem wordAt?_eq_none_iff :
    wordAt? line column = none ↔ wordAround line (indexAtColumn line column) = [] := by
  constructor
  · intro silent
    by_contra found
    rw [wordAt?_of_ne_nil found] at silent
    cases silent
  · intro gone
    rw [wordAt?, gone]

/-- The word at a column is the word that the column touches. -/
theorem wordAt?_eq_some_iff {word : String} :
    wordAt? line column = some word ↔
      ∃ before after,
        TouchesWord line (indexAtColumn line column) before word.toList after := by
  constructor
  · intro found
    have inhabited : wordAround line (indexAtColumn line column) ≠ [] := by
      intro gone
      rw [wordAt?_eq_none_iff.mpr gone] at found
      cases found
    rw [wordAt?_of_ne_nil inhabited] at found
    cases found
    rw [String.toList_ofList]
    exact ⟨_, _, touchesWord_wordAround (indexAtColumn_le line column) inhabited⟩
  · rintro ⟨before, after, touches⟩
    have found := touches.wordAround_eq
    have inhabited : wordAround line (indexAtColumn line column) ≠ [] := by
      rw [found]
      exact touches.inhabited
    rw [wordAt?_of_ne_nil inhabited, found, String.ofList_toList]

end AlloyAssist.Line
