import AlloyAssist.Proofs.Line.Word

/-!
# Searching a word by numbers

A line that is kept in UTF-8 is searched by numbers: characters are looked up in a table by their
index, and the word is cut out of the bytes between two offsets. Each of these steps can go wrong.
A lookup may miss the table, and a cut may fall inside a character. `scanWord?` checks every step
and gives up at the first one that fails. It is shown that none ever does, whatever the line and
the column, and that the word it cuts out is the one that `wordAt?` finds.
-/

namespace AlloyAssist.Line

open Text

/-! ## The search -/

/-- The characters of a text, each with the byte offset at which it starts. -/
def charTable (offset : Nat) : List Char → List (Nat × Char)
  | [] => []
  | c :: text => (offset, c) :: charTable (offset + c.utf8Size) text

/-- Step back from an index as long as the character in front of it belongs to a word. There is
no answer if a character that is looked up is not in the table. -/
def scanBack? (table : List (Nat × Char)) : Nat → Option Nat
  | 0 => some 0
  | index + 1 =>
      table[index]?.bind fun entry =>
        if isWordChar entry.2 then scanBack? table index else some (index + 1)

/-- Step on from an index as long as the character at it belongs to a word. There is no answer if
a character that is looked up is not in the table. -/
def scanOn? (table : List (Nat × Char)) (index : Nat) : Option Nat :=
  if index < table.length then
    table[index]?.bind fun entry =>
      if isWordChar entry.2 then scanOn? table (index + 1) else some index
  else some index
termination_by table.length - index

/-- Cut the text between two byte offsets out of a line. There is no answer if an offset is
inside a character or behind the end, or if the offsets are in the wrong order. -/
def cutBytes? (text : String) (start stop : Nat) : Option String :=
  if inside : (⟨start⟩ : String.Pos.Raw).IsValid text ∧ (⟨stop⟩ : String.Pos.Raw).IsValid text ∧
      start ≤ stop then
    some (text.extract ⟨⟨start⟩, inside.1⟩ ⟨⟨stop⟩, inside.2.1⟩)
  else none

/-- The word between two indices, if there is one, cut out at the offsets that the table lists
for them. There is no offset to list for the end of the line. -/
def cutWord? (text : List Char) (start stop : Nat) : Option (Option String) :=
  let table := charTable 0 text
  if stop ≤ start then some none
  else
    table[start]?.bind fun first =>
      let behind := table[stop]?.elim (String.ofList text).utf8ByteSize Prod.fst
      (cutBytes? (String.ofList text) first.1 behind).map some

/-- The word at a column, if there is one, found by numbers. There is no answer at all if one of
the steps fails. -/
def scanWord? (text : List Char) (column : Nat) : Option (Option String) :=
  let table := charTable 0 text
  let cursor := indexAtColumn text column
  (scanBack? table cursor).bind fun start =>
    (scanOn? table cursor).bind fun stop => cutWord? text start stop

/-! ## The table -/

/-- The bytes that a text takes in UTF-8. -/
def byteLength (text : List Char) : Nat :=
  (String.ofList text).utf8ByteSize

theorem byteLength_append (left right : List Char) :
    byteLength (left ++ right) = byteLength left + byteLength right := by
  simp [byteLength]

theorem byteLength_cons (c : Char) (text : List Char) :
    byteLength (c :: text) = c.utf8Size + byteLength text := by
  simp [byteLength, String.ofList_cons]

theorem length_charTable (offset : Nat) (text : List Char) :
    (charTable offset text).length = text.length := by
  induction text generalizing offset with
  | nil => rfl
  | cons c text ih => simp [charTable, ih]

theorem getElem?_charTable (offset : Nat) (text : List Char) (index : Nat) :
    (charTable offset text)[index]? =
      text[index]?.map fun c => (offset + byteLength (text.take index), c) := by
  induction text generalizing offset index with
  | nil => rfl
  | cons c text ih =>
      cases index with
      | zero => rfl
      | succ index =>
          simp only [charTable, List.getElem?_cons_succ, ih, List.take_succ_cons, byteLength_cons,
            Nat.add_assoc]

/-! ## The steps -/

variable {text : List Char} {index : Nat}

theorem scanBack?_charTable (inside : index ≤ text.length) :
    scanBack? (charTable 0 text) index = some (beforeWord text index).length := by
  induction index with
  | zero => rfl
  | succ index ih =>
      have here : text[index]? = some text[index] := List.getElem?_eq_getElem inside
      have front : text.take (index + 1) = text.take index ++ [text[index]] :=
        List.take_succ_eq_append_getElem inside
      rw [scanBack?, getElem?_charTable, here, Option.map_some, Option.bind_some, beforeWord,
        front, List.rdropWhile_concat]
      split
      · exact ih (by omega)
      · simp
        omega

theorem scanOn?_charTable (inside : index ≤ text.length) :
    scanOn? (charTable 0 text) index =
      some (index + ((text.drop index).takeWhile isWordChar).length) := by
  -- The induction is on the characters from the index on.
  induction ahead : text.drop index generalizing index with
  | nil =>
      have atEnd : ¬index < (charTable 0 text).length := by
        have gone := List.drop_eq_nil_iff.mp ahead
        rw [length_charTable]
        omega
      rw [scanOn?, if_neg atEnd]
      rfl
  | cons c rest ih =>
      have here : text[index]? = some c := by
        rw [← List.head?_drop, ahead, List.head?_cons]
      have before : index < (charTable 0 text).length := by
        rw [length_charTable]
        exact (List.getElem?_eq_some_iff.mp here).1
      rw [scanOn?, if_pos before, getElem?_charTable, here, Option.map_some, Option.bind_some,
        List.takeWhile_cons]
      split
      · have next : text.drop (index + 1) = rest := by
          rw [← List.drop_drop, ahead]
          rfl
        rw [length_charTable] at before
        rw [ih before next, List.length_cons, Nat.succ_add, Nat.add_succ]
      · rfl

theorem length_beforeWord_add_length_wordAround (inside : index ≤ text.length) :
    index + ((text.drop index).takeWhile isWordChar).length =
      (beforeWord text index ++ wordAround text index).length := by
  have length := length_beforeWord inside
  rw [wordAround_eq_append, List.length_append, List.length_append]
  omega

/-- Between the offsets of its ends a stretch of a line is cut out whole. -/
theorem cutBytes?_append (before word after : List Char) :
    cutBytes? (String.ofList (before ++ (word ++ after))) (byteLength before)
      (byteLength (before ++ word)) = some (String.ofList word) := by
  have start : (⟨byteLength before⟩ : String.Pos.Raw).IsValid
      (String.ofList (before ++ (word ++ after))) :=
    String.Pos.Raw.isValid_iff_exists_append.mpr
      ⟨String.ofList before, String.ofList (word ++ after), String.ofList_append, rfl⟩
  have stop : (⟨byteLength (before ++ word)⟩ : String.Pos.Raw).IsValid
      (String.ofList (before ++ (word ++ after))) := by
    rw [← List.append_assoc]
    exact String.Pos.Raw.isValid_iff_exists_append.mpr
      ⟨String.ofList (before ++ word), String.ofList after, String.ofList_append, rfl⟩
  have ordered : byteLength before ≤ byteLength (before ++ word) := by
    rw [byteLength_append]
    omega
  rw [cutBytes?, dif_pos ⟨start, stop, ordered⟩, Option.some_inj, ← String.toByteArray_inj,
    String.toByteArray_extract]
  simp only [String.ofList_append, String.toByteArray_append, byteLength_append]
  calc
    _ = ((String.ofList word).toByteArray ++ (String.ofList after).toByteArray).extract 0
          (byteLength word) := ByteArray.extract_append_size_add' String.size_toByteArray.symm
    _ = (String.ofList word).toByteArray :=
          ByteArray.extract_append_eq_left String.size_toByteArray.symm

/-- The offset of the place behind a front part of a line is found in the table or, at the end,
is the length of the line. -/
theorem elim_charTable (front back : List Char) :
    (charTable 0 (front ++ back))[front.length]?.elim (byteLength (front ++ back)) Prod.fst =
      byteLength front := by
  rw [getElem?_charTable, List.take_left, List.getElem?_append_right (Nat.le_refl _), Nat.sub_self]
  cases back with
  | nil => simp
  | cons c back => simp

theorem cutWord?_append (before word after : List Char) :
    cutWord? (before ++ (word ++ after)) before.length (before ++ word).length =
      some (if word = [] then none else some (String.ofList word)) := by
  cases word with
  | nil => simp [cutWord?]
  | cons c word =>
      have longer : ¬(before ++ c :: word).length ≤ before.length := by
        simp
      have first : (charTable 0 (before ++ (c :: word ++ after)))[before.length]? =
          some (byteLength before, c) := by
        rw [getElem?_charTable, List.take_left, List.getElem?_append_right (Nat.le_refl _),
          Nat.sub_self, Nat.zero_add]
        rfl
      have behind := elim_charTable (before ++ c :: word) after
      rw [List.append_assoc] at behind
      rw [cutWord?, if_neg longer, first, Option.bind_some]
      change (cutBytes? _ _ (Option.elim _ (byteLength _) _)).map some = _
      rw [behind, cutBytes?_append]
      rfl

/-! ## The whole search -/

/-- Every step of the search succeeds, and what it cuts out is the word at the column. -/
theorem scanWord?_eq (text : List Char) (column : Nat) :
    scanWord? text column = some (wordAt? text column) := by
  have inside := indexAtColumn_le text column
  have cutOut := cutWord?_append (beforeWord text (indexAtColumn text column))
    (wordAround text (indexAtColumn text column)) (behindWord text (indexAtColumn text column))
  rw [← eq_beforeWord_append] at cutOut
  rw [scanWord?, scanBack?_charTable inside, Option.bind_some, scanOn?_charTable inside,
    Option.bind_some, length_beforeWord_add_length_wordAround inside, cutOut, Option.some_inj]
  by_cases gone : wordAround text (indexAtColumn text column) = []
  · rw [if_pos gone, wordAt?_eq_none_iff.mpr gone]
  · rw [if_neg gone, wordAt?_of_ne_nil gone]

/-- The search for the word at a column never fails. What it finds is the word that the column
touches; it finds nothing if there is none, that is, if no character of a word stands on either
side of the column. -/
theorem wordAt?_finds_touched_word (text : List Char) (column : Nat) :
    scanWord? text column = some (wordAt? text column) ∧
      (∀ word, wordAt? text column = some word ↔
        ∃ before after, TouchesWord text (indexAtColumn text column) before word.toList after) ∧
      (wordAt? text column = none ↔
        ¬∃ before word after, TouchesWord text (indexAtColumn text column) before word after) ∧
      (wordAt? text column = none ↔
        (0 < indexAtColumn text column →
            ∀ c ∈ text[indexAtColumn text column - 1]?, ¬ContinuesType c) ∧
          ∀ c ∈ text[indexAtColumn text column]?, ¬ContinuesType c) := by
  have inside := indexAtColumn_le text column
  refine ⟨scanWord?_eq text column, fun word => wordAt?_eq_some_iff, ?_, ?_⟩
  · rw [wordAt?_eq_none_iff]
    constructor
    · rintro gone ⟨before, word, after, touches⟩
      apply touches.inhabited
      rw [← touches.wordAround_eq, gone]
    · intro untouched
      by_contra found
      exact untouched ⟨_, _, _, touchesWord_wordAround inside found⟩
  · rw [wordAt?_eq_none_iff, wordAround_eq_nil_iff inside]

end AlloyAssist.Line
