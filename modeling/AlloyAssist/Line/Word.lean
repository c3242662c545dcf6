import AlloyAssist.Text.Column

/-!
# The word under the cursor

A word is a run of ASCII letters, digits, underscores and dots, so the dotted
name of a component is one word. A cursor right behind a word still points at it.
-/

namespace AlloyAssist

open Text

namespace Line

/-- Characters that words are made of. -/
def isWordChar (c : Char) : Bool :=
  c.isAlphanum || c == '_' || c == '.'

/-- The run of word characters around an index. -/
def wordAround (line : List Char) (index : Nat) : List Char :=
  ((line.take index).reverse.takeWhile isWordChar).reverse ++
    (line.drop index).takeWhile isWordChar

/-- The word at a column, if there is one. -/
def wordAt? (line : List Char) (column : Nat) : Option String :=
  match wordAround line (indexAtColumn line column) with
  | [] => none
  | word => some (String.ofList word)

end Line

end AlloyAssist
