/-!
# Cutting at a separator

`pieces` cuts a text at every occurrence of a class of characters. There is always
one piece more than there are separators.
-/

namespace AlloyAssist.Text

/-- The pieces between separators, empty ones included. -/
def pieces (isSeparator : Char → Bool) : List Char → List (List Char)
  | [] => [[]]
  | c :: text =>
      if isSeparator c then [] :: pieces isSeparator text
      else
        match pieces isSeparator text with
        | [] => [[c]]
        | piece :: rest => (c :: piece) :: rest

/-- What stands in front of the last separator, if there is one, and what follows. -/
def cutAtLast (separator : Char) (text : List Char) : Option (List Char) × List Char :=
  let tail := (text.reverse.takeWhile (· != separator)).reverse
  match text.reverse.dropWhile (· != separator) with
  | [] => (none, text)
  | _ :: front => (some front.reverse, tail)

end AlloyAssist.Text
