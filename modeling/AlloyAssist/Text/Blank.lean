/-!
# Blank characters

Configuration text is cut into words by Unicode's `White_Space` property. The
class is wider than the ASCII blanks and narrower than what looks empty on a
screen: the zero width space and the byte order mark are not in it.

Trimming works on lists of characters, so that statements about it come down to
`takeWhile` and `dropWhile`.
-/

namespace AlloyAssist.Text

/-- The code points with the `White_Space` property, as closed ranges in
increasing order. -/
def blankRanges : List (Nat × Nat) :=
  [(0x09, 0x0D), (0x20, 0x20), (0x85, 0x85), (0xA0, 0xA0), (0x1680, 0x1680),
    (0x2000, 0x200A), (0x2028, 0x2029), (0x202F, 0x202F), (0x205F, 0x205F),
    (0x3000, 0x3000)]

/-- Membership in the `White_Space` property. -/
def isBlank (c : Char) : Bool :=
  blankRanges.any fun range => range.1 ≤ c.toNat && c.toNat ≤ range.2

/-- Drop the blanks a text starts with. -/
def trimStart (text : List Char) : List Char :=
  text.dropWhile isBlank

/-- Drop the blanks a text ends with. -/
def trimEnd (text : List Char) : List Char :=
  (text.reverse.dropWhile isBlank).reverse

/-- Drop the blanks at both ends. -/
def trim (text : List Char) : List Char :=
  trimEnd (trimStart text)

@[simp] theorem trimStart_nil : trimStart [] = [] := rfl

@[simp] theorem trimEnd_nil : trimEnd [] = [] := rfl

@[simp] theorem trim_nil : trim [] = [] := rfl

/-- A blank in front of a text does not survive trimming. -/
theorem trimStart_cons_of_isBlank {c : Char} {text : List Char}
    (blank : isBlank c = true) : trimStart (c :: text) = trimStart text := by
  simp [trimStart, blank]

/-- A text that starts with something else is left as it is. -/
theorem trimStart_cons_of_not_isBlank {c : Char} {text : List Char}
    (solid : isBlank c = false) : trimStart (c :: text) = c :: text := by
  simp [trimStart, solid]

end AlloyAssist.Text
