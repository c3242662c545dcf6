import AlloyAssist.Url.Domain.Composite
import AlloyAssist.Url.Domain.Mark

/-!
# The normal form

Texts that mean the same have one normal form: composites are taken apart, marks are put
in the order of their ranks, and what can be put together is put together again.
-/

namespace AlloyAssist.Url.Domain

/-- How often the first part of a composite may be a composite itself. -/
def splitDepth : Nat := 4

/-- Take a code point apart, so many times at most. -/
def takeApart : Nat → Nat → List Nat
  | 0, code => [code]
  | depth + 1, code =>
      match split? code with
      | none => [code]
      | some (first, second) => takeApart depth first ++ [second]

/-- Put a code point in front of a text in which marks are in order. It stands behind all
marks of a lower rank. -/
def insertRanked (code : Nat) : List Nat → List Nat
  | [] => [code]
  | next :: text =>
      if 0 < rank next ∧ rank next < rank code then next :: insertRanked code text
      else code :: next :: text

/-- Put marks in order. Those of one rank stay as they are. -/
def orderMarks (text : List Nat) : List Nat :=
  text.foldr insertRanked []

/-- Put together what can be put together. `start` takes in the marks behind it, and
`kept`, in reverse order, holds those it could not take in; they stand in the way of marks
that do not have a higher rank. -/
def putTogether (start : Nat) (kept : List Nat) : List Nat → List Nat
  | [] => start :: kept.reverse
  | code :: text =>
      let isFree := kept.head?.all fun last => rank last < rank code
      match if isFree then join? start code else none with
      | some whole => putTogether whole kept text
      | none =>
          if rank code = 0 then start :: kept.reverse ++ putTogether code [] text
          else putTogether start (code :: kept) text

/-- The normal form of a text. -/
def normalForm (text : List Nat) : List Nat :=
  match orderMarks (text.flatMap (takeApart splitDepth)) with
  | [] => []
  | start :: text => putTogether start [] text

end AlloyAssist.Url.Domain
