import AlloyAssist.Text.Column

/-!
# Positions

A position is a line and a column in it, both counted from zero. A span reaches from
one position up to another. Positions are sent to an editor in 32 bits for each count,
whatever the size of the document.
-/

namespace AlloyAssist

/-- A place in a document. -/
structure Position where
  line : Nat
  character : Nat
  deriving DecidableEq, Repr

namespace Position

/-- A count as it is sent. What does not fit into 32 bits is cut off at the front. -/
def wrap (count : Nat) : Nat :=
  count.toUInt32.toNat

/-- The place that is sent for a line and a column. -/
def sent (line character : Nat) : Position :=
  ⟨wrap line, wrap character⟩

theorem wrap_eq_mod (count : Nat) : wrap count = count % UInt32.size :=
  UInt32.toNat_ofNat'

theorem wrap_lt (count : Nat) : wrap count < UInt32.size :=
  count.toUInt32.toNat_lt_size

/-- Counts that fit are sent as they are. -/
theorem wrap_of_lt {count : Nat} (fits : count < UInt32.size) : wrap count = count := by
  rw [wrap_eq_mod, Nat.mod_eq_of_lt fits]

theorem wrap_lt_wrap {left right : Nat} (lt : left < right) (fits : right < UInt32.size) :
    wrap left < wrap right := by
  rwa [wrap_of_lt fits, wrap_of_lt (Nat.lt_trans lt fits)]

theorem sent_of_lt {line character : Nat} (lineFits : line < UInt32.size)
    (characterFits : character < UInt32.size) : sent line character = ⟨line, character⟩ := by
  rw [sent, wrap_of_lt lineFits, wrap_of_lt characterFits]

end Position

/-- The text between two places. -/
structure Span where
  start : Position
  stop : Position
  deriving DecidableEq, Repr

namespace Span

/-- From the start of one line to the end of another, whose text is given. -/
def ofLines (first last : Nat) (lastText : List Char) : Span :=
  ⟨.sent first 0, .sent last (Text.columns lastText)⟩

/-- A whole line. -/
def ofLine (line : Nat) (text : List Char) : Span :=
  ofLines line line text

end Span

end AlloyAssist
