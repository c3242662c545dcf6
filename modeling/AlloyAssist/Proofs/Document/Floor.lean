import AlloyAssist.Proofs.Document.Depth

/-!
# The floor under the levels

There is no level below zero, so a line that closes a block where none is open stays where it is.
The level that a line is put on is therefore not the sum of the steps that lead to it, which may
well be negative. It is the height of this sum above the lowest one on the way. A closing brace
that closes nothing takes the sum and its lowest point down together, and the height forgets it:
what is opened below counts in full, however many braces were closed above.
-/

namespace AlloyAssist.Indentation

open Text

/-! ## Runs of steps -/

/-- What steps add up to. -/
def total (steps : List Int) : Int :=
  steps.foldl (· + ·) 0

/-- The sums that a run of steps goes through, from zero on. -/
def partialSums (steps : List Int) : List Int :=
  steps.scanl (· + ·) 0

theorem partialSums_ne_nil (steps : List Int) : partialSums steps ≠ [] :=
  List.scanl_ne_nil

/-- The lowest of these sums. -/
def lowest (steps : List Int) : Int :=
  (partialSums steps).min (partialSums_ne_nil steps)

/-- A step from a level, not below the floor. -/
def climb (level : Nat) (step : Int) : Nat :=
  (level + step).toNat

theorem total_concat (steps : List Int) (step : Int) :
    total (steps ++ [step]) = total steps + step := by
  rw [total, List.foldl_concat, total]

theorem partialSums_concat (steps : List Int) (step : Int) :
    partialSums (steps ++ [step]) = partialSums steps ++ [total (steps ++ [step])] := by
  rw [partialSums, List.scanl_append, List.scanl_singleton, List.tail_cons, total_concat, total,
    partialSums]

theorem lowest_mem (steps : List Int) : lowest steps ∈ partialSums steps :=
  List.min_mem _

theorem lowest_le {steps : List Int} {sum : Int} (reached : sum ∈ partialSums steps) :
    lowest steps ≤ sum :=
  List.min_le_of_mem reached

theorem lowest_concat (steps : List Int) (step : Int) :
    lowest (steps ++ [step]) = min (lowest steps) (total (steps ++ [step])) := by
  rw [lowest, List.min_eq_iff, partialSums_concat]
  constructor
  · rcases Int.le_total (lowest steps) (total (steps ++ [step])) with before | now
    · rw [Int.min_eq_left before]
      exact List.mem_append_left _ (lowest_mem steps)
    · rw [Int.min_eq_right now]
      exact List.mem_append_right _ (List.mem_singleton_self _)
  · intro sum reached
    rcases List.mem_append.mp reached with before | now
    · exact Int.le_trans (Int.min_le_left _ _) (lowest_le before)
    · rw [List.mem_singleton.mp now]
      exact Int.min_le_right _ _

/-- The run: a level that stops at the floor is as high as the steps lead, counted from the floor
or from the lowest point that they would have reached below it. -/
theorem foldl_climb (level : Nat) (steps : List Int) :
    ((steps.foldl climb level : Nat) : Int) =
      level + total steps - min 0 (level + lowest steps) := by
  -- From the back: one more step moves the sum, and its lowest point only by going below it.
  induction steps using List.reverseRecOn with
  | nil =>
      have start : lowest [] = 0 := rfl
      have still : total [] = 0 := rfl
      rw [start, still, List.foldl_nil]
      omega
  | append_singleton steps step ih =>
      rw [List.foldl_concat, climb, Int.ofNat_toNat, ih, lowest_concat, total_concat]
      omega

/-- Steps that do not lead below the floor count in full. -/
theorem foldl_climb_of_nonneg {level : Nat} {steps : List Int}
    (above : ∀ sum ∈ partialSums steps, 0 ≤ level + sum) :
    ((steps.foldl climb level : Nat) : Int) = level + total steps := by
  have high := above (lowest steps) (lowest_mem steps)
  rw [foldl_climb, Int.min_eq_left high, Int.sub_zero]

/-- Of equal steps either all count or the floor is reached for good. -/
theorem foldl_climb_replicate (level count : Nat) (step : Int) :
    (List.replicate count step).foldl climb level = (level + count * step).toNat := by
  induction count generalizing level with
  | zero => simp
  | succ count ih =>
      have down : step ≤ 0 → count * step ≤ 0 :=
        Int.mul_nonpos_of_nonneg_of_nonpos (Int.natCast_nonneg count)
      rw [List.replicate_succ, List.foldl_cons, ih, climb, Int.natCast_succ, Int.add_mul,
        Int.one_mul]
      omega

/-! ## The steps of lines -/

/-- The steps of a line, one level out if it starts with a closing brace and then one level in if
it ends with an opening one. A line that keeps its layout makes none. -/
def lineSteps (line : List Char) : List Int :=
  if isKept line then []
  else List.replicate (stepsOut line) (-1) ++ List.replicate (stepsIn line) 1

/-- The level that a line is put on below other lines. -/
def levelBelow (above : List (List Char)) (line : List Char) : Nat :=
  ownLevel (levelAfter 0 above) line

/-- The steps that lead there: those of the lines above, and the line's own step out. -/
def stepsBelow (above : List (List Char)) (line : List Char) : List Int :=
  above.flatMap lineSteps ++ List.replicate (stepsOut line) (-1)

theorem lineSteps_of_not_isKept {line : List Char} (moved : isKept line = false) :
    lineSteps line = List.replicate (stepsOut line) (-1) ++ List.replicate (stepsIn line) 1 :=
  if_neg (Bool.eq_false_iff.mp moved)

theorem ownLevel_eq_foldl (level : Nat) (line : List Char) :
    ownLevel level line = (List.replicate (stepsOut line) (-1)).foldl climb level := by
  rw [ownLevel_eq_sub, foldl_climb_replicate]
  omega

theorem nextLevel_eq_foldl (level : Nat) (line : List Char) :
    nextLevel level line = (lineSteps line).foldl climb level := by
  cases kept : isKept line with
  | true => rw [nextLevel, lineSteps, if_pos kept, if_pos kept, List.foldl_nil]
  | false =>
      rw [nextLevel_of_not_isKept kept, lineSteps_of_not_isKept kept, List.foldl_append,
        ← ownLevel_eq_foldl, foldl_climb_replicate]
      omega

theorem levelAfter_eq_foldl (level : Nat) (lines : List (List Char)) :
    levelAfter level lines = (lines.flatMap lineSteps).foldl climb level := by
  have each : nextLevel = fun level line => (lineSteps line).foldl climb level := by
    funext level line
    exact nextLevel_eq_foldl level line
  rw [levelAfter, List.foldl_flatMap, each]

theorem levelBelow_eq_foldl (above : List (List Char)) (line : List Char) :
    levelBelow above line = (stepsBelow above line).foldl climb 0 := by
  rw [levelBelow, ownLevel_eq_foldl, levelAfter_eq_foldl, stepsBelow, List.foldl_append]

theorem levelBelow_eq_sub_lowest (above : List (List Char)) (line : List Char) :
    (levelBelow above line : Int) =
      total (stepsBelow above line) - min 0 (lowest (stepsBelow above line)) := by
  have run := foldl_climb 0 (stepsBelow above line)
  rwa [← levelBelow_eq_foldl, Int.natCast_zero, Int.zero_add, Int.zero_add] at run

/-- The steps that lead to a line lead on to every line further down. -/
theorem exists_stepsBelow_eq_append {lines : List (List Char)} {index later : Nat}
    {line : List Char} (here : lines[index]? = some line) (moved : isKept line = false)
    (below : index < later) (other : List Char) :
    ∃ since, stepsBelow (lines.take later) other = stepsBelow (lines.take index) line ++ since := by
  rcases List.take_prefix_take_left (l := lines) below with ⟨rest, cut⟩
  -- What follows starts with the line's own step in, which does not count for the line itself.
  refine ⟨List.replicate (stepsIn line) 1 ++ rest.flatMap lineSteps ++
    List.replicate (stepsOut other) (-1), ?_⟩
  rw [stepsBelow, ← cut, List.take_add_one, here, Option.toList_some, stepsBelow]
  simp only [List.flatMap_append, List.flatMap_singleton, lineSteps_of_not_isKept moved,
    List.append_assoc]

/-! ## The text that comes out -/

theorem getElem?_written_format_of_moved {text : String} {index : Nat} {line : List Char}
    (here : (Lines.split text.toList).contents[index]? = some line)
    (moved : isKept line = false) :
    (Lines.split (format text).toList).written[index]? =
      some ((Lines.split text.toList).markAt index ++
        (List.replicate (2 * levelBelow ((Lines.split text.toList).contents.take index) line) ' ' ++
          trim line)) := by
  rw [getElem?_written_format here, place_of_not_isKept moved]
  rfl

/-- Every line that is moved stands on the sum of the steps so far, counted from the lowest sum so
far if this is below zero. From there on each further step counts in full, as long as the steps do
not lead below the floor again: no brace that was closed in vain is owed by a block opened later. -/
theorem format_level_is_height_above_lowest (text : String) (index : Nat) (line : List Char)
    (here : (Lines.split text.toList).contents[index]? = some line)
    (solid : ¬(LineKind.classify line = .blank ∨ LineKind.classify line = .lineComment)) :
    let lines := (Lines.split text.toList).contents
    let level := levelBelow (lines.take index) line
    let steps := stepsBelow (lines.take index) line
    (Lines.split (format text).toList).written[index]? =
        some ((Lines.split text.toList).markAt index ++
          (List.replicate (2 * level) ' ' ++ trim line)) ∧
      (level : Int) = total steps - min 0 (lowest steps) ∧
      ∀ later other, index < later → lines[later]? = some other →
        ¬(LineKind.classify other = .blank ∨ LineKind.classify other = .lineComment) →
        ∃ since, stepsBelow (lines.take later) other = steps ++ since ∧
          ((∀ sum ∈ partialSums since, 0 ≤ level + sum) →
            ∃ depth : Nat, (depth : Int) = level + total since ∧
              (Lines.split (format text).toList).written[later]? =
                some ((Lines.split text.toList).markAt later ++
                  (List.replicate (2 * depth) ' ' ++ trim other))) := by
  intro lines level steps
  have moved := isKept_eq_false_iff.mpr solid
  refine ⟨getElem?_written_format_of_moved here moved,
    levelBelow_eq_sub_lowest (lines.take index) line, ?_⟩
  intro later other below there solidOther
  have movedOther := isKept_eq_false_iff.mpr solidOther
  rcases exists_stepsBelow_eq_append here moved below other with ⟨since, split⟩
  refine ⟨since, split, ?_⟩
  intro above
  refine ⟨levelBelow (lines.take later) other, ?_,
    getElem?_written_format_of_moved there movedOther⟩
  rw [levelBelow_eq_foldl, split, List.foldl_append, ← levelBelow_eq_foldl]
  exact foldl_climb_of_nonneg above

/-- Two braces closed in vain, one of them behind a comment that does not count, take nothing from
the block that is opened below them. -/
theorem format_level_is_height_above_lowest_surplus :
    let text := "\x7d\n// \x7b\n\x7d\n a \x7b\n\x7d else \x7b\n\tb"
    let lines := (Lines.split text.toList).contents
    lines[3]? = some " a \x7b".toList ∧
      (Lines.split (format text).toList).written[3]? = some "a \x7b".toList ∧
      lines[5]? = some "\tb".toList ∧
      total (stepsBelow (lines.take 5) "\tb".toList) = -1 ∧
      (Lines.split (format text).toList).written[5]? = some "  b".toList := by
  intro text lines
  have opener : lines[3]? = some " a \x7b".toList := by decide
  have inside : lines[5]? = some "\tb".toList := by decide
  rcases format_level_is_height_above_lowest text 3 _ opener (by decide) with
    ⟨written, height, onward⟩
  have ground : levelBelow (lines.take 3) " a \x7b".toList = 0 :=
    Int.natCast_inj.mp (height.trans (by decide))
  rcases onward 5 _ (by decide) inside (by decide) with ⟨since, split, full⟩
  have between : since = [1, -1, 1] := List.append_cancel_left (split.symm.trans (by decide))
  rw [ground] at written full
  rw [between] at full
  rcases full (by decide) with ⟨depth, deep, below⟩
  have one : depth = 1 := Int.natCast_inj.mp (deep.trans (by decide))
  rw [one] at below
  exact ⟨opener, written, inside, by decide, below⟩

end AlloyAssist.Indentation
