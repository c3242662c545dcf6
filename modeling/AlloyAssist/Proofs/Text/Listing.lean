import AlloyAssist.Proofs.Text.Splitting

/-!
# Lines and endings side by side

Whoever asks for the lines of a text is given two lists, the lines and their endings, and
a flag for the byte order mark. Two lists and a flag can be put together in many ways that
no text is taken apart into: the lists may differ in length or be empty, an ending may be
missing in the middle or stand behind the last line. `Listing.WellFormed` says which
listings are left, and taking texts apart is a bijection onto these.

The shape of a well-formed listing is that of `Lines`, so both round trips are those of
`Lines`, seen through `Lines.listing`.
-/

namespace AlloyAssist.Text

/-- Lines and their endings in two lists. -/
structure Listing where
  contents : List (List Char)
  endings : List (Option Ending)
  hasMark : Bool
  deriving DecidableEq, Repr

namespace Listing

/-- Each line with its own ending, behind the byte order mark if there is one. -/
def join (listing : Listing) : List Char :=
  (if listing.hasMark then [byteOrderMark] else []) ++
    (listing.contents.zip listing.endings).flatMap fun line =>
      line.1 ++ line.2.elim [] Ending.chars

/-- There is a line, each line has its place for an ending, and the ending of the last
line alone is missing. -/
structure Shaped (listing : Listing) : Prop where
  inhabited : listing.contents ≠ []
  paired : listing.endings.length = listing.contents.length
  closed : ∀ ending ∈ listing.endings.dropLast, ending.isSome
  last : listing.endings.getLast? = some none

/-- A listing that a text can be taken apart into. -/
structure WellFormed (listing : Listing) : Prop extends listing.Shaped where
  free : ∀ content ∈ listing.contents, '\n' ∉ content
  /-- A carriage return in front of a line feed is part of the ending. -/
  returns : ∀ line ∈ listing.contents.zip listing.endings,
    line.2 = some .lf → line.1.getLast? ≠ some '\r'
  /-- A byte order mark in front of the text is not part of the first line. -/
  mark : listing.hasMark = false → listing.contents.head?.bind List.head? ≠ some byteOrderMark

theorem exists_eq_map_some {endings : List (Option Ending)}
    (closed : ∀ ending ∈ endings, ending.isSome) :
    ∃ present : List Ending, endings = present.map some := by
  induction endings with
  | nil => exact ⟨[], rfl⟩
  | cons ending endings ih =>
      rcases List.forall_mem_cons.mp closed with ⟨first, rest⟩
      rcases Option.isSome_iff_exists.mp first with ⟨firstEnding, rfl⟩
      rcases ih rest with ⟨present, rfl⟩
      exact ⟨firstEnding :: present, rfl⟩

end Listing

namespace Lines

/-- What is told to the outside. -/
def listing (lines : Lines) : Listing :=
  ⟨lines.contents, lines.endings, lines.hasMark⟩

theorem zip_contents_endings (lines : Lines) :
    lines.contents.zip lines.endings =
      lines.closed.map (fun line => (line.content, some line.ending)) ++ [(lines.last, none)] := by
  unfold contents endings
  rw [List.zip_append (by simp), List.zip_map']
  rfl

theorem join_listing (lines : Lines) : lines.listing.join = lines.join := by
  unfold Listing.join listing
  simp only [zip_contents_endings, List.flatMap_append, List.flatMap_map, List.flatMap_singleton,
    Option.elim_some, Option.elim_none, List.append_nil]
  rw [join, List.append_assoc]
  rfl

theorem shaped_listing (lines : Lines) : lines.listing.Shaped := by
  constructor
  · simp [listing, contents]
  · simp [listing]
  · simp [listing, endings]
  · simp [listing, endings]

/-- Nothing but lines has the shape of lines. -/
theorem exists_listing_eq {listing : Listing} (shaped : listing.Shaped) :
    ∃ lines : Lines, lines.listing = listing := by
  rcases listing with ⟨contents, endings, hasMark⟩
  rcases shaped with ⟨inhabited, paired, closed, unclosed⟩
  simp only at inhabited paired closed unclosed
  rcases List.eq_nil_or_concat contents with rfl | ⟨front, last, rfl⟩
  · exact absurd rfl inhabited
  · rcases List.getLast?_eq_some_iff.mp unclosed with ⟨frontEndings, rfl⟩
    rw [List.dropLast_concat] at closed
    rcases Listing.exists_eq_map_some closed with ⟨present, rfl⟩
    have sameLength : front.length = present.length := by
      simpa using paired.symm
    have frontEq : (front.zip present).map Prod.fst = front :=
      List.map_fst_zip (Nat.le_of_eq sameLength)
    have presentEq : (front.zip present).map Prod.snd = present :=
      List.map_snd_zip (Nat.le_of_eq sameLength.symm)
    refine ⟨⟨hasMark, (front.zip present).map fun line => ⟨line.1, line.2⟩, last⟩, ?_⟩
    simp only [Lines.listing, Lines.contents, Lines.endings, List.map_map, Listing.mk.injEq,
      List.concat_eq_append, and_true]
    constructor
    · exact congrArg (· ++ [last]) frontEq
    · have endingsEq := congrArg (List.map some) presentEq
      rw [List.map_map] at endingsEq
      exact congrArg (· ++ [none]) endingsEq

theorem wellFormed_listing_iff (lines : Lines) : lines.listing.WellFormed ↔ lines.WellFormed := by
  constructor
  · intro wellFormed
    constructor
    · intro line membership
      have content : line.content ∈ lines.contents :=
        List.mem_append_left _ (List.mem_map_of_mem membership)
      have pair : (line.content, some line.ending) ∈ lines.contents.zip lines.endings := by
        rw [zip_contents_endings]
        exact List.mem_append_left _ (List.mem_map.mpr ⟨line, membership, rfl⟩)
      constructor
      · exact wellFormed.free line.content content
      · intro lf
        exact wellFormed.returns _ pair (congrArg some lf)
    · apply wellFormed.free
      simp [listing, contents]
    · intro unmarked
      have mark := wellFormed.mark unmarked
      rw [listing, contents_eq_cons] at mark
      exact mark
  · intro wellFormed
    refine ⟨shaped_listing lines, ?_, ?_, ?_⟩
    · intro content membership
      simp only [listing, contents, List.mem_append, List.mem_map, List.mem_singleton] at membership
      rcases membership with ⟨line, lineMembership, rfl⟩ | rfl
      · exact (wellFormed.closed line lineMembership).free
      · exact wellFormed.last
    · intro pair membership lf
      simp only [listing, zip_contents_endings, List.mem_append, List.mem_map,
        List.mem_singleton] at membership
      rcases membership with ⟨line, lineMembership, rfl⟩ | rfl
      · exact (wellFormed.closed line lineMembership).ending (Option.some.inj lf)
      · cases lf
    · intro unmarked
      rw [listing, contents_eq_cons]
      exact wellFormed.mark unmarked

/-- Texts and well-formed listings are two views of the same thing: what a text is taken
apart into is well formed and puts the text together again, and every well-formed listing
is found again in the text that it puts together. -/
theorem split_bijective_onto_wellFormed :
    (∀ text : List Char,
      (split text).listing.WellFormed ∧ (split text).listing.join = text) ∧
    ∀ listing : Listing, listing.WellFormed → (split listing.join).listing = listing := by
  constructor
  · intro text
    constructor
    · rw [wellFormed_listing_iff]
      exact wellFormed_split text
    · rw [join_listing, join_split]
  · intro listing wellFormed
    rcases exists_listing_eq wellFormed.toShaped with ⟨lines, rfl⟩
    rw [join_listing, split_join ((wellFormed_listing_iff lines).mp wellFormed)]

/-- Carriage returns in front of the ending and of the end, an empty line, and a byte order
mark behind the one that is set aside. -/
theorem split_join_stray_returns :
    let listing : Listing :=
      ⟨[[byteOrderMark, 'a', '\r'], [], ['b', '\r']], [some .crlf, some .lf, none], true⟩
    listing.WellFormed ∧ (split listing.join).listing = listing := by
  intro listing
  have wellFormed : listing.WellFormed :=
    { inhabited := by decide
      paired := by decide
      closed := by decide
      last := by decide
      free := by decide
      returns := by decide
      mark := by decide }
  exact ⟨wellFormed, split_bijective_onto_wellFormed.2 listing wellFormed⟩

end Lines

end AlloyAssist.Text
