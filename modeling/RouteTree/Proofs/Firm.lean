import RouteTree.Proofs.Expanding
import RouteTree.Proofs.Slashes

/-!
# Firm patterns

Leaving out optional segments may bring an empty segment to the end of a path,
and a lone mark shows as an empty segment when it is kept. A pattern is firm if
neither can happen. If it has no slash at either end, none of its concrete paths
has one there, and two slashes stand side by side in them exactly if they do so in
the pattern.
-/

namespace RouteTree

/-! ## Kept pieces around an empty one -/

theorem keeps_append_iff {first second : List Segment} {pieces : List String} :
    Keeps (first ++ second) pieces ↔ ∃ front back, pieces = front ++ back ∧
      Keeps first front ∧ Keeps second back := by
  induction first generalizing pieces with
  | nil =>
      constructor
      · intro keeps
        exact ⟨[], pieces, rfl, .nil, keeps⟩
      · rintro ⟨front, back, rfl, frontKeeps, backKeeps⟩
        rwa [keeps_nil_iff.mp frontKeeps]
  | cons segment rest ih =>
      simp only [List.cons_append, keeps_cons_iff, ih]
      constructor
      · rintro (⟨_, ⟨front, back, rfl, frontKeeps, backKeeps⟩, rfl⟩ |
          ⟨optional, front, back, rfl, frontKeeps, backKeeps⟩)
        · exact ⟨segment.concrete :: front, back, rfl, Or.inl ⟨front, frontKeeps, rfl⟩, backKeeps⟩
        · exact ⟨front, back, rfl, Or.inr ⟨optional, frontKeeps⟩, backKeeps⟩
      · rintro ⟨_, back, rfl, ⟨front, frontKeeps, rfl⟩ | ⟨optional, frontKeeps⟩, backKeeps⟩
        · exact Or.inl ⟨front ++ back, ⟨front, back, rfl, frontKeeps, backKeeps⟩, rfl⟩
        · exact Or.inr ⟨optional, _, back, rfl, frontKeeps, backKeeps⟩

/-- A piece that is shown comes from a segment, and what stands around it from the
segments around that one. -/
theorem exists_segment_of_keeps {segments : List Segment} {shown : String}
    {front back : List String} (keeps : Keeps segments (front ++ shown :: back)) :
    ∃ before segment after, segments = before ++ segment :: after ∧ segment.concrete = shown ∧
      Keeps before front ∧ Keeps after back := by
  induction segments generalizing front with
  | nil => simp [keeps_nil_iff] at keeps
  | cons segment rest ih =>
      rcases keeps_cons_iff.mp keeps with ⟨others, restKeeps, split⟩ | ⟨optional, restKeeps⟩
      · cases front with
        | nil =>
            cases split
            exact ⟨[], segment, rest, rfl, rfl, .nil, restKeeps⟩
        | cons first others =>
            cases split
            obtain ⟨before, found, after, rfl, shows, beforeKeeps, afterKeeps⟩ := ih restKeeps
            exact ⟨segment :: before, found, after, rfl, shows, .keep segment beforeKeeps,
              afterKeeps⟩
      · obtain ⟨before, found, after, rfl, shows, beforeKeeps, afterKeeps⟩ := ih restKeeps
        exact ⟨segment :: before, found, after, rfl, shows, .leaveOut optional beforeKeeps,
          afterKeeps⟩

theorem Segment.concrete_ofText_eq_empty_iff {piece : String} :
    (ofText piece).concrete = "" ↔ piece = "" ∨ piece = "?" := by
  constructor
  · intro hidden
    have written : (ofText piece).text = piece := text_ofText piece
    cases reads : ofText piece with
    | optionalLiteral literal =>
        rw [reads] at written hidden
        have literalEmpty : literal = "" := hidden
        rw [← written, literalEmpty]
        exact Or.inr rfl
    | optionalParam name =>
        rw [reads] at hidden
        simp [concrete] at hidden
    | _ =>
        rw [reads, concrete_eq_text rfl, ← reads, written] at hidden
        exact Or.inl hidden
  · rintro (rfl | rfl)
    · rfl
    · rfl

/-! ## Firmness -/

/-- A segment that cannot be left out. -/
def Needed (piece : String) : Prop :=
  (Segment.ofText piece).isOptional = false

/-- A pattern of several segments has no lone mark among them, and on neither side of
an empty segment can all that is there be left out. -/
def Firm (pattern : String) : Prop :=
  ∀ before piece after, Text.cutAtSlashes pattern = before ++ piece :: after →
    before ++ after ≠ [] → piece ≠ "?" ∧
      (piece = "" → (before ≠ [] → ∃ other ∈ before, Needed other) ∧
        (after ≠ [] → ∃ other ∈ after, Needed other))

theorem firm_of_no_blank {pattern : String}
    (none : ∀ piece ∈ Text.cutAtSlashes pattern, piece ≠ "?" ∧ piece ≠ "") : Firm pattern := by
  intro before piece after cut _
  have member : piece ∈ Text.cutAtSlashes pattern := by simp [cut]
  obtain ⟨notMark, present⟩ := none piece member
  exact ⟨notMark, fun empty => absurd empty present⟩

theorem keeps_ne_nil {pieces kept : List String} (keeps : Keeps (pieces.map Segment.ofText) kept)
    (needed : ∃ piece ∈ pieces, Needed piece) : kept ≠ [] := by
  obtain ⟨piece, member, needs⟩ := needed
  exact List.ne_nil_of_mem (mem_of_keeps keeps member needs)

section Concrete

variable {pattern path : String}

/-- Cutting a path gives back the pieces that it shows, if there are any. -/
theorem exists_pieces_of_mem (member : path ∈ concretePaths pattern) :
    ∃ pieces, Keeps ((Text.cutAtSlashes pattern).map Segment.ofText) pieces ∧
      (pieces = [] ∧ path = "" ∨ Text.cutAtSlashes path = pieces) := by
  obtain ⟨pieces, keeps, rfl⟩ := mem_concretePaths.mp member
  refine ⟨pieces, keeps, ?_⟩
  by_cases nothing : pieces = []
  · rw [nothing]
    exact Or.inl ⟨rfl, rfl⟩
  · exact Or.inr (Text.cutAtSlashes_joinWithSlashes nothing (slash_not_mem_of_keeps keeps))

namespace Firm

/-- Around an empty piece that is shown there is more to see, and the pattern has two
slashes there. -/
theorem around_empty_piece (firm : Firm pattern) (closed : Text.Flush pattern)
    {front back : List String}
    (keeps : Keeps ((Text.cutAtSlashes pattern).map Segment.ofText) (front ++ "" :: back))
    (several : front ++ back ≠ []) :
    front ≠ [] ∧ back ≠ [] ∧ Text.Contains "//" pattern := by
  obtain ⟨segmentsBefore, segment, segmentsAfter, split, shows, beforeKeeps, afterKeeps⟩ :=
    exists_segment_of_keeps keeps
  obtain ⟨before, rest, cut, rfl, restSplit⟩ := List.map_eq_append_iff.mp split
  obtain ⟨piece, after, rfl, rfl, rfl⟩ := List.map_eq_cons_iff.mp restSplit
  -- A pattern of one segment shows no more than one piece.
  have others : before ++ after ≠ [] := by
    intro nothing
    obtain ⟨rfl, rfl⟩ := List.append_eq_nil_iff.mp nothing
    rw [keeps_nil_iff.mp beforeKeeps, keeps_nil_iff.mp afterKeeps] at several
    exact several rfl
  obtain ⟨notMark, guarded⟩ := firm before piece after cut others
  have empty : piece = "" :=
    (Segment.concrete_ofText_eq_empty_iff.mp shows).resolve_right notMark
  rw [empty] at cut
  have beforePresent : before ≠ [] := by
    rintro rfl
    exact closed.start (Text.startsWith_slash_iff.mpr ⟨after, others, cut⟩)
  have afterPresent : after ≠ [] := by
    rintro rfl
    exact closed.finish (Text.endsWith_slash_iff.mpr ⟨before, beforePresent, cut⟩)
  obtain ⟨neededBefore, neededAfter⟩ := guarded empty
  exact ⟨keeps_ne_nil beforeKeeps (neededBefore beforePresent),
    keeps_ne_nil afterKeeps (neededAfter afterPresent),
    Text.contains_slashes_iff.mpr ⟨before, after, beforePresent, afterPresent, cut⟩⟩

theorem flush (firm : Firm pattern) (closed : Text.Flush pattern)
    (member : path ∈ concretePaths pattern) : Text.Flush path := by
  obtain ⟨pieces, keeps, ⟨_, rfl⟩ | rfl⟩ := exists_pieces_of_mem member
  · exact Text.flush_empty
  · constructor
    · intro starts
      obtain ⟨back, present, cut⟩ := Text.startsWith_slash_iff.mp starts
      rw [cut] at keeps
      have leading : Keeps ((Text.cutAtSlashes pattern).map Segment.ofText) ([] ++ "" :: back) :=
        keeps
      obtain ⟨notFirst, _, _⟩ := firm.around_empty_piece closed leading present
      exact notFirst rfl
    · intro ends
      obtain ⟨front, present, cut⟩ := Text.endsWith_slash_iff.mp ends
      rw [cut] at keeps
      have several : front ++ [] ≠ [] := by rwa [List.append_nil]
      obtain ⟨_, notLast, _⟩ := firm.around_empty_piece closed keeps several
      exact notLast rfl

theorem contains_slashes_iff (firm : Firm pattern) (closed : Text.Flush pattern)
    (member : path ∈ concretePaths pattern) :
    Text.Contains "//" path ↔ Text.Contains "//" pattern := by
  obtain ⟨pieces, keeps, shown⟩ := exists_pieces_of_mem member
  constructor
  · intro doubled
    rcases shown with ⟨_, rfl⟩ | rfl
    · exact absurd doubled Text.not_contains_slashes_empty
    · obtain ⟨front, back, frontPresent, _, cut⟩ := Text.contains_slashes_iff.mp doubled
      rw [cut] at keeps
      exact (firm.around_empty_piece closed keeps (by simp [frontPresent])).2.2
  · intro doubled
    obtain ⟨before, after, beforePresent, afterPresent, cut⟩ :=
      Text.contains_slashes_iff.mp doubled
    obtain ⟨neededBefore, neededAfter⟩ :=
      (firm before "" after cut (by simp [beforePresent])).2 rfl
    rw [cut, List.map_append, List.map_cons] at keeps
    obtain ⟨front, _, rfl, frontKeeps, restKeeps⟩ := keeps_append_iff.mp keeps
    -- An empty segment is not optional, so every path shows it.
    rcases keeps_cons_iff.mp restKeeps with ⟨back, backKeeps, rfl⟩ | ⟨optional, _⟩
    · have cutPath : Text.cutAtSlashes path = front ++ "" :: back :=
        shown.resolve_left fun nothing => by simp at nothing
      exact Text.contains_slashes_iff.mpr ⟨front, back,
        keeps_ne_nil frontKeeps (neededBefore beforePresent),
        keeps_ne_nil backKeeps (neededAfter afterPresent), cutPath⟩
    · cases optional

end Firm

end Concrete

end RouteTree
