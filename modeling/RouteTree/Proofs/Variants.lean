import RouteTree.Pattern.Expansion

/-!
# Variants of a pattern

A concrete path keeps every segment of its pattern, except that optional
segments may be left out. The search for the variants extends all of them from
left to right; what it finds is described here segment by segment.
-/

namespace RouteTree

namespace Segment

theorem beforeMark?_eq_some_iff {letters before : List Char} :
    beforeMark? letters = some before ↔ letters = before ++ ['?'] := by
  constructor
  · intro found
    induction letters generalizing before with
    | nil => cases found
    | cons letter rest ih =>
        rw [beforeMark?.eq_def] at found
        split at found
        · rename_i empty
          cases empty
        · rename_i single
          cases single
          cases found
          rfl
        · rename_i first others _ split
          cases split
          obtain ⟨shorter, restFound, rfl⟩ := Option.map_eq_some_iff.mp found
          rw [ih restFound, List.cons_append]
  · rintro rfl
    exact beforeMark?_append_mark before

/-- A segment shows the text that it was read from. -/
@[simp]
theorem text_ofText (piece : String) : (ofText piece).text = piece := by
  rw [ofText]
  by_cases splat : piece = "*"
  · rw [if_pos splat, splat]
    rfl
  · rw [if_neg splat]
    split
    · rename_i name letters
      split
      · rename_i shorter marked
        rw [beforeMark?_eq_some_iff] at marked
        rw [← String.toList_inj, letters, marked]
        simp [text, String.toList_append]
      · rw [← String.toList_inj, letters]
        simp [text, String.toList_append]
    · split
      · rename_i shorter marked
        rw [beforeMark?_eq_some_iff] at marked
        rw [← String.toList_inj, marked]
        simp [text, String.toList_append]
      · rfl

theorem concrete_eq_text {segment : Segment} (needed : segment.isOptional = false) :
    segment.concrete = segment.text := by
  cases segment with
  | optionalParam name => cases needed
  | optionalLiteral text => cases needed
  | _ => rfl

end Segment

/-- The pieces show every segment in order, except that optional segments may
be left out. -/
inductive Keeps : List Segment → List String → Prop
  | nil : Keeps [] []
  | keep (segment : Segment) {rest : List Segment} {pieces : List String} :
      Keeps rest pieces → Keeps (segment :: rest) (segment.concrete :: pieces)
  | leaveOut {segment : Segment} {rest : List Segment} {pieces : List String} :
      segment.isOptional → Keeps rest pieces → Keeps (segment :: rest) pieces

theorem keeps_nil_iff {pieces : List String} : Keeps [] pieces ↔ pieces = [] := by
  constructor
  · intro keeps
    cases keeps
    rfl
  · rintro rfl
    exact .nil

theorem keeps_cons_iff {segment : Segment} {rest : List Segment} {pieces : List String} :
    Keeps (segment :: rest) pieces ↔
      (∃ others, Keeps rest others ∧ pieces = segment.concrete :: others) ∨
        segment.isOptional ∧ Keeps rest pieces := by
  constructor
  · intro keeps
    cases keeps with
    | keep _ keeps => exact Or.inl ⟨_, keeps, rfl⟩
    | leaveOut optional keeps => exact Or.inr ⟨optional, keeps⟩
  · rintro (⟨others, keeps, rfl⟩ | ⟨optional, keeps⟩)
    · exact .keep segment keeps
    · exact .leaveOut optional keeps

theorem mem_widenVariants {variants : List (List String)} {segment : Segment}
    {pieces : List String} :
    pieces ∈ widenVariants variants segment ↔
      (∃ first ∈ variants, pieces = first ++ [segment.concrete]) ∨
        segment.isOptional ∧ pieces ∈ variants := by
  rw [widenVariants]
  cases optional : segment.isOptional <;> simp [eq_comm]

theorem mem_foldl_widenVariants {variants : List (List String)} {segments : List Segment}
    {pieces : List String} :
    pieces ∈ segments.foldl widenVariants variants ↔
      ∃ first ∈ variants, ∃ others, Keeps segments others ∧ pieces = first ++ others := by
  -- Each segment widens all variants, so the claim is made for any variants to start from.
  induction segments generalizing variants with
  | nil => simp [keeps_nil_iff]
  | cons segment rest ih =>
      rw [List.foldl_cons, ih]
      constructor
      · rintro ⟨widened, member, others, keeps, rfl⟩
        rcases mem_widenVariants.mp member with ⟨first, firstMember, rfl⟩ | ⟨optional, member⟩
        · refine ⟨first, firstMember, _, .keep segment keeps, ?_⟩
          rw [List.append_assoc, List.singleton_append]
        · exact ⟨widened, member, others, .leaveOut optional keeps, rfl⟩
      · rintro ⟨first, member, pieces, keeps, rfl⟩
        rcases keeps_cons_iff.mp keeps with ⟨others, restKeeps, rfl⟩ | ⟨optional, restKeeps⟩
        · refine ⟨first ++ [segment.concrete], ?_, others, restKeeps, ?_⟩
          · exact mem_widenVariants.mpr (Or.inl ⟨first, member, rfl⟩)
          · rw [List.append_assoc, List.singleton_append]
        · have stays := mem_widenVariants.mpr (Or.inr ⟨optional, member⟩)
          exact ⟨first, stays, pieces, restKeeps, rfl⟩

theorem mem_segmentVariants {segments : List Segment} {pieces : List String} :
    pieces ∈ segmentVariants segments ↔ Keeps segments pieces := by
  rw [segmentVariants, mem_foldl_widenVariants]
  simp

theorem mem_concretePaths {pattern path : String} :
    path ∈ concretePaths pattern ↔
      ∃ pieces, Keeps ((Text.cutAtSlashes pattern).map Segment.ofText) pieces ∧
        path = Text.joinWithSlashes pieces := by
  rw [concretePaths, List.mem_eraseDups, List.mem_map]
  simp only [mem_segmentVariants, eq_comm]

/-! ## Leaving out every optional segment -/

/-- The pieces of a pattern that are not optional. -/
def barePieces (pattern : String) : List String :=
  (Text.cutAtSlashes pattern).filter fun piece => !(Segment.ofText piece).isOptional

/-- A pattern without its optional segments. -/
def barePattern (pattern : String) : String :=
  Text.joinWithSlashes (barePieces pattern)

private theorem keeps_filter (pieces : List String) :
    Keeps (pieces.map Segment.ofText)
      (pieces.filter fun piece => !(Segment.ofText piece).isOptional) := by
  induction pieces with
  | nil => exact .nil
  | cons piece rest ih =>
      cases optional : (Segment.ofText piece).isOptional with
      | false =>
          have kept := Keeps.keep (Segment.ofText piece) ih
          rw [Segment.concrete_eq_text optional, Segment.text_ofText] at kept
          simpa [optional] using kept
      | true => simpa [optional] using Keeps.leaveOut optional ih

theorem barePattern_mem_concretePaths (pattern : String) :
    barePattern pattern ∈ concretePaths pattern :=
  mem_concretePaths.mpr ⟨barePieces pattern, keeps_filter (Text.cutAtSlashes pattern), rfl⟩

end RouteTree
