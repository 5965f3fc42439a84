import RouteTree.Proofs.Expanding
import RouteTree.Proofs.Faults
import RouteTree.Proofs.Slashes

/-!
# The grammar of patterns

Five kinds of segments share one way of writing: a colon in front, a mark behind, the
lone star. Most lists of segments have a written form that says which segments they
are; a form that other segments have as well is read as theirs. Reading a text finds the
one list of segments that has this written form and is not mistaken for another.
-/

namespace RouteTree

namespace Segment

/-- No other kind of segment is read in the written form. -/
def Unambiguous : Segment → Prop
  | .splat => True
  | .optionalParam _ => True
  | .param name => ¬ Text.EndsWith "?" name
  | .optionalLiteral text => ¬ Text.StartsWith ":" text
  | .literal text => text ≠ "*" ∧ ¬ Text.StartsWith ":" text ∧ ¬ Text.EndsWith "?" text

theorem endsWith_mark_iff {text : String} :
    Text.EndsWith "?" text ↔ ∃ before, beforeMark? text.toList = some before := by
  rw [Text.endsWith_iff_toList]
  simp only [beforeMark?_eq_some_iff]
  exact exists_congr fun before => eq_comm

theorem beforeMark?_eq_none_iff {text : String} :
    beforeMark? text.toList = none ↔ ¬ Text.EndsWith "?" text := by
  rw [endsWith_mark_iff, Option.eq_none_iff_forall_ne_some, not_exists]

theorem startsWith_colon_iff {text : String} :
    Text.StartsWith ":" text ↔ text.toList.head? = some ':' :=
  @Text.startsWith_singleton_iff ':' text

theorem unambiguous_ofText (piece : String) : (ofText piece).Unambiguous := by
  by_cases star : piece = "*"
  · rw [ofText_eq_splat_iff.mpr star]
    trivial
  · by_cases colon : Text.StartsWith ":" piece
    · obtain ⟨name, letters⟩ := List.head?_eq_some_iff.mp (startsWith_colon_iff.mp colon)
      rw [ofText_of_colon letters]
      cases found : beforeMark? name with
      | some shorter => trivial
      | none =>
          rw [← String.toList_ofList (l := name)] at found
          exact beforeMark?_eq_none_iff.mp found
    · rw [ofText_of_head_ne_colon star (mt startsWith_colon_iff.mpr colon)]
      cases found : beforeMark? piece.toList with
      | some shorter =>
          intro starts
          have letters : piece = String.ofList shorter ++ "?" := by
            rw [← String.toList_inj, beforeMark?_eq_some_iff.mp found]
            simp [String.toList_append]
          obtain ⟨rest, split⟩ := starts
          exact colon ⟨rest ++ "?", by rw [letters, split, String.append_assoc]⟩
      | none => exact ⟨star, colon, beforeMark?_eq_none_iff.mp found⟩

theorem append_mark_ne_star (text : String) : text ++ "?" ≠ "*" := by
  intro star
  have last := congrArg (fun letters => letters.toList.getLast?) star
  simp [String.toList_append] at last

theorem not_startsWith_colon_append_mark {text : String} (noColon : ¬ Text.StartsWith ":" text) :
    ¬ Text.StartsWith ":" (text ++ "?") := by
  rw [startsWith_colon_iff] at noColon ⊢
  rw [String.toList_append]
  cases letters : text.toList with
  | nil => decide
  | cons first rest => simpa [letters] using noColon

theorem ofText_text {segment : Segment} (unambiguous : segment.Unambiguous) :
    ofText segment.text = segment := by
  cases segment with
  | splat => rfl
  | optionalParam name =>
      have letters : (":" ++ name ++ "?").toList = ':' :: (name.toList ++ ['?']) := by
        simp [String.toList_append]
      rw [text, ofText_of_colon letters, beforeMark?_append_mark]
      simp only [String.ofList_toList]
  | param name =>
      have letters : (":" ++ name).toList = ':' :: name.toList := by
        simp [String.toList_append]
      rw [text, ofText_of_colon letters, beforeMark?_eq_none_iff.mpr unambiguous]
      simp only [String.ofList_toList]
  | optionalLiteral literal =>
      have letters : (literal ++ "?").toList = literal.toList ++ ['?'] := by
        simp [String.toList_append]
      have noColon := mt startsWith_colon_iff.mpr (not_startsWith_colon_append_mark unambiguous)
      rw [text, ofText_of_head_ne_colon (append_mark_ne_star literal) noColon, letters,
        beforeMark?_append_mark]
      simp only [String.ofList_toList]
  | literal literal =>
      obtain ⟨noStar, noColon, noMark⟩ := unambiguous
      rw [text, ofText_of_head_ne_colon noStar (mt startsWith_colon_iff.mpr noColon),
        beforeMark?_eq_none_iff.mpr noMark]

end Segment

namespace Pattern

/-- The segments are those that are read in their written form. The lone empty literal
is written as the empty text, which has no segments. -/
structure Canonical (segments : Pattern) : Prop where
  unambiguous : ∀ segment ∈ segments, segment.Unambiguous
  slashFree : ∀ segment ∈ segments, '/' ∉ segment.text.toList
  named : ∀ segment ∈ segments, segment.paramName? ≠ some ""
  splatLast : .splat ∉ segments.dropLast
  notBlank : segments ≠ [.literal ""]

theorem legible_iff {pieces : List String} :
    Legible pieces ↔ "*" ∉ pieces.dropLast ∧ ":" ∉ pieces ∧ ":?" ∉ pieces := by
  induction pieces with
  | nil => simp [Legible]
  | cons piece rest ih =>
      rw [legible_cons, ih, ne_eq, Segment.paramName?_ofText_eq_empty_iff, not_or]
      cases rest with
      | nil => simp [eq_comm]
      | cons next others =>
          rw [List.dropLast_cons_cons]
          constructor
          · intro legible
            obtain ⟨placed, ⟨noColon, noMark⟩, stars, colons, marks⟩ := legible
            have noStar : piece ≠ "*" := fun star => List.cons_ne_nil next others (placed star)
            exact ⟨List.not_mem_cons_of_ne_of_not_mem noStar.symm stars,
              List.not_mem_cons_of_ne_of_not_mem (Ne.symm noColon) colons,
              List.not_mem_cons_of_ne_of_not_mem (Ne.symm noMark) marks⟩
          · intro free
            obtain ⟨stars, colons, marks⟩ := free
            rw [List.mem_cons, not_or] at stars colons marks
            exact ⟨fun star => absurd star.symm stars.1, ⟨Ne.symm colons.1, Ne.symm marks.1⟩,
              stars.2, colons.2, marks.2⟩

theorem parse_empty : parse "" = .ok [] := rfl

theorem canonical_nil : Canonical [] where
  unambiguous := by simp
  slashFree := by simp
  named := by simp
  splatLast := by simp
  notBlank := by simp

section Reading

variable {text : String} {segments : Pattern}

theorem text_map_ofText (text : String) :
    Pattern.text ((Text.cutAtSlashes text).map Segment.ofText) = text := by
  rw [Pattern.text, List.map_map]
  have same : Segment.text ∘ Segment.ofText = id := funext Segment.text_ofText
  rw [same, List.map_id, Text.joinWithSlashes_cutAtSlashes]

theorem cutAtSlashes_text (canonical : Canonical segments) (present : segments ≠ []) :
    Text.cutAtSlashes (Pattern.text segments) = segments.map Segment.text := by
  apply Text.cutAtSlashes_joinWithSlashes
  · simpa using present
  · intro piece member
    obtain ⟨segment, segmentMember, rfl⟩ := List.mem_map.mp member
    exact canonical.slashFree segment segmentMember

theorem map_ofText_text (canonical : Canonical segments) :
    (segments.map Segment.text).map Segment.ofText = segments := by
  rw [List.map_map]
  have same : ∀ segment ∈ segments, (Segment.ofText ∘ Segment.text) segment = segment :=
    fun segment member => Segment.ofText_text (canonical.unambiguous segment member)
  exact (List.map_congr_left same).trans (List.map_id segments)

theorem text_ne_empty (canonical : Canonical segments) (present : segments ≠ []) :
    Pattern.text segments ≠ "" := by
  intro empty
  have cut : segments.map Segment.text = [""] := by
    rw [← cutAtSlashes_text canonical present, empty]
    rfl
  apply canonical.notBlank
  rw [← map_ofText_text canonical, cut]
  rfl

theorem text_eq_of_parse (read : parse text = .ok segments) : Pattern.text segments = text := by
  rcases segments_of_parse read with nothing | pieces
  · rw [nothing.1, nothing.2]
    rfl
  · rw [pieces, text_map_ofText]

theorem canonical_of_parse (read : parse text = .ok segments) : Canonical segments := by
  rcases segments_of_parse read with nothing | pieces
  · rw [nothing.2]
    exact canonical_nil
  · have legible : Legible (Text.cutAtSlashes text) := exists_parse_iff.mp ⟨segments, read⟩
    obtain ⟨stars, colons, marks⟩ := legible_iff.mp legible
    have origin : ∀ segment ∈ segments, ∃ piece ∈ Text.cutAtSlashes text,
        Segment.ofText piece = segment := by
      intro segment member
      exact exists_piece_of_mem read member
    constructor
    · intro segment member
      obtain ⟨piece, _, rfl⟩ := origin segment member
      exact Segment.unambiguous_ofText piece
    · intro segment member
      obtain ⟨piece, pieceMember, rfl⟩ := origin segment member
      rw [Segment.text_ofText]
      exact Text.slash_not_mem_of_mem_cutAtSlashes pieceMember
    · intro segment member unnamed
      obtain ⟨piece, pieceMember, rfl⟩ := origin segment member
      rcases Segment.paramName?_ofText_eq_empty_iff.mp unnamed with rfl | rfl
      · exact colons pieceMember
      · exact marks pieceMember
    · rw [pieces, ← List.map_dropLast]
      intro member
      obtain ⟨piece, pieceMember, isSplat⟩ := List.mem_map.mp member
      rw [Segment.ofText_eq_splat_iff.mp isSplat] at pieceMember
      exact stars pieceMember
    · intro blank
      have empty : text = "" := by
        rw [← text_eq_of_parse read, blank]
        rfl
      rw [empty, parse_empty, blank] at read
      cases read

theorem legible_map_text (canonical : Canonical segments) :
    Legible (segments.map Segment.text) := by
  rw [legible_iff, ← List.map_dropLast]
  have readAgain : ∀ segment ∈ segments, Segment.ofText segment.text = segment :=
    fun segment member => Segment.ofText_text (canonical.unambiguous segment member)
  have unnamed : ∀ piece, piece = ":" ∨ piece = ":?" → piece ∉ segments.map Segment.text := by
    intro piece bare member
    obtain ⟨segment, segmentMember, rfl⟩ := List.mem_map.mp member
    have empty := Segment.paramName?_ofText_eq_empty_iff.mpr bare
    rw [readAgain segment segmentMember] at empty
    exact canonical.named segment segmentMember empty
  refine ⟨?_, unnamed ":" (Or.inl rfl), unnamed ":?" (Or.inr rfl)⟩
  intro member
  obtain ⟨segment, segmentMember, star⟩ := List.mem_map.mp member
  have isSplat := readAgain segment ((List.dropLast_sublist segments).mem segmentMember)
  rw [star] at isSplat
  rw [← isSplat] at segmentMember
  exact canonical.splatLast segmentMember

theorem parse_text (canonical : Canonical segments) :
    parse (Pattern.text segments) = .ok segments := by
  by_cases nothing : segments = []
  · rw [nothing]
    rfl
  · have cut := cutAtSlashes_text canonical nothing
    have legible : Legible (Text.cutAtSlashes (Pattern.text segments)) := by
      rw [cut]
      exact legible_map_text canonical
    obtain ⟨others, read⟩ := exists_parse_iff.mpr legible
    rcases segments_of_parse read with empty | pieces
    · exact absurd empty.1 (text_ne_empty canonical nothing)
    · rw [read, pieces, cut, map_ofText_text canonical]

/-- A text is a pattern exactly if none of its pieces but the last is the catch-all and
none is a colon without a name. What is read in it are the segments, and no others, that
are read in their written form and have the text as theirs. -/
theorem parse_reads_grammar (text : String) :
    ((∃ segments, parse text = .ok segments) ↔
      "*" ∉ (Text.cutAtSlashes text).dropLast ∧
        ":" ∉ Text.cutAtSlashes text ∧ ":?" ∉ Text.cutAtSlashes text) ∧
    ∀ segments, parse text = .ok segments ↔
      Canonical segments ∧ Pattern.text segments = text := by
  constructor
  · rw [exists_parse_iff, legible_iff]
  · intro segments
    constructor
    · intro read
      exact ⟨canonical_of_parse read, text_eq_of_parse read⟩
    · intro written
      rw [← written.2]
      exact parse_text written.1

example : parse "*?//::a??" = .ok [.optionalLiteral "*", .literal "", .optionalParam ":a?"] := rfl

end Reading

end Pattern

end RouteTree
