import RouteTree.Proofs.Choices

/-!
# Substituting values into a pattern

What fills a target looks only at the ends of each piece, leaves empty pieces out before
it starts, and takes the star for the catch-all where nothing is left behind it. On a
pattern this comes to the same as reading the segments and resolving each of them: the
first parameter without a value fails, and otherwise the texts of the segments are
joined.
-/

namespace RouteTree.Url

variable {params : SortedMap String String}

/-- The text of a piece as its ends tell it: a star in the last place, then a colon in
front, then a mark behind. -/
def fillByEnds (params : SortedMap String String) (isLast : Bool) (piece : String) :
    Except RouteError String :=
  if isLast ∧ piece = "*" then .ok ((params.get? "*").getD "")
  else if Text.StartsWith ":" piece then
    let name := String.ofList piece.toList.tail
    if Text.EndsWith "?" name then .ok ((params.get? (unmarked name)).getD "")
    else
      match params.get? name with
      | some value => .ok value
      | none => .error (.missingParam name)
  else .ok (unmarked piece)

/-- What a segment shows; nothing if it has no value. -/
def resolved (params : SortedMap String String) : Segment → String
  | .splat => (params.get? "*").getD ""
  | .optionalParam name => (params.get? name).getD ""
  | .param name => (params.get? name).getD ""
  | .optionalLiteral text => text
  | .literal text => text

/-- The name of a parameter that has no value. Only a plain parameter needs one. -/
def unboundName? (params : SortedMap String String) : Segment → Option String
  | .param name => if params.contains name then none else some name
  | _ => none

/-! ## Pieces -/

theorem fillByEnds_of_colon {isLast : Bool} (rest : String) :
    fillByEnds params isLast (":" ++ rest) =
      if Text.EndsWith "?" rest then .ok ((params.get? (unmarked rest)).getD "")
      else
        match params.get? rest with
        | some value => .ok value
        | none => .error (.missingParam rest) := by
  have colon : Text.StartsWith ":" (":" ++ rest) := ⟨rest, rfl⟩
  have noStar : ¬ (isLast ∧ ":" ++ rest = "*") := by
    intro star
    rw [star.2] at colon
    exact absurd colon (by decide)
  have name : String.ofList (":" ++ rest).toList.tail = rest := by
    rw [String.toList_append]
    exact String.ofList_toList
  rw [fillByEnds, if_neg noStar, if_pos colon, name]

theorem fillByEnds_of_no_colon {isLast : Bool} {piece : String}
    (noStar : piece ≠ "*") (noColon : ¬ Text.StartsWith ":" piece) :
    fillByEnds params isLast piece = .ok (unmarked piece) := by
  rw [fillByEnds, if_neg (fun star => noStar star.2), if_neg noColon]

theorem fillByEnds_eq_fillPiece (params : SortedMap String String) (isLast : Bool)
    (piece : String) : fillByEnds params isLast piece = fillPiece params isLast piece := by
  have written : (Segment.ofText piece).text = piece := Segment.text_ofText piece
  have unambiguous := Segment.unambiguous_ofText piece
  rw [fillPiece]
  cases reads : Segment.ofText piece with
  | splat =>
      rw [reads] at written
      rw [← written]
      cases isLast <;> rfl
  | optionalParam name =>
      rw [reads, Segment.text, String.append_assoc] at written
      have marked : Text.EndsWith "?" (name ++ "?") := ⟨name, rfl⟩
      rw [← written, fillByEnds_of_colon, if_pos marked, unmarked_append_mark]
  | param name =>
      rw [reads] at written unambiguous
      rw [← written, Segment.text, fillByEnds_of_colon]
      exact if_neg unambiguous
  | optionalLiteral literal =>
      rw [reads] at written unambiguous
      rw [← written, Segment.text,
        fillByEnds_of_no_colon (Segment.append_mark_ne_star literal)
          (Segment.not_startsWith_colon_append_mark unambiguous), unmarked_append_mark]
  | literal literal =>
      rw [reads] at written unambiguous
      rw [← written, Segment.text, fillByEnds_of_no_colon unambiguous.1 unambiguous.2.1,
        unmarked, if_neg unambiguous.2.2]

/-- Without a catch-all before the last place, a piece shows what its segment does. -/
theorem fillPiece_eq {piece : String} {isLast : Bool} (placed : piece = "*" → isLast) :
    fillPiece params isLast piece =
      match unboundName? params (Segment.ofText piece) with
      | some name => .error (.missingParam name)
      | none => .ok (resolved params (Segment.ofText piece)) := by
  rw [fillPiece]
  cases reads : Segment.ofText piece with
  | splat =>
      have last : isLast = true := placed (Segment.ofText_eq_splat_iff.mp reads)
      simp only [last, unboundName?, resolved, if_true]
  | param name =>
      cases found : params.get? name with
      | none =>
          have absent : params.contains name = false := by simp [SortedMap.contains, found]
          simp only [unboundName?, absent, found, Bool.false_eq_true, if_false]
      | some value =>
          have bound : params.contains name = true := by simp [SortedMap.contains, found]
          simp only [unboundName?, bound, if_true, resolved, found, Option.getD_some]
  | optionalParam name => rfl
  | optionalLiteral text => rfl
  | literal text => rfl

theorem fillPieces_eq {pieces : List String} (legible : Pattern.Legible pieces) :
    fillPieces params pieces =
      match (pieces.map Segment.ofText).findSome? (unboundName? params) with
      | some name => .error (.missingParam name)
      | none => .ok ((pieces.map Segment.ofText).map (resolved params)) := by
  induction pieces with
  | nil => rfl
  | cons piece rest ih =>
      obtain ⟨placed, _, restLegible⟩ := legible
      have last : piece = "*" → rest.isEmpty :=
        fun star => List.isEmpty_iff.mpr (placed star)
      rw [fillPieces, fillPiece_eq last, ih restLegible, List.map_cons, List.findSome?_cons]
      cases unboundName? params (Segment.ofText piece) with
      | some name => rfl
      | none =>
          cases (rest.map Segment.ofText).findSome? (unboundName? params) with
          | some name => rfl
          | none => rfl

/-! ## Blank pieces -/

theorem nonempty_cons_of_solid {piece : String} (solid : piece ≠ "") (rest : List String) :
    nonempty (piece :: rest) = piece :: nonempty rest := by
  simp [nonempty, solid]

theorem legible_nonempty {pieces : List String} (legible : Pattern.Legible pieces) :
    Pattern.Legible (nonempty pieces) := by
  induction pieces with
  | nil => trivial
  | cons piece rest ih =>
      obtain ⟨placed, named, restLegible⟩ := legible
      by_cases blank : piece = ""
      · rw [blank]
        exact ih restLegible
      · rw [nonempty_cons_of_solid blank]
        refine ⟨?_, named, ih restLegible⟩
        intro star
        rw [placed star]
        rfl

theorem findSome?_nonempty (params : SortedMap String String) (pieces : List String) :
    ((nonempty pieces).map Segment.ofText).findSome? (unboundName? params) =
      (pieces.map Segment.ofText).findSome? (unboundName? params) := by
  induction pieces with
  | nil => rfl
  | cons piece rest ih =>
      by_cases blank : piece = ""
      · rw [blank]
        exact ih
      · rw [nonempty_cons_of_solid blank, List.map_cons, List.map_cons, List.findSome?_cons,
          List.findSome?_cons, ih]

theorem joinPieces_nonempty (params : SortedMap String String) (pieces : List String) :
    Text.joinPieces (((nonempty pieces).map Segment.ofText).map (resolved params)) =
      Text.joinPieces ((pieces.map Segment.ofText).map (resolved params)) := by
  induction pieces with
  | nil => rfl
  | cons piece rest ih =>
      by_cases blank : piece = ""
      · rw [blank]
        exact ih
      · rw [nonempty_cons_of_solid blank]
        simp only [List.map_cons, Text.joinPieces_cons, ih]

/-! ## Patterns -/

section Patterns

variable {pattern : String} {segments : Pattern}

/-- A leading slash is kept, whatever is filled in behind it. -/
def leadOf (pattern : String) : String :=
  if Text.StartsWith "/" pattern then "/" else ""

theorem fillPath_eq_map (target : String) (params : SortedMap String String) :
    fillPath target params =
      (fillPieces params (solidPieces target)).map fun texts =>
        leadOf target ++ Text.joinPieces texts := by
  have lead : (if target.toList.head? = some '/' then "/" else "") = leadOf target := by
    have slash : target.toList.head? = some '/' ↔ Text.StartsWith "/" target :=
      (@Text.startsWith_singleton_iff '/' target).symm
    simp only [leadOf, slash]
  rw [fillPath, lead]
  rfl

theorem fillPath_of_legible (legible : Pattern.Legible (Text.cutAtSlashes pattern))
    (params : SortedMap String String) :
    fillPath pattern params =
      match ((Text.cutAtSlashes pattern).map Segment.ofText).findSome? (unboundName? params) with
      | some name => .error (.missingParam name)
      | none => .ok (leadOf pattern ++ Text.joinPieces
          (((Text.cutAtSlashes pattern).map Segment.ofText).map (resolved params))) := by
  rw [fillPath_eq_map, solidPieces, fillPieces_eq (legible_nonempty legible),
    findSome?_nonempty]
  cases ((Text.cutAtSlashes pattern).map Segment.ofText).findSome? (unboundName? params) with
  | some name => rfl
  | none =>
      rw [← joinPieces_nonempty]
      rfl

theorem fillPath_of_parse (read : Pattern.parse pattern = .ok segments)
    (params : SortedMap String String) :
    fillPath pattern params =
      match segments.findSome? (unboundName? params) with
      | some name => .error (.missingParam name)
      | none => .ok (leadOf pattern ++ Text.joinPieces (segments.map (resolved params))) := by
  have legible := Pattern.exists_parse_iff.mp ⟨segments, read⟩
  rcases Pattern.segments_of_parse read with nothing | pieces
  · rw [nothing.1, nothing.2]
    rfl
  · rw [pieces]
    exact fillPath_of_legible legible params

/-- Filling a pattern agrees with reading it, although it looks at nothing but the ends of
the pieces. The first parameter without a value is the error; without one, the texts of
the segments are joined behind the leading slash, and what shows nothing is left out. -/
theorem fillPath_agrees_with_parse (read : Pattern.parse pattern = .ok segments)
    (params : SortedMap String String) :
    (∀ isLast piece, fillPiece params isLast piece = fillByEnds params isLast piece) ∧
      fillPath pattern params =
        match segments.findSome? (unboundName? params) with
        | some name => .error (.missingParam name)
        | none => .ok ((if Text.StartsWith "/" pattern then "/" else "") ++
            Text.joinPieces (segments.map (resolved params))) := by
  constructor
  · intro isLast piece
    exact (fillByEnds_eq_fillPiece params isLast piece).symm
  · exact fillPath_of_parse read params

end Patterns

/-- The tab of a user's files may be left out, the user may not. -/
theorem user_files_filled :
    Pattern.parse "/users/:id/:tab?/*" =
        .ok [.literal "", .literal "users", .param "id", .optionalParam "tab", .splat] ∧
      fillPath "/users/:id/:tab?/*" (SortedMap.ofList [("id", "7"), ("*", "a/b")]) =
        .ok "/users/7/a/b" ∧
      fillPath "/users/:id/:tab?/*" (SortedMap.ofList [("tab", "files")]) =
        .error (.missingParam "id") := by
  have read : Pattern.parse "/users/:id/:tab?/*" =
      .ok [.literal "", .literal "users", .param "id", .optionalParam "tab", .splat] := rfl
  have filled := (fillPath_agrees_with_parse read (SortedMap.ofList [("id", "7"), ("*", "a/b")])).2
  have missing := (fillPath_agrees_with_parse read (SortedMap.ofList [("tab", "files")])).2
  refine ⟨read, filled.trans ?_, missing.trans ?_⟩
  · rfl
  · rfl

end RouteTree.Url
