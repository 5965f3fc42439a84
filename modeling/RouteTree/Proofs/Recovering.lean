import RouteTree.Proofs.Substitution

/-!
# Recovering values from paths

When every parameter of a pattern has a value that shows, the filled path has one text for
each of them, and the literals stand between these texts at known places. Only the last
text may have slashes, so each of the others ends at the slash behind it, and equal paths
come from equal values.
-/

namespace RouteTree

namespace Text

/-- A text without slashes ends where the first slash stands, so it can be told from what
is joined behind it. -/
theorem eq_and_eq_of_joinPaths_eq {first rest other otherRest : String}
    (free : '/' ∉ first.toList) (otherFree : '/' ∉ other.toList)
    (blank : first = "" ↔ other = "") (restBlank : rest = "" ↔ otherRest = "")
    (same : joinPaths first rest = joinPaths other otherRest) :
    first = other ∧ rest = otherRest := by
  by_cases empty : first = ""
  · have otherEmpty := blank.mp empty
    rw [empty, otherEmpty, joinPaths_empty_left, joinPaths_empty_left] at same
    exact ⟨by rw [empty, otherEmpty], same⟩
  · by_cases restEmpty : rest = ""
    · have otherRestEmpty := restBlank.mp restEmpty
      rw [restEmpty, otherRestEmpty, joinPaths_empty_right, joinPaths_empty_right] at same
      exact ⟨same, by rw [restEmpty, otherRestEmpty]⟩
    · rw [joinPaths_of_ne_empty empty restEmpty,
        joinPaths_of_ne_empty (mt blank.mpr empty) (mt restBlank.mpr restEmpty)] at same
      have cut := congrArg cutAtSlashes same
      rw [cutAtSlashes_append_slash, cutAtSlashes_append_slash, cutAtSlashes_of_free free,
        cutAtSlashes_of_free otherFree, List.singleton_append, List.singleton_append,
        List.cons.injEq] at cut
      have rejoined := congrArg joinWithSlashes cut.2
      rw [joinWithSlashes_cutAtSlashes, joinWithSlashes_cutAtSlashes] at rejoined
      exact ⟨cut.1, rejoined⟩

section Shown

variable {α : Type} {items : List α} {shown otherShown : α → String}

theorem joinPieces_map_eq_empty_iff
    (blank : ∀ item ∈ items, shown item = "" ↔ otherShown item = "") :
    joinPieces (items.map shown) = "" ↔ joinPieces (items.map otherShown) = "" := by
  rw [joinPieces_eq_empty_iff, joinPieces_eq_empty_iff, List.forall_mem_map,
    List.forall_mem_map]
  exact forall₂_congr blank

/-- What items show can be read off the joined texts, if it is known which of them show
nothing and only the last may show a slash. -/
theorem eq_of_joinPieces_map_eq
    (blank : ∀ item ∈ items, shown item = "" ↔ otherShown item = "")
    (free : ∀ item ∈ items.dropLast, '/' ∉ (shown item).toList)
    (otherFree : ∀ item ∈ items.dropLast, '/' ∉ (otherShown item).toList)
    (same : joinPieces (items.map shown) = joinPieces (items.map otherShown)) :
    ∀ item ∈ items, shown item = otherShown item := by
  induction items with
  | nil =>
      intro item member
      cases member
  | cons first rest ih =>
      obtain ⟨firstBlank, restBlank⟩ := List.forall_mem_cons.mp blank
      rw [List.map_cons, List.map_cons, joinPieces_cons, joinPieces_cons] at same
      cases rest with
      | nil =>
          -- The last item may show slashes, but nothing is joined behind it.
          rw [List.map_nil, List.map_nil, joinPieces_nil, joinPaths_empty_right,
            joinPaths_empty_right] at same
          exact List.forall_mem_singleton.mpr same
      | cons next others =>
          rw [List.dropLast_cons_cons] at free otherFree
          obtain ⟨firstFree, restFree⟩ := List.forall_mem_cons.mp free
          obtain ⟨firstOtherFree, restOtherFree⟩ := List.forall_mem_cons.mp otherFree
          obtain ⟨sameFirst, sameRest⟩ := eq_and_eq_of_joinPaths_eq firstFree firstOtherFree
            firstBlank (joinPieces_map_eq_empty_iff restBlank) same
          exact List.forall_mem_cons.mpr
            ⟨sameFirst, ih restBlank restFree restOtherFree sameRest⟩

end Shown

end Text

namespace Url

/-- Every parameter of the pattern has a value that shows, and the value of a plain
parameter has no slashes. -/
structure Supplies (params : SortedMap String String) (segments : Pattern)
    (names : SortedSet String) : Prop where
  shows : ∀ name ∈ names, ∃ value, params.get? name = some value ∧ value ≠ ""
  slashFree : ∀ name value, .param name ∈ segments → params.get? name = some value →
    '/' ∉ value.toList

section Patterns

variable {pattern : String} {segments : Pattern} {names : SortedSet String}
  {params first second : SortedMap String String} {segment : Segment}

/-- A parameter that has a value shows it. -/
theorem resolved_of_get? {name value : String} (binds : segment.paramName? = some name)
    (found : params.get? name = some value) : resolved params segment = value := by
  cases segment with
  | splat =>
      cases binds
      rw [resolved, found, Option.getD_some]
  | optionalParam name =>
      cases binds
      rw [resolved, found, Option.getD_some]
  | param name =>
      cases binds
      rw [resolved, found, Option.getD_some]
  | optionalLiteral text => cases binds
  | literal text => cases binds

/-- A segment without a parameter shows the same whatever is filled in. -/
theorem resolved_of_unnamed (unnamed : segment.paramName? = none) :
    resolved first segment = resolved second segment := by
  cases segment with
  | splat => cases unnamed
  | optionalParam name => cases unnamed
  | param name => cases unnamed
  | optionalLiteral text => rfl
  | literal text => rfl

variable (read : Pattern.parse pattern = .ok segments)
  (named : Params.namesOfPattern pattern = .ok names)

include read named

theorem mem_names_iff {name : String} :
    name ∈ names ↔ ∃ segment ∈ segments, segment.paramName? = some name := by
  rw [Params.namesOfPattern, read] at named
  cases named
  rw [SortedSet.mem_ofList, List.mem_filterMap]

namespace Supplies

theorem exists_value (supplied : Supplies params segments names) (member : segment ∈ segments)
    {name : String} (binds : segment.paramName? = some name) :
    ∃ value, params.get? name = some value ∧ value ≠ "" ∧ resolved params segment = value := by
  have listed : name ∈ names := (mem_names_iff read named).mpr ⟨segment, member, binds⟩
  obtain ⟨value, found, present⟩ := supplied.shows name listed
  exact ⟨value, found, present, resolved_of_get? binds found⟩

/-- Filling a pattern never fails for want of a value. -/
theorem fillPath_eq_ok (supplied : Supplies params segments names) :
    fillPath pattern params =
      .ok (leadOf pattern ++ Text.joinPieces (segments.map (resolved params))) := by
  have bound : segments.findSome? (unboundName? params) = none := by
    rw [List.findSome?_eq_none_iff]
    intro segment member
    cases segment with
    | param name =>
        obtain ⟨value, found, _⟩ := supplied.exists_value read named member rfl
        simp [unboundName?, SortedMap.contains, found]
    | splat => rfl
    | optionalParam name => rfl
    | optionalLiteral text => rfl
    | literal text => rfl
  rw [fillPath_of_parse read, bound]

/-- No segment but the last shows a slash. -/
theorem slash_not_mem_resolved (supplied : Supplies params segments names)
    (needed : ∀ name, .optionalParam name ∉ segments) :
    ∀ segment ∈ segments.dropLast, '/' ∉ (resolved params segment).toList := by
  have canonical := Pattern.canonical_of_parse read
  intro segment early
  have member : segment ∈ segments := (List.dropLast_sublist segments).mem early
  have written := canonical.slashFree segment member
  cases segment with
  | splat => exact absurd early canonical.splatLast
  | optionalParam name => exact absurd member (needed name)
  | param name =>
      obtain ⟨value, found, _, shown⟩ := supplied.exists_value read named member rfl
      rw [shown]
      exact supplied.slashFree name value member found
  | optionalLiteral text =>
      rw [Segment.text, String.toList_append, List.mem_append, not_or] at written
      exact written.1
  | literal text => exact written

variable (firstSupplied : Supplies first segments names)
  (secondSupplied : Supplies second segments names)

include firstSupplied secondSupplied

/-- Which segments show nothing does not depend on the values. -/
theorem resolved_eq_empty_iff (member : segment ∈ segments) :
    resolved first segment = "" ↔ resolved second segment = "" := by
  cases binds : segment.paramName? with
  | none => rw [resolved_of_unnamed binds]
  | some name =>
      obtain ⟨value, _, present, shown⟩ := firstSupplied.exists_value read named member binds
      obtain ⟨other, _, otherPresent, otherShown⟩ :=
        secondSupplied.exists_value read named member binds
      rw [shown, otherShown]
      exact iff_of_false present otherPresent

/-- Every segment shows the same exactly if every parameter has the same value. -/
theorem resolved_eq_iff_get?_eq :
    (∀ segment ∈ segments, resolved first segment = resolved second segment) ↔
      ∀ name ∈ names, first.get? name = second.get? name := by
  constructor
  · intro same name listed
    obtain ⟨segment, member, binds⟩ := (mem_names_iff read named).mp listed
    obtain ⟨value, found, _, shown⟩ := firstSupplied.exists_value read named member binds
    obtain ⟨other, otherFound, _, otherShown⟩ :=
      secondSupplied.exists_value read named member binds
    rw [found, otherFound, ← shown, ← otherShown, same segment member]
  · intro same segment member
    cases binds : segment.paramName? with
    | none => exact resolved_of_unnamed binds
    | some name =>
        have listed : name ∈ names := (mem_names_iff read named).mpr ⟨segment, member, binds⟩
        obtain ⟨value, found, _, shown⟩ := firstSupplied.exists_value read named member binds
        have otherFound : second.get? name = some value := by
          rw [← same name listed, found]
        rw [shown, resolved_of_get? binds otherFound]

end Supplies

/-- Two ways to fill a pattern without optional parameters lead to the same path exactly if
they agree on every parameter of the pattern. -/
theorem fillPath_eq_iff_values_agree (needed : ∀ name, .optionalParam name ∉ segments)
    (firstSupplied : Supplies first segments names)
    (secondSupplied : Supplies second segments names) :
    ∃ path other, fillPath pattern first = .ok path ∧ fillPath pattern second = .ok other ∧
      (path = other ↔ ∀ name ∈ names, first.get? name = second.get? name) := by
  refine ⟨_, _, firstSupplied.fillPath_eq_ok read named,
    secondSupplied.fillPath_eq_ok read named, ?_⟩
  rw [String.append_right_inj,
    ← firstSupplied.resolved_eq_iff_get?_eq read named secondSupplied]
  constructor
  · intro same
    have blank : ∀ segment ∈ segments,
        resolved first segment = "" ↔ resolved second segment = "" :=
      fun segment member => firstSupplied.resolved_eq_empty_iff read named secondSupplied member
    exact Text.eq_of_joinPieces_map_eq blank
      (firstSupplied.slash_not_mem_resolved read named needed)
      (secondSupplied.slash_not_mem_resolved read named needed) same
  · intro same
    rw [List.map_congr_left same]

end Patterns

namespace Sample

/-- A pattern with a blank piece and an optional literal, which both show the same in every
path. -/
def revisionPattern : Pattern :=
  [.literal "users", .param "id", .optionalLiteral "v", .literal "", .splat]

/-- A revision of a file of one user. -/
def revision (file : String) : SortedMap String String :=
  SortedMap.ofList [("id", "7"), ("*", file)]

theorem get?_revision (file name : String) :
    (revision file).get? name =
      if name = "*" then some file else if name = "id" then some "7" else none := by
  simp only [revision, SortedMap.ofList, List.foldl_cons, List.foldl_nil,
    SortedMap.get?_insert, SortedMap.get?_empty]

theorem supplies_revision (file : String) (present : file ≠ "") :
    Supplies (revision file) revisionPattern (SortedSet.ofList ["id", "*"]) where
  shows := by
    intro name member
    rw [SortedSet.mem_ofList, List.mem_cons, List.mem_singleton] at member
    rcases member with rfl | rfl
    · exact ⟨"7", get?_revision file "id", by decide⟩
    · exact ⟨file, get?_revision file "*", present⟩
  slashFree := by
    intro name value member found
    simp only [revisionPattern, List.mem_cons, Segment.param.injEq, reduceCtorEq, false_or,
      List.not_mem_nil, or_false] at member
    rw [member, get?_revision, if_neg (by decide), if_pos rfl] at found
    cases found
    decide

end Sample

/-- The files of a user lead to different paths, although the literal in front of them
comes up in one of them as well. -/
theorem revisions_told_apart :
    Pattern.parse "users/:id/v?//*" = .ok Sample.revisionPattern ∧
      Params.namesOfPattern "users/:id/v?//*" = .ok (SortedSet.ofList ["id", "*"]) ∧
      (∀ name, .optionalParam name ∉ Sample.revisionPattern) ∧
      fillPath "users/:id/v?//*" (Sample.revision "v/b") = .ok "users/7/v/v/b" ∧
      fillPath "users/:id/v?//*" (Sample.revision "v/b") ≠
        fillPath "users/:id/v?//*" (Sample.revision "b") := by
  have read : Pattern.parse "users/:id/v?//*" = .ok Sample.revisionPattern := rfl
  have named : Params.namesOfPattern "users/:id/v?//*" =
      .ok (SortedSet.ofList ["id", "*"]) := by rfl
  have needed : ∀ name, .optionalParam name ∉ Sample.revisionPattern := by
    simp [Sample.revisionPattern]
  obtain ⟨path, other, filled, otherFilled, told⟩ := fillPath_eq_iff_values_agree read named needed
    (Sample.supplies_revision "v/b" (by decide))
    (Sample.supplies_revision "b" (by decide))
  refine ⟨read, named, needed, rfl, ?_⟩
  rw [filled, otherFilled]
  intro same
  have agree := told.mp (Except.ok.inj same) "*" (by decide)
  revert agree
  decide

end Url

end RouteTree
