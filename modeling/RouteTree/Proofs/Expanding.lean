import RouteTree.Proofs.Legible

/-!
# Concrete paths read again

A concrete path shows a segment without its mark, and what is shown is read once
more by whoever fills or checks the path. For most segments nothing is lost: the
path binds what the pattern binds. The exceptions are segments whose text means
something else once the mark is gone. `*?` shows the catch-all, and a text that
ends in two marks still ends in one.
-/

namespace RouteTree

namespace Segment

/-- Without its mark the text keeps its meaning. -/
def MarkedOnce (piece : String) : Prop :=
  piece ≠ "*?" ∧ ¬ ['?', '?'] <:+ piece.toList

instance (piece : String) : Decidable (MarkedOnce piece) :=
  inferInstanceAs (Decidable (_ ∧ _))

theorem ofText_of_colon {piece : String} {name : List Char}
    (letters : piece.toList = ':' :: name) :
    ofText piece =
      match beforeMark? name with
      | some shorter => .optionalParam (String.ofList shorter)
      | none => .param (String.ofList name) := by
  have plain : piece ≠ "*" := by
    rintro rfl
    cases letters
  rw [ofText, if_neg plain, letters]
  rfl

theorem ofText_of_head_ne_colon {piece : String} (plain : piece ≠ "*")
    (noColon : piece.toList.head? ≠ some ':') :
    ofText piece =
      match beforeMark? piece.toList with
      | some shorter => .optionalLiteral (String.ofList shorter)
      | none => .literal piece := by
  rw [ofText, if_neg plain]
  split
  · rename_i name letters
    exact absurd (by rw [letters, List.head?_cons]) noColon
  · rfl

private theorem beforeMark?_eq_none {letters : List Char} {piece : String}
    (once : MarkedOnce piece) {lead : List Char} (shown : piece.toList = lead ++ letters ++ ['?']) :
    beforeMark? letters = none := by
  rw [Option.eq_none_iff_forall_ne_some]
  intro before found
  have twice : piece.toList = (lead ++ before) ++ ['?', '?'] := by
    rw [shown, beforeMark?_eq_some_iff.mp found]
    simp
  exact once.2 ⟨lead ++ before, twice.symm⟩

theorem ofText_concrete {piece : String} (once : MarkedOnce piece) :
    ofText (ofText piece).concrete = (ofText piece).needed := by
  have written : (ofText piece).text = piece := text_ofText piece
  cases reads : ofText piece with
  | optionalParam name =>
      rw [reads] at written
      have shown : piece.toList = [':'] ++ name.toList ++ ['?'] := by
        rw [← written]
        simp [text, String.toList_append]
      have unmarked : beforeMark? name.toList = none := beforeMark?_eq_none once shown
      have letters : (":" ++ name).toList = ':' :: name.toList := by
        simp [String.toList_append]
      change ofText (":" ++ name) = .param name
      rw [ofText_of_colon letters, unmarked, String.ofList_toList]
  | optionalLiteral literal =>
      rw [reads] at written
      have shown : piece.toList = [] ++ literal.toList ++ ['?'] := by
        rw [← written]
        simp [text, String.toList_append]
      have unmarked : beforeMark? literal.toList = none := beforeMark?_eq_none once shown
      have plain : literal ≠ "*" := by
        rintro rfl
        exact once.1 written.symm
      have noColon : literal.toList.head? ≠ some ':' := by
        intro colon
        obtain ⟨name, letters⟩ := List.head?_eq_some_iff.mp colon
        have asParam : piece.toList = ':' :: (name ++ ['?']) := by
          rw [shown, letters]
          rfl
        rw [ofText_of_colon asParam, beforeMark?_append_mark] at reads
        cases reads
      change ofText literal = .literal literal
      rw [ofText_of_head_ne_colon plain noColon, unmarked]
  | splat => rfl
  | param name =>
      rw [reads] at written
      change ofText (text (.param name)) = .param name
      rw [written, reads]
  | literal text =>
      rw [reads] at written
      change ofText (Segment.text (.literal text)) = .literal text
      rw [written, reads]

theorem slash_not_mem_concrete {piece : String} (free : '/' ∉ piece.toList) :
    '/' ∉ (ofText piece).concrete.toList := by
  have written : (ofText piece).text = piece := text_ofText piece
  cases reads : ofText piece with
  | optionalParam name =>
      rw [← written, reads] at free
      simpa [text, concrete, String.toList_append] using free
  | optionalLiteral literal =>
      rw [← written, reads] at free
      simpa [text, concrete, String.toList_append] using free
  | _ =>
      rw [concrete_eq_text rfl, ← reads, written]
      exact free

end Segment

/-! ## Kept pieces -/

section Kept

variable {pieces kept : List String}

theorem exists_piece_of_keeps (keeps : Keeps (pieces.map Segment.ofText) kept) {shown : String}
    (member : shown ∈ kept) :
    ∃ piece ∈ pieces, shown = (Segment.ofText piece).concrete := by
  induction pieces generalizing kept with
  | nil =>
      rw [keeps_nil_iff.mp keeps] at member
      cases member
  | cons piece rest ih =>
      rw [List.map_cons] at keeps
      rcases keeps_cons_iff.mp keeps with ⟨others, restKeeps, rfl⟩ | ⟨_, restKeeps⟩
      · rcases List.mem_cons.mp member with isFirst | inOthers
        · exact ⟨piece, List.mem_cons_self, isFirst⟩
        · obtain ⟨source, sourceMember, same⟩ := ih restKeeps inOthers
          exact ⟨source, List.mem_cons_of_mem piece sourceMember, same⟩
      · obtain ⟨source, sourceMember, same⟩ := ih restKeeps member
        exact ⟨source, List.mem_cons_of_mem piece sourceMember, same⟩

/-- A piece that is not optional is kept as it is. -/
theorem mem_of_keeps (keeps : Keeps (pieces.map Segment.ofText) kept) {piece : String}
    (member : piece ∈ pieces) (needs : (Segment.ofText piece).isOptional = false) :
    piece ∈ kept := by
  induction pieces generalizing kept with
  | nil => cases member
  | cons first rest ih =>
      rw [List.map_cons] at keeps
      rcases keeps_cons_iff.mp keeps with ⟨others, restKeeps, rfl⟩ | ⟨optional, restKeeps⟩
      · rcases List.mem_cons.mp member with rfl | inRest
        · rw [Segment.concrete_eq_text needs, Segment.text_ofText]
          exact List.mem_cons_self
        · exact List.mem_cons_of_mem _ (ih restKeeps inRest)
      · rcases List.mem_cons.mp member with rfl | inRest
        · rw [needs] at optional
          cases optional
        · exact ih restKeeps inRest

theorem legible_of_keeps (once : ∀ piece ∈ pieces, Segment.MarkedOnce piece)
    (legible : Pattern.Legible pieces) (keeps : Keeps (pieces.map Segment.ofText) kept) :
    Pattern.Legible kept := by
  induction pieces generalizing kept with
  | nil =>
      rw [keeps_nil_iff.mp keeps]
      trivial
  | cons piece rest ih =>
      obtain ⟨pieceOnce, restOnce⟩ := List.forall_mem_cons.mp once
      obtain ⟨placed, named, restLegible⟩ := legible
      rw [List.map_cons] at keeps
      rcases keeps_cons_iff.mp keeps with ⟨others, restKeeps, rfl⟩ | ⟨_, restKeeps⟩
      · have reads := Segment.ofText_concrete pieceOnce
        refine ⟨?_, ?_, ih restOnce restLegible restKeeps⟩
        · intro isSplat
          have isNeeded : (Segment.ofText piece).needed = .splat := by
            rw [← reads, isSplat]
            rfl
          have isLast : piece = "*" :=
            Segment.ofText_eq_splat_iff.mp (Segment.needed_eq_splat_iff.mp isNeeded)
          rw [placed isLast] at restKeeps
          exact keeps_nil_iff.mp restKeeps
        · rw [reads, Segment.paramName?_needed]
          exact named
      · exact ih restOnce restLegible restKeeps

end Kept

/-! ## What a concrete path binds -/

theorem Params.namesOfPattern_of_parse {pattern : String} {segments : Pattern}
    (read : Pattern.parse pattern = .ok segments) :
    ∃ names, namesOfPattern pattern = .ok names ∧
      ∀ name, name ∈ names ↔ ∃ segment ∈ segments, segment.paramName? = some name := by
  refine ⟨SortedSet.ofList (segments.filterMap Segment.paramName?), ?_, ?_⟩
  · rw [namesOfPattern, read]
    rfl
  · intro name
    rw [SortedSet.mem_ofList, List.mem_filterMap]

section Agreement

variable {pattern : String} {segments pathSegments : Pattern} {kept : List String}

theorem slash_not_mem_of_keeps (keeps : Keeps ((Text.cutAtSlashes pattern).map Segment.ofText) kept) :
    ∀ shown ∈ kept, '/' ∉ shown.toList := by
  intro shown member
  obtain ⟨piece, pieceMember, rfl⟩ := exists_piece_of_keeps keeps member
  exact Segment.slash_not_mem_concrete (Text.slash_not_mem_of_mem_cutAtSlashes pieceMember)

theorem exists_parse_of_keeps (read : Pattern.parse pattern = .ok segments)
    (once : ∀ piece ∈ Text.cutAtSlashes pattern, Segment.MarkedOnce piece)
    (keeps : Keeps ((Text.cutAtSlashes pattern).map Segment.ofText) kept) :
    ∃ pathSegments, Pattern.parse (Text.joinWithSlashes kept) = .ok pathSegments := by
  by_cases nothing : kept = []
  · rw [nothing]
    exact ⟨[], rfl⟩
  · have legible := Pattern.exists_parse_iff.mp ⟨segments, read⟩
    have cut := Text.cutAtSlashes_joinWithSlashes nothing (slash_not_mem_of_keeps keeps)
    rw [Pattern.exists_parse_iff, cut]
    exact legible_of_keeps once legible keeps

/-- What is read in a concrete path is what the pattern has there, apart from the
mark. A path without pieces may still show an empty one. -/
theorem eq_needed_of_mem (read : Pattern.parse pattern = .ok segments)
    (once : ∀ piece ∈ Text.cutAtSlashes pattern, Segment.MarkedOnce piece)
    (keeps : Keeps ((Text.cutAtSlashes pattern).map Segment.ofText) kept)
    (pathRead : Pattern.parse (Text.joinWithSlashes kept) = .ok pathSegments)
    {segment : Segment} (member : segment ∈ pathSegments) :
    segment = .literal "" ∨ ∃ source ∈ segments, segment = source.needed := by
  obtain ⟨shown, shownMember, rfl⟩ := Pattern.exists_piece_of_mem pathRead member
  rcases Text.mem_or_eq_empty_of_mem_cutAtSlashes (slash_not_mem_of_keeps keeps) shownMember with
    inKept | rfl
  · obtain ⟨piece, pieceMember, rfl⟩ := exists_piece_of_keeps keeps inKept
    rw [Segment.ofText_concrete (once piece pieceMember)]
    rcases Pattern.segments_of_parse read with ⟨rfl, _⟩ | rfl
    · rw [List.mem_singleton.mp pieceMember]
      exact Or.inl rfl
    · exact Or.inr ⟨_, List.mem_map_of_mem pieceMember, rfl⟩
  · exact Or.inl rfl

theorem mem_of_needed (read : Pattern.parse pattern = .ok segments)
    (keeps : Keeps ((Text.cutAtSlashes pattern).map Segment.ofText) kept)
    (pathRead : Pattern.parse (Text.joinWithSlashes kept) = .ok pathSegments)
    {segment : Segment} (member : segment ∈ segments) (needs : segment.isOptional = false)
    {name : String} (named : segment.paramName? = some name) : segment ∈ pathSegments := by
  obtain ⟨piece, pieceMember, rfl⟩ := Pattern.exists_piece_of_mem read member
  have stays : piece ∈ kept := mem_of_keeps keeps pieceMember needs
  have cut := Text.cutAtSlashes_joinWithSlashes (List.ne_nil_of_mem stays)
    (slash_not_mem_of_keeps keeps)
  rw [← cut] at stays
  exact Pattern.mem_of_piece pathRead stays named

/-- Where no segment is marked twice, every concrete path of a pattern is a pattern
without optional segments. It binds no parameter that the pattern does not bind,
and every parameter of a segment that cannot be left out. -/
theorem concretePaths_agree (read : Pattern.parse pattern = .ok segments)
    (once : ∀ piece ∈ Text.cutAtSlashes pattern, Segment.MarkedOnce piece) :
    ∃ names, Params.namesOfPattern pattern = .ok names ∧
      ∀ path ∈ concretePaths pattern, ∃ pathSegments pathNames,
        Pattern.parse path = .ok pathSegments ∧
        (∀ segment ∈ pathSegments, segment.isOptional = false) ∧
        Params.namesOfPattern path = .ok pathNames ∧ (∀ name ∈ pathNames, name ∈ names) ∧
        ∀ segment ∈ segments, segment.isOptional = false →
          ∀ name, segment.paramName? = some name → name ∈ pathNames := by
  obtain ⟨names, bound, memNames⟩ := Params.namesOfPattern_of_parse read
  refine ⟨names, bound, ?_⟩
  intro path member
  obtain ⟨kept, keeps, rfl⟩ := mem_concretePaths.mp member
  obtain ⟨pathSegments, pathRead⟩ := exists_parse_of_keeps read once keeps
  obtain ⟨pathNames, pathBound, memPathNames⟩ := Params.namesOfPattern_of_parse pathRead
  refine ⟨pathSegments, pathNames, pathRead, ?_, pathBound, ?_, ?_⟩
  · intro segment segmentMember
    rcases eq_needed_of_mem read once keeps pathRead segmentMember with rfl | ⟨source, _, rfl⟩
    · rfl
    · exact Segment.isOptional_needed source
  · intro name nameMember
    obtain ⟨segment, segmentMember, named⟩ := (memPathNames name).mp nameMember
    rcases eq_needed_of_mem read once keeps pathRead segmentMember with
      rfl | ⟨source, sourceMember, rfl⟩
    · cases named
    · rw [Segment.paramName?_needed] at named
      exact (memNames name).mpr ⟨source, sourceMember, named⟩
  · intro segment segmentMember needs name named
    have stays := mem_of_needed read keeps pathRead segmentMember needs named
    exact (memPathNames name).mpr ⟨segment, stays, named⟩

end Agreement

/-- The path of a docs page that leaves the language out still binds the page and
the rest, and no language. -/
theorem concretePaths_agree_docs :
    "docs/:page/*" ∈ concretePaths ":lang?/docs/:page/*" ∧
      (∀ piece ∈ Text.cutAtSlashes ":lang?/docs/:page/*", Segment.MarkedOnce piece) ∧
      ∃ pathNames, Params.namesOfPattern "docs/:page/*" = .ok pathNames ∧
        "page" ∈ pathNames ∧ "*" ∈ pathNames := by
  have read : Pattern.parse ":lang?/docs/:page/*" =
      .ok [.optionalParam "lang", .literal "docs", .param "page", .splat] := by rfl
  have listed : "docs/:page/*" ∈ concretePaths ":lang?/docs/:page/*" := by decide
  have once : ∀ piece ∈ Text.cutAtSlashes ":lang?/docs/:page/*", Segment.MarkedOnce piece := by
    decide
  obtain ⟨_, _, agree⟩ := concretePaths_agree read once
  obtain ⟨_, pathNames, _, _, bound, _, keepsNames⟩ := agree _ listed
  have page : Segment.param "page" ∈
      [.optionalParam "lang", .literal "docs", .param "page", .splat] := by decide
  have rest : Segment.splat ∈
      [.optionalParam "lang", .literal "docs", .param "page", .splat] := by decide
  exact ⟨listed, once, pathNames, bound, keepsNames _ page rfl _ rfl, keepsNames _ rest rfl _ rfl⟩

/-- Without its mark `*?` is the catch-all, which may not stand in front of a
segment, and `a??` is still optional. -/
theorem concretePaths_disagree :
    Pattern.parse "*?/a" = .ok [.optionalLiteral "*", .literal "a"] ∧
      "*/a" ∈ concretePaths "*?/a" ∧
      Pattern.parse "*/a" = .error (.invalidPattern "*/a" .misplacedSplat) ∧
      Pattern.parse "a??" = .ok [.optionalLiteral "a?"] ∧
      "a?" ∈ concretePaths "a??" ∧
      Pattern.parse "a?" = .ok [.optionalLiteral "a"] := by
  refine ⟨rfl, by decide, rfl, rfl, by decide, rfl⟩

end RouteTree
