import RouteTree.Proofs.Needs
import RouteTree.Proofs.Outcome
import RouteTree.Proofs.Substitution

/-!
# The shape of built paths

A target may be any text, with slashes at its ends, doubled slashes and stray marks. What
is built from it has the leading slash of the target and no other slash but those between
texts and within values, since empty pieces are left out before and after they are filled.
A colon in front of a piece is never left: either a value took its place or filling failed.
-/

namespace RouteTree.Url

variable {params : SortedMap String String}

/-- The text has no slash and no colon in front. -/
structure Plain (text : String) : Prop where
  slashFree : '/' ∉ text.toList
  noColon : ¬ Text.StartsWith ":" text

theorem plain_empty : Plain "" := ⟨by decide, by decide⟩

theorem plain_star : Plain "*" := ⟨by decide, by decide⟩

/-- The text is a value of the map. -/
def IsValue (params : SortedMap String String) (text : String) : Prop :=
  ∃ entry ∈ params.entries, entry.2 = text

theorem isValue_of_get? {name value : String} (found : params.get? name = some value) :
    IsValue params value := by
  have member : (name, value) ∈ params.entries :=
    (findEntry_eq_some_iff params.increasing.nodup).mp found
  exact ⟨(name, value), member, rfl⟩

theorem plain_or_isValue_getD (params : SortedMap String String) (name : String) :
    Plain ((params.get? name).getD "") ∨ IsValue params ((params.get? name).getD "") := by
  cases found : params.get? name with
  | none => exact Or.inl plain_empty
  | some value => exact Or.inr (isValue_of_get? found)

/-! ## Filled pieces -/

theorem plain_or_isValue_of_fillPiece {isLast : Bool} {piece text : String}
    (free : '/' ∉ piece.toList) (filled : fillPiece params isLast piece = .ok text) :
    Plain text ∨ IsValue params text := by
  have written : (Segment.ofText piece).text = piece := Segment.text_ofText piece
  have unambiguous := Segment.unambiguous_ofText piece
  rw [fillPiece] at filled
  cases reads : Segment.ofText piece with
  | splat =>
      rw [reads] at filled
      cases isLast with
      | true =>
          cases filled
          exact plain_or_isValue_getD params "*"
      | false =>
          cases filled
          exact Or.inl plain_star
  | optionalParam name =>
      rw [reads] at filled
      cases filled
      exact plain_or_isValue_getD params name
  | param name =>
      rw [reads] at filled
      cases found : params.get? name with
      | none =>
          simp only [found] at filled
          cases filled
      | some value =>
          simp only [found] at filled
          cases filled
          exact Or.inr (isValue_of_get? found)
  | optionalLiteral literal =>
      rw [reads] at filled written unambiguous
      cases filled
      rw [← written, Segment.text, String.toList_append, List.mem_append, not_or] at free
      exact Or.inl ⟨free.1, unambiguous⟩
  | literal literal =>
      rw [reads] at filled written unambiguous
      cases filled
      rw [← written] at free
      exact Or.inl ⟨free, unambiguous.2.1⟩

theorem plain_or_isValue_of_fillPieces {pieces texts : List String}
    (free : ∀ piece ∈ pieces, '/' ∉ piece.toList)
    (filled : fillPieces params pieces = .ok texts) :
    ∀ text ∈ texts, Plain text ∨ IsValue params text := by
  induction pieces generalizing texts with
  | nil =>
      cases filled
      intro text member
      cases member
  | cons piece rest ih =>
      obtain ⟨pieceFree, restFree⟩ := List.forall_mem_cons.mp free
      rw [fillPieces] at filled
      cases pieceFills : fillPiece params rest.isEmpty piece with
      | error failure =>
          rw [pieceFills] at filled
          cases filled
      | ok text =>
          rw [pieceFills] at filled
          obtain ⟨others, restFills, rfl⟩ := map_eq_ok_iff.mp filled
          exact List.forall_mem_cons.mpr
            ⟨plain_or_isValue_of_fillPiece pieceFree pieceFills, ih restFree restFills⟩

theorem slash_not_mem_of_mem_solidPieces {target piece : String}
    (member : piece ∈ solidPieces target) : '/' ∉ piece.toList :=
  Text.slash_not_mem_of_mem_cutAtSlashes (List.mem_of_mem_filter member)

/-- A built path is the leading slash of its target and the texts of the pieces. -/
theorem exists_texts_of_fillPath {target path : String}
    (filled : fillPath target params = .ok path) :
    ∃ texts, path = leadOf target ++ Text.joinPieces texts ∧
      ∀ text ∈ texts, Plain text ∨ IsValue params text := by
  rw [fillPath_eq_map] at filled
  obtain ⟨texts, piecesFilled, rfl⟩ := map_eq_ok_iff.mp filled
  have free : ∀ piece ∈ solidPieces target, '/' ∉ piece.toList :=
    fun piece member => slash_not_mem_of_mem_solidPieces member
  exact ⟨texts, rfl, plain_or_isValue_of_fillPieces free piecesFilled⟩

/-! ## Behind the leading slash -/

section Lead

variable {target joined : String}

theorem leadOf_cases (target : String) :
    Text.StartsWith "/" target ∧ leadOf target = "/" ∨
      ¬ Text.StartsWith "/" target ∧ leadOf target = "" := by
  by_cases slash : Text.StartsWith "/" target
  · exact Or.inl ⟨slash, if_pos slash⟩
  · exact Or.inr ⟨slash, if_neg slash⟩

theorem startsWith_lead_iff (flush : Text.Flush joined) :
    Text.StartsWith "/" (leadOf target ++ joined) ↔ Text.StartsWith "/" target := by
  rcases leadOf_cases target with kept | none
  · rw [kept.2]
    exact iff_of_true ⟨joined, rfl⟩ kept.1
  · rw [none.2, String.empty_append]
    exact iff_of_false flush.start none.1

theorem contains_slashes_lead_iff (flush : Text.Flush joined) :
    Text.Contains "//" (leadOf target ++ joined) ↔ Text.Contains "//" joined := by
  rcases leadOf_cases target with kept | none
  · rw [kept.2, Text.contains_slash_append_iff flush]
  · rw [none.2, String.empty_append]

theorem eq_slash_of_endsWith_lead (flush : Text.Flush joined)
    (ends : Text.EndsWith "/" (leadOf target ++ joined)) : leadOf target ++ joined = "/" := by
  rcases leadOf_cases target with kept | none
  · rw [kept.2] at ends ⊢
    by_cases nothing : joined = ""
    · rw [nothing, String.append_empty]
    · exact absurd ends (Text.not_endsWith_slash_append nothing flush)
  · rw [none.2, String.empty_append] at ends
    exact absurd ends flush.finish

theorem solidPieces_lead (target joined : String) :
    solidPieces (leadOf target ++ joined) = solidPieces joined := by
  rcases leadOf_cases target with kept | none
  · rw [kept.2, solidPieces_slash_append]
  · rw [none.2, String.empty_append]

end Lead

/-! ## Values -/

/-- No value has a slash at either end or two slashes side by side. -/
def SlashesInside (params : SortedMap String String) : Prop :=
  ∀ entry ∈ params.entries, Text.Flush entry.2 ∧ ¬ Text.Contains "//" entry.2

/-- No piece of a value starts with a colon. -/
def ColonFree (params : SortedMap String String) : Prop :=
  ∀ entry ∈ params.entries, ¬ Text.StartsWith ":" entry.2 ∧ ¬ Text.Contains "/:" entry.2

instance (params : SortedMap String String) : Decidable (SlashesInside params) :=
  inferInstanceAs (Decidable (∀ entry ∈ params.entries, _))

instance (params : SortedMap String String) : Decidable (ColonFree params) :=
  inferInstanceAs (Decidable (∀ entry ∈ params.entries, _))

theorem slashes_inside_text (inside : SlashesInside params) {text : String}
    (origin : Plain text ∨ IsValue params text) :
    Text.Flush text ∧ ¬ Text.Contains "//" text := by
  rcases origin with plain | ⟨entry, member, rfl⟩
  · exact ⟨Text.flush_of_free plain.slashFree, Text.not_contains_slashes_of_free plain.slashFree⟩
  · exact inside entry member

theorem no_colon_in_text (colonFree : ColonFree params) {text piece : String}
    (origin : Plain text ∨ IsValue params text) (member : piece ∈ Text.cutAtSlashes text) :
    ¬ Text.StartsWith ":" piece := by
  intro colon
  rcases origin with plain | ⟨entry, entryMember, rfl⟩
  · rw [Text.cutAtSlashes_of_free plain.slashFree, List.mem_singleton] at member
    rw [member] at colon
    exact plain.noColon colon
  · obtain ⟨noColon, noneBehind⟩ := colonFree entry entryMember
    rcases Text.startsWith_or_contains_of_mem member colon with starts | behind
    · exact noColon starts
    · exact noneBehind behind

/-- Whatever the target, a path that is built with values of clean slashes starts with a
slash exactly if the target does, has no two slashes side by side, and ends with a slash
only if it is nothing else. Where no value brings a colon, no piece starts with one. -/
theorem fillPath_shape {target path : String} (inside : SlashesInside params)
    (filled : fillPath target params = .ok path) :
    (Text.StartsWith "/" path ↔ Text.StartsWith "/" target) ∧
      ¬ Text.Contains "//" path ∧
      (Text.EndsWith "/" path → path = "/") ∧
      (ColonFree params → ∀ piece ∈ Text.cutAtSlashes path, ¬ Text.StartsWith ":" piece) := by
  obtain ⟨texts, rfl, origins⟩ := exists_texts_of_fillPath filled
  have clean : ∀ text ∈ texts, Text.Flush text ∧ ¬ Text.Contains "//" text :=
    fun text member => slashes_inside_text inside (origins text member)
  have textsFlush : ∀ text ∈ texts, Text.Flush text :=
    fun text member => (clean text member).1
  have flush : Text.Flush (Text.joinPieces texts) := Text.flush_joinPieces textsFlush
  refine ⟨startsWith_lead_iff flush, ?_, eq_slash_of_endsWith_lead flush, ?_⟩
  · rw [contains_slashes_lead_iff flush, Text.contains_joinPieces_iff textsFlush]
    intro doubled
    obtain ⟨text, member, inText⟩ := doubled
    exact (clean text member).2 inText
  · intro colonFree piece member colon
    have solid : piece ≠ "" := by
      intro blank
      rw [blank] at colon
      exact absurd colon (by decide)
    have shown : piece ∈ solidPieces (leadOf target ++ Text.joinPieces texts) :=
      List.mem_filter.mpr ⟨member, by simpa using solid⟩
    rw [solidPieces_lead, solidPieces_joinPieces, List.mem_flatMap] at shown
    obtain ⟨text, textMember, pieceMember⟩ := shown
    have inText : piece ∈ Text.cutAtSlashes text := List.mem_of_mem_filter pieceMember
    exact no_colon_in_text colonFree (origins text textMember) inText colon

/-- A target with stray slashes and marks, an absent value and a catch-all of two pieces. -/
theorem untidy_target_shaped :
    SlashesInside (SortedMap.ofList [("id", "7:8"), ("*", "a/b")]) ∧
      ColonFree (SortedMap.ofList [("id", "7:8"), ("*", "a/b")]) ∧
      fillPath "//users/:id//?/:tab?/*/" (SortedMap.ofList [("id", "7:8"), ("*", "a/b")]) =
        .ok "/users/7:8/a/b" ∧
      Text.StartsWith "/" "/users/7:8/a/b" ∧ ¬ Text.Contains "//" "/users/7:8/a/b" ∧
      ∀ piece ∈ Text.cutAtSlashes "/users/7:8/a/b", ¬ Text.StartsWith ":" piece := by
  have inside : SlashesInside (SortedMap.ofList [("id", "7:8"), ("*", "a/b")]) := by decide
  have colonFree : ColonFree (SortedMap.ofList [("id", "7:8"), ("*", "a/b")]) := by decide
  have filled : fillPath "//users/:id//?/:tab?/*/"
      (SortedMap.ofList [("id", "7:8"), ("*", "a/b")]) = .ok "/users/7:8/a/b" := rfl
  obtain ⟨leads, notDoubled, _, noToken⟩ := fillPath_shape inside filled
  exact ⟨inside, colonFree, filled, leads.mpr (by decide), notDoubled, noToken colonFree⟩

end RouteTree.Url
