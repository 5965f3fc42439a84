import RouteTree.Proofs.Cutting

/-!
# Filling targets

Filling a target asks for the values of its parameters from left to right. It
fails at the first parameter without a value and nowhere else.
-/

namespace RouteTree.Url

/-- A piece that is a parameter has a value. -/
def Filled (params : SortedMap String String) (piece : String) : Prop :=
  ∀ name, Segment.ofText piece = .param name → params.contains name

section Filling

variable {params : SortedMap String String} {pieces : List String} {piece name : String}

theorem fillPiece_of_missing (reads : Segment.ofText piece = .param name)
    (absent : params.contains name = false) (isLast : Bool) :
    fillPiece params isLast piece = .error (.missingParam name) := by
  have unbound : params.get? name = none := by
    simpa [SortedMap.contains] using absent
  rw [fillPiece, reads]
  simp only [unbound]

theorem exists_fillPiece_eq_ok (filled : Filled params piece) (isLast : Bool) :
    ∃ text, fillPiece params isLast piece = .ok text := by
  rw [fillPiece]
  cases reads : Segment.ofText piece with
  | param name =>
      have bound := filled name reads
      obtain ⟨value, found⟩ := Option.isSome_iff_exists.mp bound
      exact ⟨value, by simp only [found]⟩
  | _ => exact ⟨_, rfl⟩

theorem exists_fillPieces_eq_ok (filled : ∀ piece ∈ pieces, Filled params piece) :
    ∃ texts, fillPieces params pieces = .ok texts := by
  induction pieces with
  | nil => exact ⟨[], rfl⟩
  | cons piece rest ih =>
      obtain ⟨text, pieceFills⟩ :=
        exists_fillPiece_eq_ok (filled piece List.mem_cons_self) rest.isEmpty
      obtain ⟨texts, restFills⟩ :=
        ih fun other member => filled other (List.mem_cons_of_mem piece member)
      refine ⟨text :: texts, ?_⟩
      rw [fillPieces, pieceFills]
      simp only [Except.bind, restFills, Except.map]

theorem fillPieces_of_missing {before after : List String}
    (filled : ∀ piece ∈ before, Filled params piece)
    (reads : Segment.ofText piece = .param name) (absent : params.contains name = false) :
    fillPieces params (before ++ piece :: after) = .error (.missingParam name) := by
  induction before with
  | nil =>
      rw [List.nil_append, fillPieces, fillPiece_of_missing reads absent]
      rfl
  | cons first rest ih =>
      have restFails := ih fun other member => filled other (List.mem_cons_of_mem first member)
      obtain ⟨text, firstFills⟩ := exists_fillPiece_eq_ok (filled first List.mem_cons_self)
        (rest ++ piece :: after).isEmpty
      rw [List.cons_append, fillPieces, firstFills]
      simp only [Except.bind, restFails, Except.map]

/-- Either every parameter has a value, or there is a first one without. -/
theorem filled_or_exists_missing (params : SortedMap String String) (pieces : List String) :
    (∀ piece ∈ pieces, Filled params piece) ∨
      ∃ before piece after name, pieces = before ++ piece :: after ∧
        (∀ earlier ∈ before, Filled params earlier) ∧
        Segment.ofText piece = .param name ∧ params.contains name = false := by
  induction pieces with
  | nil => exact Or.inl fun piece member => absurd member List.not_mem_nil
  | cons first rest ih =>
      by_cases firstFilled : Filled params first
      · rcases ih with filled | ⟨before, piece, after, name, rfl, filled, reads, absent⟩
        · exact Or.inl (List.forall_mem_cons.mpr ⟨firstFilled, filled⟩)
        · exact Or.inr ⟨first :: before, piece, after, name, rfl,
            List.forall_mem_cons.mpr ⟨firstFilled, filled⟩, reads, absent⟩
      · simp only [Filled, Classical.not_forall, Bool.not_eq_true] at firstFilled
        obtain ⟨name, reads, absent⟩ := firstFilled
        exact Or.inr ⟨[], first, rest, name, rfl,
          fun earlier member => absurd member List.not_mem_nil, reads, absent⟩

end Filling

variable {target : String} {filling : Filling}

theorem exists_build_eq_ok
    (filled : ∀ piece ∈ solidPieces target, Filled filling.params piece) :
    ∃ url, build target filling = .ok url := by
  obtain ⟨texts, fills⟩ := exists_fillPieces_eq_ok filled
  rw [solidPieces] at fills
  rw [build, fillPath, fills]
  exact ⟨_, rfl⟩

/-- A parameter without a value makes building fail, at that parameter or at an
earlier one without a value. -/
theorem exists_build_eq_error {piece : String} (member : piece ∈ solidPieces target)
    (unfilled : ¬ Filled filling.params piece) :
    ∃ first ∈ solidPieces target, ∃ name, Segment.ofText first = .param name ∧
      filling.params.contains name = false ∧
      build target filling = .error (.missingParam name) := by
  rcases filled_or_exists_missing filling.params (solidPieces target) with
    filled | ⟨before, first, after, name, split, filled, reads, absent⟩
  · exact absurd (filled piece member) unfilled
  · refine ⟨first, by simp [split], name, reads, absent, ?_⟩
    have fails : fillPieces filling.params (before ++ first :: after) =
        .error (.missingParam name) := fillPieces_of_missing filled reads absent
    rw [← split, solidPieces] at fails
    rw [build, fillPath, fails]
    rfl

end RouteTree.Url
