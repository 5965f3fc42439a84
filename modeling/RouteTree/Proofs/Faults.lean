import RouteTree.Proofs.Legible

/-!
# Faults of a pattern

A text is refused as a pattern at its first faulty piece: a catch-all that
something follows, or a colon without a name. Which of the two it is decides
the error, and without a faulty piece there is none.
-/

namespace RouteTree

theorem Segment.paramName?_ofText_eq_empty_iff {piece : String} :
    (ofText piece).paramName? = some "" ↔ piece = ":" ∨ piece = ":?" := by
  constructor
  · intro unnamed
    have shown := text_ofText piece
    cases reads : ofText piece with
    | splat =>
        rw [reads] at unnamed
        simp [paramName?] at unnamed
    | optionalParam name =>
        rw [reads] at unnamed shown
        have empty : name = "" := Option.some.inj unnamed
        rw [empty] at shown
        exact Or.inr shown.symm
    | param name =>
        rw [reads] at unnamed shown
        have empty : name = "" := Option.some.inj unnamed
        rw [empty] at shown
        exact Or.inl shown.symm
    | optionalLiteral text =>
        rw [reads] at unnamed
        cases unnamed
    | literal text =>
        rw [reads] at unnamed
        cases unnamed
  · rintro (rfl | rfl)
    · decide
    · decide

namespace Pattern

/-- The piece has the fault when the given pieces follow it. -/
def Faulty (piece : String) (after : List String) : PatternFault → Prop
  | .misplacedSplat => piece = "*" ∧ after ≠ []
  | .unnamedParam => piece = ":" ∨ piece = ":?"

/-- The first faulty piece has the fault. A piece before it is followed by
something, so it is no catch-all either. -/
def FirstFault (pieces : List String) (fault : PatternFault) : Prop :=
  ∃ before piece after, pieces = before ++ piece :: after ∧ Faulty piece after fault ∧
    ∀ other ∈ before, other ≠ "*" ∧ other ≠ ":" ∧ other ≠ ":?"

theorem not_firstFault_nil {fault : PatternFault} : ¬ FirstFault [] fault := by
  rintro ⟨before, piece, after, split, _⟩
  cases before <;> cases split

theorem firstFault_cons_iff {piece : String} {rest : List String} {fault : PatternFault} :
    FirstFault (piece :: rest) fault ↔
      Faulty piece rest fault ∨
        (piece ≠ "*" ∧ piece ≠ ":" ∧ piece ≠ ":?") ∧ FirstFault rest fault := by
  constructor
  · rintro ⟨before, other, after, split, faulty, sound⟩
    cases before with
    | nil =>
        cases split
        exact Or.inl faulty
    | cons head others =>
        cases split
        obtain ⟨headSound, othersSound⟩ := List.forall_mem_cons.mp sound
        exact Or.inr ⟨headSound, others, other, after, rfl, faulty, othersSound⟩
  · rintro (faulty | ⟨pieceSound, before, other, after, rfl, faulty, sound⟩)
    · exact ⟨[], piece, rest, rfl, faulty, by simp⟩
    · exact ⟨piece :: before, other, after, rfl, faulty,
        List.forall_mem_cons.mpr ⟨pieceSound, sound⟩⟩

theorem ofPieces_eq_error_iff {pieces : List String} {fault : PatternFault} :
    ofPieces pieces = .error fault ↔ FirstFault pieces fault := by
  induction pieces with
  | nil =>
      constructor
      · intro failed
        cases failed
      · intro first
        exact absurd first not_firstFault_nil
  | cons piece rest ih =>
      rw [ofPieces, firstFault_cons_iff, ← ih]
      simp only [Segment.ofText_eq_splat_iff, Segment.paramName?_ofText_eq_empty_iff]
      by_cases misplaced : piece = "*" ∧ rest ≠ []
      · rw [if_pos misplaced]
        cases fault with
        | misplacedSplat => simp [Faulty, misplaced]
        | unnamedParam => simp [Faulty, misplaced]
      · rw [if_neg misplaced]
        by_cases unnamed : piece = ":" ∨ piece = ":?"
        · rw [if_pos unnamed]
          cases fault with
          | misplacedSplat =>
              have named : ¬ (piece ≠ ":" ∧ piece ≠ ":?") :=
                fun both => not_or.mpr both unnamed
              simp [Faulty, misplaced, named]
          | unnamedParam => simp [Faulty, unnamed]
        · rw [if_neg unnamed]
          have noFault : ¬ Faulty piece rest fault := by
            cases fault with
            | misplacedSplat => exact misplaced
            | unnamedParam => exact unnamed
          cases restRead : ofPieces rest with
          | error other =>
              have present : rest ≠ [] := by
                rintro rfl
                cases restRead
              have plain : piece ≠ "*" := fun isSplat => misplaced ⟨isSplat, present⟩
              have named := not_or.mp unnamed
              simp [Except.map, noFault, plain, named]
          | ok others => simp [Except.map, noFault]

/-- A text is refused exactly for its first faulty piece. The empty text has one
empty piece, which has no fault. -/
theorem parse_eq_error_iff {text : String} {error : RouteError} :
    parse text = .error error ↔
      ∃ fault, FirstFault (Text.cutAtSlashes text) fault ∧
        error = .invalidPattern text fault := by
  rw [parse]
  by_cases empty : text.isEmpty
  · have pieces : Text.cutAtSlashes "" = [""] := rfl
    rw [if_pos empty, String.isEmpty_iff.mp empty, pieces]
    constructor
    · intro failed
      cases failed
    · rintro ⟨fault, first, _⟩
      rcases firstFault_cons_iff.mp first with faulty | ⟨_, none⟩
      · cases fault <;> simp [Faulty] at faulty
      · exact absurd none not_firstFault_nil
  · rw [if_neg empty]
    simp only [← ofPieces_eq_error_iff]
    cases ofPieces (Text.cutAtSlashes text) with
    | error fault =>
        constructor
        · intro refused
          cases refused
          exact ⟨fault, rfl, rfl⟩
        · rintro ⟨_, same, rfl⟩
          cases same
          rfl
    | ok segments =>
        constructor
        · intro refused
          cases refused
        · rintro ⟨_, same, _⟩
          cases same

end Pattern

end RouteTree
