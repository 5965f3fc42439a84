import RouteTree.Proofs.Chain
import RouteTree.Proofs.Cutting
import RouteTree.Proofs.Variants

/-!
# Texts that are patterns

Whether a text is a pattern can be told from its pieces: a catch-all has to be
the last of them, and every parameter needs a name. Two paths that are joined
are a pattern when both are and the first has no catch-all, so a path that is
joined from several ones may have a catch-all at its end only.
-/

namespace RouteTree

namespace Segment

theorem ofText_eq_splat_iff {piece : String} : ofText piece = .splat ↔ piece = "*" := by
  constructor
  · intro reads
    have shown := text_ofText piece
    rw [reads] at shown
    exact shown.symm
  · rintro rfl
    rfl

/-- What the segment is when it may not be left out. -/
def needed : Segment → Segment
  | .optionalParam name => .param name
  | .optionalLiteral text => .literal text
  | segment => segment

@[simp]
theorem isOptional_needed (segment : Segment) : segment.needed.isOptional = false := by
  cases segment <;> rfl

@[simp]
theorem paramName?_needed (segment : Segment) :
    segment.needed.paramName? = segment.paramName? := by
  cases segment <;> rfl

theorem needed_eq_splat_iff {segment : Segment} : segment.needed = .splat ↔ segment = .splat := by
  cases segment <;> simp [needed]

end Segment

namespace Pattern

/-- A catch-all is the last of the pieces, and every parameter has a name. -/
def Legible : List String → Prop
  | [] => True
  | piece :: rest =>
      (piece = "*" → rest = []) ∧ (Segment.ofText piece).paramName? ≠ some "" ∧ Legible rest

theorem legible_cons {piece : String} {rest : List String} :
    Legible (piece :: rest) ↔
      (piece = "*" → rest = []) ∧ (Segment.ofText piece).paramName? ≠ some "" ∧
        Legible rest :=
  Iff.rfl

theorem legible_empty_piece : Legible [""] := by
  refine ⟨by simp, ?_, trivial⟩
  decide

theorem exists_ofPieces_iff {pieces : List String} :
    (∃ segments, ofPieces pieces = .ok segments) ↔ Legible pieces := by
  induction pieces with
  | nil => exact ⟨fun _ => trivial, fun _ => ⟨[], rfl⟩⟩
  | cons piece rest ih =>
      rw [ofPieces, legible_cons, ← ih]
      by_cases misplaced : Segment.ofText piece = .splat ∧ rest ≠ []
      · have isSplat : piece = "*" := Segment.ofText_eq_splat_iff.mp misplaced.1
        simp only [if_pos misplaced]
        constructor
        · rintro ⟨segments, read⟩
          cases read
        · rintro ⟨placed, _⟩
          exact absurd (placed isSplat) misplaced.2
      · have placed : piece = "*" → rest = [] := by
          intro isSplat
          have reads := Segment.ofText_eq_splat_iff.mpr isSplat
          simpa [reads] using misplaced
        by_cases unnamed : (Segment.ofText piece).paramName? = some ""
        · simp only [if_neg misplaced, if_pos unnamed]
          constructor
          · rintro ⟨segments, read⟩
            cases read
          · rintro ⟨_, named, _⟩
            exact absurd unnamed named
        · simp only [if_neg misplaced, if_neg unnamed]
          constructor
          · rintro ⟨segments, read⟩
            cases restRead : ofPieces rest with
            | error fault =>
                rw [restRead] at read
                cases read
            | ok others => exact ⟨placed, unnamed, others, rfl⟩
          · rintro ⟨_, _, others, restRead⟩
            rw [restRead]
            exact ⟨_, rfl⟩

/-- A text is a pattern exactly if its pieces are legible. The empty text has one
empty piece but no segment, and is a pattern either way. -/
theorem exists_parse_iff {text : String} :
    (∃ segments, parse text = .ok segments) ↔ Legible (Text.cutAtSlashes text) := by
  rw [parse]
  by_cases empty : text.isEmpty
  · rw [if_pos empty, String.isEmpty_iff.mp empty]
    exact ⟨fun _ => legible_empty_piece, fun _ => ⟨[], rfl⟩⟩
  · rw [if_neg empty, ← exists_ofPieces_iff]
    cases ofPieces (Text.cutAtSlashes text) with
    | error fault =>
        constructor
        · rintro ⟨segments, read⟩
          cases read
        · rintro ⟨segments, read⟩
          cases read
    | ok others => exact ⟨fun _ => ⟨others, rfl⟩, fun _ => ⟨others, rfl⟩⟩

/-- Of the pieces of a pattern only a lone empty one has no segment. -/
theorem segments_of_parse {text : String} {segments : Pattern}
    (read : parse text = .ok segments) :
    text = "" ∧ segments = [] ∨ segments = (Text.cutAtSlashes text).map Segment.ofText := by
  rw [parse] at read
  by_cases empty : text.isEmpty
  · rw [if_pos empty] at read
    cases read
    exact Or.inl ⟨String.isEmpty_iff.mp empty, rfl⟩
  · rw [if_neg empty] at read
    cases piecesRead : ofPieces (Text.cutAtSlashes text) with
    | error fault =>
        rw [piecesRead] at read
        cases read
    | ok others =>
        rw [piecesRead] at read
        cases read
        exact Or.inr (ofPieces_eq_map piecesRead)

theorem exists_piece_of_mem {text : String} {segments : Pattern}
    (read : parse text = .ok segments) {segment : Segment} (member : segment ∈ segments) :
    ∃ piece ∈ Text.cutAtSlashes text, Segment.ofText piece = segment := by
  rcases segments_of_parse read with ⟨_, rfl⟩ | rfl
  · cases member
  · exact List.mem_map.mp member

theorem mem_of_piece {text : String} {segments : Pattern}
    (read : parse text = .ok segments) {piece name : String}
    (member : piece ∈ Text.cutAtSlashes text)
    (named : (Segment.ofText piece).paramName? = some name) :
    Segment.ofText piece ∈ segments := by
  rcases segments_of_parse read with ⟨rfl, rfl⟩ | rfl
  · have isEmpty : piece = "" := List.mem_singleton.mp member
    rw [isEmpty] at named
    cases named
  · exact List.mem_map.mpr ⟨piece, member, rfl⟩

/-! ## Joining -/

theorem legible_append_iff {first second : List String} (present : second ≠ []) :
    Legible (first ++ second) ↔ Legible first ∧ "*" ∉ first ∧ Legible second := by
  induction first with
  | nil => simp [Legible]
  | cons piece rest ih =>
      have goesOn : rest ++ second ≠ [] := List.append_ne_nil_of_right_ne_nil rest present
      rw [List.cons_append, legible_cons, ih, legible_cons, List.mem_cons, not_or]
      constructor
      · rintro ⟨placed, named, restLegible, restPlain, secondLegible⟩
        have plain : "*" ≠ piece := fun isSplat => goesOn (placed isSplat.symm)
        exact ⟨⟨fun isSplat => absurd isSplat.symm plain, named, restLegible⟩,
          ⟨plain, restPlain⟩, secondLegible⟩
      · rintro ⟨⟨_, named, restLegible⟩, ⟨plain, restPlain⟩, secondLegible⟩
        exact ⟨fun isSplat => absurd isSplat.symm plain, named, restLegible, restPlain,
          secondLegible⟩

theorem splat_not_mem_dropLast {pieces : List String} (legible : Legible pieces) :
    "*" ∉ pieces.dropLast := by
  induction pieces with
  | nil => exact List.not_mem_nil
  | cons piece rest ih =>
      obtain ⟨placed, _, restLegible⟩ := legible
      cases rest with
      | nil => exact List.not_mem_nil
      | cons next others =>
          rw [List.dropLast_cons_cons, List.mem_cons, not_or]
          have plain : piece ≠ "*" := fun isSplat => List.cons_ne_nil _ _ (placed isSplat)
          exact ⟨plain.symm, ih restLegible⟩

/-- Patterns that are joined are a pattern exactly if a catch-all is followed by
empty paths only. -/
theorem legible_joinPieces_iff {paths : List String}
    (each : ∀ path ∈ paths, Legible (Text.cutAtSlashes path)) :
    Legible (Text.cutAtSlashes (Text.joinPieces paths)) ↔
      paths.Pairwise fun upper lower => "*" ∈ Text.cutAtSlashes upper → lower = "" := by
  induction paths with
  | nil => exact ⟨fun _ => List.Pairwise.nil, fun _ => legible_empty_piece⟩
  | cons path rest ih =>
      obtain ⟨pathLegible, restLegible⟩ := List.forall_mem_cons.mp each
      rw [Text.joinPieces_cons, List.pairwise_cons, ← ih restLegible]
      by_cases pathEmpty : path = ""
      · subst pathEmpty
        have noSplat : "*" ∉ Text.cutAtSlashes "" := by decide
        simp [noSplat]
      · by_cases restEmpty : Text.joinPieces rest = ""
        · have nothing := Text.joinPieces_eq_empty_iff.mp restEmpty
          rw [restEmpty, Text.joinPaths_empty_right]
          exact ⟨fun _ => ⟨fun lower member _ => nothing lower member, legible_empty_piece⟩,
            fun _ => pathLegible⟩
        · have something : ¬ ∀ lower ∈ rest, lower = "" :=
            fun nothing => restEmpty (Text.joinPieces_eq_empty_iff.mpr nothing)
          rw [Text.joinPaths_of_ne_empty pathEmpty restEmpty, Text.cutAtSlashes_append_slash,
            legible_append_iff (Text.cutAtSlashes_ne_nil _)]
          constructor
          · rintro ⟨_, plain, joined⟩
            exact ⟨fun _ _ isSplat => absurd isSplat plain, joined⟩
          · rintro ⟨followed, joined⟩
            have plain : "*" ∉ Text.cutAtSlashes path :=
              fun isSplat => something fun lower member => followed lower member isSplat
            exact ⟨pathLegible, plain, joined⟩

end Pattern

end RouteTree
