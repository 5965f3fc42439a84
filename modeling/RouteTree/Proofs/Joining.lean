import RouteTree.Text.Slashes

/-!
# Joining paths

Joining paths piece by piece, in whatever grouping, is the same as writing all
non-empty pieces with slashes between them: `joinPaths` is associative and the
empty path is its unit.
-/

namespace RouteTree.Text

/-- The non-empty pieces with slashes between them. -/
def joinPieces (pieces : List String) : String :=
  joinWithSlashes (pieces.filter (!·.isEmpty))

@[simp]
theorem joinPaths_eq_empty_iff {first second : String} :
    joinPaths first second = "" ↔ first = "" ∧ second = "" := by
  by_cases firstEmpty : first = ""
  · simp [firstEmpty]
  · by_cases secondEmpty : second = ""
    · simp [secondEmpty]
    · simp [joinPaths, firstEmpty, secondEmpty]

theorem joinPaths_of_ne_empty {first second : String} (firstPresent : first ≠ "")
    (secondPresent : second ≠ "") : joinPaths first second = first ++ "/" ++ second := by
  simp [joinPaths, firstPresent, secondPresent]

theorem joinPaths_assoc (first second third : String) :
    joinPaths (joinPaths first second) third =
      joinPaths first (joinPaths second third) := by
  by_cases firstEmpty : first = ""
  · simp [firstEmpty]
  · by_cases secondEmpty : second = ""
    · simp [secondEmpty]
    · by_cases thirdEmpty : third = ""
      · simp [thirdEmpty]
      · simp [joinPaths, firstEmpty, secondEmpty, thirdEmpty, String.append_assoc]

@[simp]
theorem joinPieces_nil : joinPieces [] = "" := rfl

theorem joinWithSlashes_cons_ne_empty {piece : String} (present : piece ≠ "")
    (rest : List String) : joinWithSlashes (piece :: rest) ≠ "" := by
  cases rest with
  | nil => simpa [joinWithSlashes] using present
  | cons next others => simp [joinWithSlashes, String.intercalate_cons_cons]

@[simp]
theorem joinPieces_cons (piece : String) (rest : List String) :
    joinPieces (piece :: rest) = joinPaths piece (joinPieces rest) := by
  by_cases empty : piece = ""
  · simp [joinPieces, empty]
  · by_cases last : rest.filter (!·.isEmpty) = []
    · simp [joinPieces, empty, last, joinWithSlashes]
    · have tailNonempty : joinWithSlashes (rest.filter (!·.isEmpty)) ≠ "" := by
        obtain ⟨next, others, solid⟩ := List.exists_cons_of_ne_nil last
        have member : next ∈ rest.filter (!·.isEmpty) := by simp [solid]
        rw [solid]
        exact joinWithSlashes_cons_ne_empty (by simpa using (List.mem_filter.mp member).2) others
      have kept : (piece :: rest).filter (!·.isEmpty) =
          piece :: rest.filter (!·.isEmpty) := by simp [empty]
      rw [joinPieces, kept, joinPieces, joinPaths, if_neg (by simpa using empty),
        if_neg (by simpa using tailNonempty)]
      exact String.intercalate_cons_of_ne_nil last

theorem joinPieces_eq_empty_iff {pieces : List String} :
    joinPieces pieces = "" ↔ ∀ piece ∈ pieces, piece = "" := by
  induction pieces with
  | nil => simp
  | cons piece rest ih => rw [joinPieces_cons, joinPaths_eq_empty_iff, ih, List.forall_mem_cons]

theorem joinPieces_append (first second : List String) :
    joinPieces (first ++ second) = joinPaths (joinPieces first) (joinPieces second) := by
  induction first with
  | nil => simp
  | cons piece rest ih => rw [List.cons_append, joinPieces_cons, ih, joinPieces_cons,
      joinPaths_assoc]

end RouteTree.Text
