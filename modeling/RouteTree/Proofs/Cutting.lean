import RouteTree.Proofs.Joining
import RouteTree.Url.Target

/-!
# Cutting what was joined

Cutting at slashes undoes joining with slashes as long as the pieces have no
slash of their own. A piece that comes from a cut never has one, so the pieces
of a joined path are those of its parts.
-/

namespace RouteTree.Text

/-- A cut text has none of the letters it is cut at. -/
theorem not_of_mem_splitOnP {cuts : Char → Bool} (letters : List Char) :
    ∀ piece ∈ letters.splitOnP cuts, ∀ letter ∈ piece, cuts letter = false := by
  induction letters with
  | nil => simp
  | cons first rest ih =>
      rw [List.splitOnP_cons_eq_if_modifyHead]
      by_cases cut : cuts first
      · rw [if_pos cut]
        intro piece member
        rcases List.mem_cons.mp member with rfl | member
        · simp
        · exact ih piece member
      · rw [if_neg cut]
        obtain ⟨piece, others, split⟩ :=
          List.exists_cons_of_ne_nil (List.splitOnP_ne_nil cuts rest)
        rw [split] at ih ⊢
        intro other member
        rcases List.mem_cons.mp member with rfl | member
        · intro letter letterMember
          rcases List.mem_cons.mp letterMember with rfl | letterMember
          · exact Bool.eq_false_iff.mpr cut
          · exact ih piece List.mem_cons_self letter letterMember
        · exact ih other (List.mem_cons_of_mem piece member)

theorem slash_not_mem_of_mem_cutAtSlashes {text piece : String}
    (member : piece ∈ cutAtSlashes text) : '/' ∉ piece.toList := by
  obtain ⟨letters, lettersMember, rfl⟩ := List.mem_map.mp member
  rw [String.toList_ofList]
  intro slash
  rw [List.splitOn_eq_splitOnP] at lettersMember
  have notCut := not_of_mem_splitOnP text.toList letters lettersMember '/' slash
  simp at notCut

theorem cutAtSlashes_ne_nil (text : String) : cutAtSlashes text ≠ [] := by
  rw [cutAtSlashes, ne_eq, List.map_eq_nil_iff]
  exact List.splitOn_ne_nil '/' text.toList

/-- A leading slash has the empty text before it. -/
theorem slash_append_eq (text : String) : "/" ++ text = "" ++ "/" ++ text := by
  rw [String.empty_append]

theorem cutAtSlashes_append_slash (first second : String) :
    cutAtSlashes (first ++ "/" ++ second) = cutAtSlashes first ++ cutAtSlashes second := by
  have letters : (first ++ "/" ++ second).toList =
      first.toList ++ '/' :: second.toList := by
    simp [String.toList_append]
  rw [cutAtSlashes, letters, List.splitOn_append_cons_self, List.map_append]
  rfl

theorem cutAtSlashes_joinWithSlashes {pieces : List String} (present : pieces ≠ [])
    (free : ∀ piece ∈ pieces, '/' ∉ piece.toList) :
    cutAtSlashes (joinWithSlashes pieces) = pieces := by
  have letters : (joinWithSlashes pieces).toList =
      ['/'].intercalate (pieces.map String.toList) := by
    rw [joinWithSlashes, String.toList_intercalate]
    rfl
  have split : (['/'].intercalate (pieces.map String.toList)).splitOn '/' =
      pieces.map String.toList := by
    apply List.splitOn_intercalate
    · simpa using free
    · simpa using present
  rw [cutAtSlashes, letters, split, List.map_map]
  simp [Function.comp_def]

/-- Joining no pieces at all leaves an empty one to be cut. -/
theorem mem_or_eq_empty_of_mem_cutAtSlashes {pieces : List String} {piece : String}
    (free : ∀ piece ∈ pieces, '/' ∉ piece.toList)
    (member : piece ∈ cutAtSlashes (joinWithSlashes pieces)) : piece ∈ pieces ∨ piece = "" := by
  by_cases nothing : pieces = []
  · rw [nothing] at member
    exact Or.inr (List.mem_singleton.mp member)
  · rw [cutAtSlashes_joinWithSlashes nothing free] at member
    exact Or.inl member

end RouteTree.Text

namespace RouteTree.Url

open Text

/-- The pieces of a target that are filled in. -/
def solidPieces (target : String) : List String :=
  nonempty (cutAtSlashes target)

@[simp]
theorem solidPieces_empty : solidPieces "" = [] := rfl

theorem solidPieces_append_slash (first second : String) :
    solidPieces (first ++ "/" ++ second) = solidPieces first ++ solidPieces second := by
  rw [solidPieces, cutAtSlashes_append_slash, nonempty, List.filter_append]
  rfl

theorem solidPieces_slash_append (path : String) : solidPieces ("/" ++ path) = solidPieces path := by
  rw [slash_append_eq, solidPieces_append_slash, solidPieces_empty, List.nil_append]

theorem solidPieces_joinPaths (first second : String) :
    solidPieces (joinPaths first second) = solidPieces first ++ solidPieces second := by
  by_cases firstEmpty : first = ""
  · rw [firstEmpty, joinPaths_empty_left, solidPieces_empty, List.nil_append]
  · by_cases secondEmpty : second = ""
    · rw [secondEmpty, joinPaths_empty_right, solidPieces_empty, List.append_nil]
    · rw [joinPaths, if_neg (by simpa using firstEmpty), if_neg (by simpa using secondEmpty),
        solidPieces_append_slash]

theorem solidPieces_joinPieces (pieces : List String) :
    solidPieces (joinPieces pieces) = pieces.flatMap solidPieces := by
  induction pieces with
  | nil => rfl
  | cons piece rest ih => rw [joinPieces_cons, solidPieces_joinPaths, ih, List.flatMap_cons]

theorem solidPieces_joinWithSlashes {pieces : List String}
    (free : ∀ piece ∈ pieces, '/' ∉ piece.toList) :
    solidPieces (joinWithSlashes pieces) = nonempty pieces := by
  by_cases absent : pieces = []
  · rw [absent]
    rfl
  · rw [solidPieces, cutAtSlashes_joinWithSlashes absent free]

end RouteTree.Url
