/-!
# Text between slashes

Route patterns, ids and URLs are all texts cut into pieces by `/`. Cutting
keeps empty pieces, so cutting and joining undo each other; joining two paths
leaves an empty side out.
-/

namespace RouteTree.Text

/-- The pieces of a text between its slashes; a text without a slash is one
piece, the empty text included. -/
def cutAtSlashes (text : String) : List String :=
  (text.toList.splitOn '/').map String.ofList

def joinWithSlashes (pieces : List String) : String :=
  "/".intercalate pieces

/-- Two paths with a slash between them; an empty side adds neither a piece
nor a slash. -/
def joinPaths (first second : String) : String :=
  if first.isEmpty then second
  else if second.isEmpty then first
  else first ++ "/" ++ second

/-- A text without its leading and trailing slashes. -/
def trimSlashes (text : String) : String :=
  let tail := text.toList.dropWhile (· = '/')
  String.ofList (tail.reverse.dropWhile (· = '/')).reverse

@[simp]
theorem joinWithSlashes_cutAtSlashes (text : String) :
    joinWithSlashes (cutAtSlashes text) = text := by
  rw [← String.toList_inj, joinWithSlashes, String.toList_intercalate, cutAtSlashes,
    List.map_map]
  have same : (String.toList ∘ String.ofList) = id := by
    funext letters
    exact String.toList_ofList
  rw [same, List.map_id]
  exact List.intercalate_splitOn '/'

@[simp]
theorem joinPaths_empty_left (path : String) : joinPaths "" path = path := rfl

@[simp]
theorem joinPaths_empty_right (path : String) : joinPaths path "" = path := by
  by_cases empty : path.isEmpty
  · simp [joinPaths, String.isEmpty_iff.mp empty]
  · simp [joinPaths, empty]

end RouteTree.Text
