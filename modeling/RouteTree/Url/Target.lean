import RouteTree.Ordered.SortedMap
import RouteTree.Pattern.Segment
import RouteTree.RouteError
import RouteTree.Text.Slashes
import RouteTree.Url.Query

/-!
# Building URLs

A target is filled in by replacing its parameters with values and leaving out
whatever is empty; a query and a fragment follow it.
-/

namespace RouteTree.Url

/-- What is filled into a target. -/
structure Filling where
  params : SortedMap String String := ∅
  search : List (String × String) := []
  hash : Option String := none
deriving DecidableEq, Repr

/-- The text of one piece of a target. Only a plain parameter needs a value;
the catch-all counts as such in the last place only. -/
def fillPiece (params : SortedMap String String) (isLast : Bool) (piece : String) :
    Except RouteError String :=
  match Segment.ofText piece with
  | .splat => .ok (if isLast then (params.get? "*").getD "" else "*")
  | .optionalParam name => .ok ((params.get? name).getD "")
  | .param name =>
      match params.get? name with
      | some value => .ok value
      | none => .error (.missingParam name)
  | .optionalLiteral text => .ok text
  | .literal text => .ok text

/-- The texts of the pieces of a target, in order. -/
def fillPieces (params : SortedMap String String) :
    List String → Except RouteError (List String)
  | [] => .ok []
  | piece :: rest =>
      (fillPiece params rest.isEmpty piece).bind fun text =>
        (fillPieces params rest).map (text :: ·)

def nonempty (pieces : List String) : List String :=
  pieces.filter (!·.isEmpty)

/-- Fills the parameters of a target in. A leading slash is kept; empty pieces
leave no slash behind. -/
def fillPath (target : String) (params : SortedMap String String) :
    Except RouteError String :=
  let lead := if target.toList.head? = some '/' then "/" else ""
  (fillPieces params (nonempty (Text.cutAtSlashes target))).map fun texts =>
    lead ++ Text.joinWithSlashes (nonempty texts)

/-- Builds the URL of a target: the filled path, then the query and the
fragment unless they are empty. -/
def build (target : String) (filling : Filling) : Except RouteError String :=
  (fillPath target filling.params).map fun path =>
    let query := if filling.search.isEmpty then "" else "?" ++ encodeQuery filling.search
    let fragment :=
      match filling.hash with
      | some hash => if hash.isEmpty then "" else "#" ++ hash
      | none => ""
    path ++ query ++ fragment

end RouteTree.Url
