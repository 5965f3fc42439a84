import RouteTree.Proofs.FormDecoding
import RouteTree.Proofs.Replacing
import RouteTree.Url.Target

/-!
# The parts of a URL

A URL is divided at its first `#` and what is before it at its first `?`. As long
as the filled path has neither, the parts of a built URL are the ones it was built
from: no letter of a query is one of the two marks, and what follows the first `#`
is not divided again.
-/

namespace RouteTree.Url

structure Parts where
  path : String
  query : Option String
  hash : Option String
deriving DecidableEq

def Parts.ofUrl (url : String) : Parts :=
  let (rest, hash) := cutAtFirst '#' url
  let (path, query) := cutAtFirst '?' rest
  { path, query, hash }

/-- A part that is there is written behind its mark. -/
def markPart (mark : Char) : Option String → String
  | none => ""
  | some text => String.singleton mark ++ text

def Parts.toUrl (parts : Parts) : String :=
  parts.path ++ markPart '?' parts.query ++ markPart '#' parts.hash

def Parts.ofFilling (path : String) (filling : Filling) : Parts where
  path := path
  query := if filling.search.isEmpty then none else some (encodeQuery filling.search)
  hash := filling.hash.filter (!·.isEmpty)

theorem not_mem_markPart {mark other : Char} (different : other ≠ mark) {part : Option String}
    (free : ∀ text, part = some text → other ∉ text.toList) :
    other ∉ (markPart mark part).toList := by
  intro member
  cases part with
  | none => cases member
  | some text =>
      rw [markPart, String.toList_append, List.mem_append] at member
      cases member with
      | inl isMark =>
          rw [String.toList_singleton] at isMark
          exact different (List.mem_singleton.mp isMark)
      | inr inText => exact free text rfl inText

theorem cutAtFirst_append_markPart {mark : Char} {before : String} (free : mark ∉ before.toList)
    (part : Option String) : cutAtFirst mark (before ++ markPart mark part) = (before, part) := by
  cases part with
  | none =>
      rw [markPart, String.append_empty]
      exact cutAtFirst_of_not_mem free
  | some text =>
      rw [markPart, ← String.append_assoc]
      exact cutAtFirst_append free text

theorem Parts.ofUrl_toUrl {parts : Parts} (noMark : '?' ∉ parts.path.toList)
    (noHash : '#' ∉ parts.path.toList)
    (queryNoHash : ∀ text, parts.query = some text → '#' ∉ text.toList) :
    ofUrl parts.toUrl = parts := by
  have before : '#' ∉ (parts.path ++ markPart '?' parts.query).toList := by
    rw [String.toList_append, List.mem_append]
    exact not_or.mpr ⟨noHash, not_mem_markPart (by decide) queryNoHash⟩
  simp only [ofUrl, toUrl, cutAtFirst_append_markPart before, cutAtFirst_append_markPart noMark]

theorem build_eq_toUrl {target : String} {filling : Filling} {path : String}
    (filled : fillPath target filling.params = .ok path) :
    build target filling = .ok (Parts.ofFilling path filling).toUrl := by
  have query : (if filling.search.isEmpty then "" else "?" ++ encodeQuery filling.search) =
      markPart '?' (Parts.ofFilling path filling).query := by
    rw [Parts.ofFilling]
    split <;> rfl
  rw [build, filled, query, Parts.toUrl]
  apply congrArg fun fragment =>
    Except.ok (path ++ markPart '?' (Parts.ofFilling path filling).query ++ fragment)
  rw [Parts.ofFilling]
  cases filling.hash with
  | none => rfl
  | some hash =>
      dsimp only
      rw [Option.filter_some]
      cases hash.isEmpty <;> rfl

theorem Parts.ofUrl_ofFilling {path : String} (noMark : '?' ∉ path.toList)
    (noHash : '#' ∉ path.toList) (filling : Filling) :
    ofUrl (ofFilling path filling).toUrl = ofFilling path filling := by
  apply ofUrl_toUrl noMark noHash
  intro text isQuery
  rw [ofFilling] at isQuery
  split at isQuery
  case isTrue => cases isQuery
  case isFalse =>
    intro member
    rw [← Option.some.inj isQuery] at member
    exact absurd (isQueryLetter_of_mem_encodeQuery member) (by decide)

/-- A URL falls apart into what it was built from, whatever the names and values of its
query and whatever its fragment. -/
theorem build_taken_apart {target : String} {filling : Filling} {path : String}
    (filled : fillPath target filling.params = .ok path)
    (noMark : '?' ∉ path.toList) (noHash : '#' ∉ path.toList) :
    ∃ url, build target filling = .ok url ∧
      (Parts.ofUrl url).path = path ∧
      (Parts.ofUrl url).hash = filling.hash.filter (!·.isEmpty) ∧
      ((Parts.ofUrl url).query = none ↔ filling.search = []) ∧
      ∀ query, (Parts.ofUrl url).query = some query →
        query = stagedQuery filling.search ∧
        decodeQuery query = some filling.search ∧
        ∀ letter ∈ query.toList, isQueryLetter letter := by
  refine ⟨_, build_eq_toUrl filled, ?_⟩
  rw [Parts.ofUrl_ofFilling noMark noHash, stagedQuery_eq_encodeQuery]
  refine ⟨rfl, rfl, ?_, ?_⟩
  · simp [Parts.ofFilling]
  · intro query isQuery
    rw [Parts.ofFilling] at isQuery
    split at isQuery
    case isTrue => cases isQuery
    case isFalse present =>
      obtain rfl := Option.some.inj isQuery
      rw [List.isEmpty_iff] at present
      exact ⟨rfl, decodeQuery_encodeQuery present, fun _ => isQueryLetter_of_mem_encodeQuery⟩

namespace Sample

/-- Names and values with every kind of letter a query has to escape. -/
def crowded : Filling where
  params := SortedMap.ofList [("id", "4~2")]
  search := [("q", "a b&c=d"), ("", "%20+"), ("k*", "~é"), ("q", "")]
  hash := some "x?y#z"

end Sample

theorem crowded_taken_apart :
    fillPath "/users/:id" Sample.crowded.params = .ok "/users/4~2" ∧
    ∃ url, build "/users/:id" Sample.crowded = .ok url ∧
      (Parts.ofUrl url).path = "/users/4~2" ∧
      (Parts.ofUrl url).hash = some "x?y#z" ∧
      ∃ query, (Parts.ofUrl url).query = some query ∧
        decodeQuery query = some Sample.crowded.search := by
  have filled : fillPath "/users/:id" Sample.crowded.params = .ok "/users/4~2" := by decide
  obtain ⟨url, built, path, hash, absent, written⟩ :=
    build_taken_apart filled (by decide) (by decide)
  refine ⟨filled, url, built, path, hash, ?_⟩
  cases query : (Parts.ofUrl url).query with
  | none => cases absent.mp query
  | some text => exact ⟨text, rfl, (written text query).2.1⟩

end RouteTree.Url
