import Mathlib.Data.Finset.Powerset
import RouteTree.Proofs.Grammar

/-!
# Choosing what to keep

A pattern with a number of marked pieces leaves as many independent choices, one for the
place of each: keep the piece without its mark, or leave it out. The concrete paths are
what these choices show. Two choices may show the same path, which is listed once, so
the paths are as many as the choices only if no two of them agree.
-/

namespace RouteTree

/-! ## Marked pieces -/

/-- The piece without the question mark that it ends in. -/
def unmarked (piece : String) : String :=
  if Text.EndsWith "?" piece then String.ofList piece.toList.dropLast else piece

theorem unmarked_append_mark (text : String) : unmarked (text ++ "?") = text := by
  have marked : Text.EndsWith "?" (text ++ "?") := ⟨text, rfl⟩
  rw [unmarked, if_pos marked, ← String.toList_inj]
  simp [String.toList_append]

namespace Segment

theorem marked_text_iff {segment : Segment} (unambiguous : segment.Unambiguous) :
    Text.EndsWith "?" segment.text ↔ segment.isOptional := by
  cases segment with
  | splat => decide
  | optionalParam name => exact iff_of_true ⟨":" ++ name, rfl⟩ rfl
  | optionalLiteral literal => exact iff_of_true ⟨literal, rfl⟩ rfl
  | param name =>
      have noMark : ¬ Text.EndsWith "?" (":" ++ name) := by
        intro marked
        rw [Text.endsWith_iff_toList, String.toList_append] at marked
        rcases List.suffix_cons_iff.mp marked with whole | inName
        · cases whole
        · exact unambiguous (Text.endsWith_iff_toList.mpr inName)
      exact iff_of_false noMark Bool.false_ne_true
  | literal literal => exact iff_of_false unambiguous.2.2 Bool.false_ne_true

theorem isOptional_ofText_iff {piece : String} :
    (ofText piece).isOptional ↔ Text.EndsWith "?" piece := by
  rw [← marked_text_iff (unambiguous_ofText piece), text_ofText]

theorem concrete_eq_unmarked {segment : Segment} (unambiguous : segment.Unambiguous) :
    segment.concrete = unmarked segment.text := by
  cases optional : segment.isOptional with
  | false =>
      have noMark : ¬ Text.EndsWith "?" segment.text := by
        rw [marked_text_iff unambiguous, optional]
        exact Bool.false_ne_true
      rw [unmarked, if_neg noMark, concrete_eq_text optional]
  | true =>
      cases segment with
      | optionalParam name => exact (unmarked_append_mark (":" ++ name)).symm
      | optionalLiteral literal => exact (unmarked_append_mark literal).symm
      | _ => cases optional

theorem concrete_ofText (piece : String) : (ofText piece).concrete = unmarked piece := by
  rw [concrete_eq_unmarked (unambiguous_ofText piece), text_ofText]

end Segment

/-! ## Pieces with their places -/

def markedPlaces (numbered : List (String × Nat)) : Finset Nat :=
  ((numbered.filter fun (piece, _) => Text.EndsWith "?" piece).map Prod.snd).toFinset

/-- A piece is shown without its mark; a marked one only if its place is kept. -/
def shownPieces (kept : Finset Nat) (numbered : List (String × Nat)) : List String :=
  (numbered.filter fun (piece, place) => ¬ Text.EndsWith "?" piece ∨ place ∈ kept).map
    fun (piece, _) => unmarked piece

section Numbered

variable {kept others : Finset Nat} {piece : String} {place : Nat} {rest numbered : List (String × Nat)}
  {pieces : List String}

theorem markedPlaces_cons_of_marked (marked : Text.EndsWith "?" piece) :
    markedPlaces ((piece, place) :: rest) = insert place (markedPlaces rest) := by
  simp [markedPlaces, marked]

theorem markedPlaces_cons_of_plain (plain : ¬ Text.EndsWith "?" piece) :
    markedPlaces ((piece, place) :: rest) = markedPlaces rest := by
  simp [markedPlaces, plain]

theorem mem_places_of_mem_markedPlaces (member : place ∈ markedPlaces numbered) :
    place ∈ numbered.map Prod.snd := by
  rw [markedPlaces, List.mem_toFinset] at member
  exact (List.filter_sublist.map Prod.snd).mem member

theorem shownPieces_cons_of_kept (stays : ¬ Text.EndsWith "?" piece ∨ place ∈ kept) :
    shownPieces kept ((piece, place) :: rest) = unmarked piece :: shownPieces kept rest := by
  rw [shownPieces, List.filter_cons_of_pos (by simpa using stays)]
  rfl

theorem shownPieces_cons_of_left_out (marked : Text.EndsWith "?" piece) (leaves : place ∉ kept) :
    shownPieces kept ((piece, place) :: rest) = shownPieces kept rest := by
  rw [shownPieces, List.filter_cons_of_neg (by simp [marked, leaves])]
  rfl

/-- Only the places that there are matter. -/
theorem shownPieces_congr
    (agree : ∀ place ∈ numbered.map Prod.snd, place ∈ kept ↔ place ∈ others) :
    shownPieces kept numbered = shownPieces others numbered := by
  rw [shownPieces, shownPieces]
  congr 1
  apply List.filter_congr
  intro entry member
  rw [decide_eq_decide, agree entry.2 (List.mem_map_of_mem member)]

theorem keeps_shownPieces (kept : Finset Nat) (numbered : List (String × Nat)) :
    Keeps ((numbered.map Prod.fst).map Segment.ofText) (shownPieces kept numbered) := by
  induction numbered with
  | nil => exact .nil
  | cons entry rest ih =>
      obtain ⟨piece, place⟩ := entry
      rw [List.map_cons, List.map_cons, keeps_cons_iff, Segment.concrete_ofText,
        Segment.isOptional_ofText_iff]
      by_cases stays : ¬ Text.EndsWith "?" piece ∨ place ∈ kept
      · exact Or.inl ⟨shownPieces kept rest, ih, shownPieces_cons_of_kept stays⟩
      · rw [not_or, not_not] at stays
        rw [shownPieces_cons_of_left_out stays.1 stays.2]
        exact Or.inr ⟨stays.1, ih⟩

theorem exists_kept_of_keeps (distinct : (numbered.map Prod.snd).Nodup)
    (keeps : Keeps ((numbered.map Prod.fst).map Segment.ofText) pieces) :
    ∃ kept ⊆ markedPlaces numbered, shownPieces kept numbered = pieces := by
  induction numbered generalizing pieces with
  | nil =>
      rw [keeps_nil_iff.mp keeps]
      exact ⟨∅, Finset.empty_subset _, rfl⟩
  | cons entry rest ih =>
      obtain ⟨piece, place⟩ := entry
      obtain ⟨fresh, restDistinct⟩ := List.nodup_cons.mp distinct
      rw [List.map_cons, List.map_cons, keeps_cons_iff, Segment.concrete_ofText,
        Segment.isOptional_ofText_iff] at keeps
      rcases keeps with ⟨others, restKeeps, shown⟩ | ⟨marked, restKeeps⟩
      · obtain ⟨kept, within, restShown⟩ := ih restDistinct restKeeps
        by_cases marked : Text.EndsWith "?" piece
        · -- The place of the piece joins those that are kept behind it.
          have unchanged : shownPieces (insert place kept) rest = shownPieces kept rest := by
            apply shownPieces_congr
            intro other member
            have different : other ≠ place := ne_of_mem_of_not_mem member fresh
            rw [Finset.mem_insert, or_iff_right different]
          refine ⟨insert place kept, ?_, ?_⟩
          · rw [markedPlaces_cons_of_marked marked]
            exact Finset.insert_subset_insert place within
          · rw [shownPieces_cons_of_kept (Or.inr (Finset.mem_insert_self place kept)),
              unchanged, restShown, shown]
        · refine ⟨kept, ?_, ?_⟩
          · rwa [markedPlaces_cons_of_plain marked]
          · rw [shownPieces_cons_of_kept (Or.inl marked), restShown, shown]
      · obtain ⟨kept, within, restShown⟩ := ih restDistinct restKeeps
        have leaves : place ∉ kept :=
          fun member => fresh (mem_places_of_mem_markedPlaces (within member))
        refine ⟨kept, ?_, ?_⟩
        · rw [markedPlaces_cons_of_marked marked]
          exact within.trans (Finset.subset_insert place (markedPlaces rest))
        · rw [shownPieces_cons_of_left_out marked leaves, restShown]

theorem card_markedPlaces (distinct : (numbered.map Prod.snd).Nodup) :
    (markedPlaces numbered).card =
      (numbered.map Prod.fst).countP fun piece => Text.EndsWith "?" piece := by
  have markedDistinct :
      ((numbered.filter fun (piece, _) => Text.EndsWith "?" piece).map Prod.snd).Nodup :=
    distinct.sublist (List.filter_sublist.map Prod.snd)
  rw [markedPlaces, List.toFinset_card_of_nodup markedDistinct, List.length_map,
    List.countP_map, List.countP_eq_length_filter]
  rfl

end Numbered

/-! ## Concrete paths -/

section Paths

variable {pattern path : String}

/-- The places at which a pattern has a marked piece. -/
def optionalPlaces (pattern : String) : Finset Nat :=
  markedPlaces (Text.cutAtSlashes pattern).zipIdx

def optionalCount (pattern : String) : Nat :=
  (Text.cutAtSlashes pattern).countP fun piece => (Segment.ofText piece).isOptional

/-- The path that is left of a pattern when of its marked pieces those at the given
places are kept. -/
def pathKeeping (kept : Finset Nat) (pattern : String) : String :=
  Text.joinWithSlashes (shownPieces kept (Text.cutAtSlashes pattern).zipIdx)

theorem nodup_places (pieces : List String) : (pieces.zipIdx.map Prod.snd).Nodup := by
  rw [List.zipIdx_map_snd]
  exact List.nodup_range'

theorem mem_concretePaths_iff_exists_kept :
    path ∈ concretePaths pattern ↔
      ∃ kept ⊆ optionalPlaces pattern, pathKeeping kept pattern = path := by
  have pieces : (Text.cutAtSlashes pattern).zipIdx.map Prod.fst = Text.cutAtSlashes pattern :=
    List.zipIdx_map_fst 0 (Text.cutAtSlashes pattern)
  rw [mem_concretePaths]
  constructor
  · intro shown
    obtain ⟨shownPieces, keeps, rfl⟩ := shown
    rw [← pieces] at keeps
    obtain ⟨kept, within, same⟩ := exists_kept_of_keeps (nodup_places _) keeps
    exact ⟨kept, within, congrArg Text.joinWithSlashes same⟩
  · intro chosen
    obtain ⟨kept, _, rfl⟩ := chosen
    have keeps := keeps_shownPieces kept (Text.cutAtSlashes pattern).zipIdx
    rw [pieces] at keeps
    exact ⟨_, keeps, rfl⟩

theorem nodup_eraseDups (items : List String) : items.eraseDups.Nodup := by
  match items with
  | [] => exact List.nodup_nil
  | first :: rest =>
      rw [List.eraseDups_cons, List.nodup_cons]
      constructor
      · simp
      · exact nodup_eraseDups (rest.filter fun other => !other == first)
termination_by items.length
decreasing_by exact Nat.lt_succ_of_le (List.length_filter_le _ rest)

theorem nodup_concretePaths (pattern : String) : (concretePaths pattern).Nodup :=
  nodup_eraseDups _

theorem head?_foldl_widenVariants {variants : List (List String)} {segments : List Segment}
    {first : List String} (leads : variants.head? = some first) :
    (segments.foldl widenVariants variants).head? =
      some (first ++ segments.map Segment.concrete) := by
  induction segments generalizing variants first with
  | nil => simpa using leads
  | cons segment rest ih =>
      have widened : (widenVariants variants segment).head? =
          some (first ++ [segment.concrete]) := by
        obtain ⟨others, rfl⟩ := List.head?_eq_some_iff.mp leads
        rw [widenVariants]
        cases segment.isOptional <;> rfl
      rw [List.foldl_cons, ih widened, List.map_cons, List.append_assoc,
        List.singleton_append]

theorem head?_concretePaths (pattern : String) :
    (concretePaths pattern).head? =
      some (Text.joinWithSlashes ((Text.cutAtSlashes pattern).map unmarked)) := by
  have leads : (segmentVariants ((Text.cutAtSlashes pattern).map Segment.ofText)).head? =
      some ((Text.cutAtSlashes pattern).map unmarked) := by
    rw [segmentVariants, head?_foldl_widenVariants rfl, List.nil_append, List.map_map]
    have same : Segment.concrete ∘ Segment.ofText = unmarked := funext Segment.concrete_ofText
    rw [same]
  obtain ⟨others, variants⟩ := List.head?_eq_some_iff.mp leads
  rw [concretePaths, variants, List.map_cons, List.eraseDups_cons, List.head?_cons]

theorem card_optionalPlaces (pattern : String) :
    (optionalPlaces pattern).card = optionalCount pattern := by
  rw [optionalPlaces, card_markedPlaces (nodup_places _), List.zipIdx_map_fst, optionalCount]
  simp only [← Segment.isOptional_ofText_iff, Bool.decide_eq_true]

theorem toFinset_concretePaths (pattern : String) :
    (concretePaths pattern).toFinset =
      (optionalPlaces pattern).powerset.image fun kept => pathKeeping kept pattern := by
  ext path
  rw [List.mem_toFinset, mem_concretePaths_iff_exists_kept, Finset.mem_image]
  simp only [Finset.mem_powerset]

theorem length_concretePaths (pattern : String) :
    (concretePaths pattern).length =
      ((optionalPlaces pattern).powerset.image fun kept => pathKeeping kept pattern).card := by
  rw [← toFinset_concretePaths, List.toFinset_card_of_nodup (nodup_concretePaths pattern)]

theorem card_choices (pattern : String) :
    (optionalPlaces pattern).powerset.card = 2 ^ optionalCount pattern := by
  rw [Finset.card_powerset, card_optionalPlaces]

/-- The concrete paths are what the independent choices at the marked pieces show, each
listed once and the one that keeps every piece first. Of `k` optional segments they are
at most `2 ^ k`, and that many exactly if no two choices show the same path. -/
theorem concretePaths_exact (pattern : String) :
    (concretePaths pattern).Nodup ∧
      (concretePaths pattern).head? =
        some (Text.joinWithSlashes ((Text.cutAtSlashes pattern).map unmarked)) ∧
      (∀ path, path ∈ concretePaths pattern ↔
        ∃ kept ⊆ optionalPlaces pattern, pathKeeping kept pattern = path) ∧
      (concretePaths pattern).length ≤ 2 ^ optionalCount pattern ∧
      ((concretePaths pattern).length = 2 ^ optionalCount pattern ↔
        ∀ kept ⊆ optionalPlaces pattern, ∀ others ⊆ optionalPlaces pattern,
          pathKeeping kept pattern = pathKeeping others pattern → kept = others) := by
  refine ⟨nodup_concretePaths pattern, head?_concretePaths pattern,
    fun path => mem_concretePaths_iff_exists_kept, ?_, ?_⟩
  · rw [length_concretePaths, ← card_choices]
    exact Finset.card_image_le
  · rw [length_concretePaths, ← card_choices, Finset.card_image_iff, Set.InjOn]
    simp only [Finset.mem_coe, Finset.mem_powerset]

example : concretePaths "a?/a?" = ["a/a", "a", ""] := by decide

end Paths

end RouteTree
