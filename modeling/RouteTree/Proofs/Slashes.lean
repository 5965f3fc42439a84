import Mathlib.Data.List.Infix
import RouteTree.Proofs.Cutting

/-!
# Where slashes stand

A slash at the start or the end of a text and two slashes side by side show as empty
pieces of the cut text. Joining texts that have no slash at either end puts none
there, and doubles none that was not doubled before.
-/

namespace RouteTree.Text

def StartsWith (lead text : String) : Prop :=
  ∃ rest, text = lead ++ rest

def EndsWith (tail text : String) : Prop :=
  ∃ front, text = front ++ tail

def Contains (part text : String) : Prop :=
  ∃ front back, text = front ++ part ++ back

theorem startsWith_iff_toList {lead text : String} :
    StartsWith lead text ↔ lead.toList <+: text.toList := by
  constructor
  · intro starts
    obtain ⟨rest, rfl⟩ := starts
    rw [String.toList_append]
    exact List.prefix_append lead.toList rest.toList
  · intro leads
    obtain ⟨rest, split⟩ := leads
    refine ⟨String.ofList rest, ?_⟩
    rw [← String.toList_inj, String.toList_append, String.toList_ofList, split]

theorem endsWith_iff_toList {tail text : String} :
    EndsWith tail text ↔ tail.toList <:+ text.toList := by
  constructor
  · intro ends
    obtain ⟨front, rfl⟩ := ends
    rw [String.toList_append]
    exact List.suffix_append front.toList tail.toList
  · intro closes
    obtain ⟨front, split⟩ := closes
    refine ⟨String.ofList front, ?_⟩
    rw [← String.toList_inj, String.toList_append, String.toList_ofList, split]

theorem contains_iff_toList {part text : String} :
    Contains part text ↔ part.toList <:+: text.toList := by
  constructor
  · intro contains
    obtain ⟨front, back, rfl⟩ := contains
    rw [String.toList_append, String.toList_append]
    exact List.infix_append front.toList part.toList back.toList
  · intro inside
    obtain ⟨front, back, split⟩ := inside
    refine ⟨String.ofList front, String.ofList back, ?_⟩
    rw [← String.toList_inj, String.toList_append, String.toList_append, String.toList_ofList,
      String.toList_ofList, split]

theorem startsWith_singleton_iff {letter : Char} {text : String} :
    StartsWith (String.singleton letter) text ↔ text.toList.head? = some letter := by
  rw [startsWith_iff_toList, String.toList_singleton, List.head?_eq_some_iff]
  exact exists_congr fun rest => eq_comm

theorem endsWith_singleton_iff {letter : Char} {text : String} :
    EndsWith (String.singleton letter) text ↔ text.toList.reverse.head? = some letter := by
  rw [endsWith_iff_toList, String.toList_singleton, ← List.reverse_prefix,
    List.reverse_singleton, List.head?_eq_some_iff]
  exact exists_congr fun rest => eq_comm

instance (lead text : String) : Decidable (StartsWith lead text) :=
  decidable_of_iff _ startsWith_iff_toList.symm

instance (tail text : String) : Decidable (EndsWith tail text) :=
  decidable_of_iff _ endsWith_iff_toList.symm

instance (part text : String) : Decidable (Contains part text) :=
  decidable_of_iff _ contains_iff_toList.symm

/-- No slash stands at either end of the text. -/
structure Flush (text : String) : Prop where
  start : ¬ StartsWith "/" text
  finish : ¬ EndsWith "/" text

instance (text : String) : Decidable (Flush text) :=
  decidable_of_iff (¬ StartsWith "/" text ∧ ¬ EndsWith "/" text)
    ⟨fun both => ⟨both.1, both.2⟩, fun flush => ⟨flush.start, flush.finish⟩⟩

/-! ## Empty pieces -/

theorem cutAtSlashes_eq_singleton_iff {text : String} : cutAtSlashes text = [""] ↔ text = "" := by
  constructor
  · intro single
    rw [← joinWithSlashes_cutAtSlashes text, single]
    rfl
  · rintro rfl
    rfl

theorem joinWithSlashes_append {front back : List String} (frontPresent : front ≠ [])
    (backPresent : back ≠ []) :
    joinWithSlashes (front ++ back) = joinWithSlashes front ++ "/" ++ joinWithSlashes back :=
  String.intercalate_append_of_ne_nil frontPresent backPresent

theorem joinWithSlashes_concat {front : List String} (present : front ≠ []) (last : String) :
    joinWithSlashes (front ++ [last]) = joinWithSlashes front ++ "/" ++ last := by
  rw [joinWithSlashes_append present (List.cons_ne_nil _ _)]
  exact congrArg _ String.intercalate_singleton

theorem joinWithSlashes_empty_cons {back : List String} (present : back ≠ []) :
    joinWithSlashes ("" :: back) = "/" ++ joinWithSlashes back := by
  rw [joinWithSlashes, String.intercalate_cons_of_ne_nil present, String.empty_append]
  rfl

theorem cutAtSlashes_slash_append (text : String) :
    cutAtSlashes ("/" ++ text) = "" :: cutAtSlashes text := by
  rw [slash_append_eq, cutAtSlashes_append_slash]
  rfl

theorem startsWith_slash_iff {text : String} :
    StartsWith "/" text ↔ ∃ back, back ≠ [] ∧ cutAtSlashes text = "" :: back := by
  constructor
  · rintro ⟨rest, rfl⟩
    exact ⟨cutAtSlashes rest, cutAtSlashes_ne_nil rest, cutAtSlashes_slash_append rest⟩
  · rintro ⟨back, present, cut⟩
    refine ⟨joinWithSlashes back, ?_⟩
    rw [← joinWithSlashes_cutAtSlashes text, cut, joinWithSlashes_empty_cons present]

theorem endsWith_slash_iff {text : String} :
    EndsWith "/" text ↔ ∃ front, front ≠ [] ∧ cutAtSlashes text = front ++ [""] := by
  constructor
  · rintro ⟨front, rfl⟩
    have split : front ++ "/" = front ++ "/" ++ "" := by rw [String.append_empty]
    refine ⟨cutAtSlashes front, cutAtSlashes_ne_nil front, ?_⟩
    rw [split, cutAtSlashes_append_slash]
    rfl
  · rintro ⟨front, present, cut⟩
    refine ⟨joinWithSlashes front, ?_⟩
    rw [← joinWithSlashes_cutAtSlashes text, cut,
      joinWithSlashes_append present (List.cons_ne_nil _ _)]
    exact String.append_empty

theorem contains_slashes_iff {text : String} :
    Contains "//" text ↔ ∃ front back, front ≠ [] ∧ back ≠ [] ∧
      cutAtSlashes text = front ++ "" :: back := by
  have pair : "//" = "/" ++ "/" := rfl
  constructor
  · rintro ⟨front, back, rfl⟩
    have split : front ++ "//" ++ back = front ++ "/" ++ ("/" ++ back) := by
      simp only [pair, String.append_assoc]
    refine ⟨cutAtSlashes front, cutAtSlashes back, cutAtSlashes_ne_nil front,
      cutAtSlashes_ne_nil back, ?_⟩
    rw [split, cutAtSlashes_append_slash, cutAtSlashes_slash_append]
  · rintro ⟨front, back, frontPresent, backPresent, cut⟩
    refine ⟨joinWithSlashes front, joinWithSlashes back, ?_⟩
    rw [← joinWithSlashes_cutAtSlashes text, cut,
      joinWithSlashes_append frontPresent (List.cons_ne_nil _ _),
      joinWithSlashes_empty_cons backPresent]
    simp only [pair, String.append_assoc]

theorem not_contains_slashes_of_no_empty {text : String} (full : "" ∉ cutAtSlashes text) :
    ¬ Contains "//" text := by
  rw [contains_slashes_iff]
  rintro ⟨front, back, _, _, cut⟩
  exact full (by simp [cut])

section Free

variable {text : String}

theorem cutAtSlashes_of_free (free : '/' ∉ text.toList) : cutAtSlashes text = [text] := by
  have single : joinWithSlashes [text] = text := String.intercalate_singleton
  have cut : cutAtSlashes (joinWithSlashes [text]) = [text] :=
    cutAtSlashes_joinWithSlashes (List.cons_ne_nil _ _) (by simpa using free)
  rwa [single] at cut

theorem flush_of_free (free : '/' ∉ text.toList) : Flush text := by
  constructor
  · rw [startsWith_slash_iff, cutAtSlashes_of_free free]
    rintro ⟨back, present, cut⟩
    cases cut
    exact present rfl
  · rw [endsWith_slash_iff, cutAtSlashes_of_free free]
    rintro ⟨front, present, cut⟩
    rcases List.append_eq_singleton_iff.mp cut.symm with ⟨nothing, _⟩ | ⟨_, nothing⟩
    · exact present nothing
    · cases nothing

theorem not_contains_slashes_of_free (free : '/' ∉ text.toList) : ¬ Contains "//" text := by
  rw [contains_slashes_iff, cutAtSlashes_of_free free]
  rintro ⟨front, back, present, _, cut⟩
  rcases List.append_eq_singleton_iff.mp cut.symm with ⟨nothing, _⟩ | ⟨_, nothing⟩
  · exact present nothing
  · cases nothing

theorem flush_empty : Flush "" := flush_of_free (by simp)

theorem not_contains_slashes_empty : ¬ Contains "//" "" := not_contains_slashes_of_free (by simp)

end Free

/-- What a piece starts with stands at the start of the text or behind a slash. -/
theorem startsWith_or_contains_of_mem {text piece lead : String}
    (member : piece ∈ cutAtSlashes text) (starts : StartsWith lead piece) :
    StartsWith lead text ∨ Contains ("/" ++ lead) text := by
  obtain ⟨front, back, cut⟩ := List.append_of_mem member
  obtain ⟨rest, split⟩ := starts
  have present : piece :: back ≠ [] := List.cons_ne_nil piece back
  have goesOn : ∃ more, joinWithSlashes (piece :: back) = piece ++ more := by
    by_cases last : back = []
    · rw [last]
      exact ⟨"", by rw [String.append_empty]; exact String.intercalate_singleton⟩
    · refine ⟨"/" ++ joinWithSlashes back, ?_⟩
      rw [joinWithSlashes, String.intercalate_cons_of_ne_nil last, String.append_assoc]
      rfl
  obtain ⟨more, joined⟩ := goesOn
  rw [← joinWithSlashes_cutAtSlashes text, cut]
  by_cases first : front = []
  · rw [first, List.nil_append, joined, split, String.append_assoc]
    exact Or.inl ⟨rest ++ more, rfl⟩
  · rw [joinWithSlashes_append first present, joined, split]
    refine Or.inr ⟨joinWithSlashes front, rest ++ more, ?_⟩
    simp only [String.append_assoc]

/-! ## Trimming -/

theorem head?_dropWhile_slash_ne (letters : List Char) :
    (letters.dropWhile (· = '/')).head? ≠ some '/' := by
  intro slash
  have kept := List.head?_dropWhile_not (fun letter => decide (letter = '/')) letters
  rw [slash] at kept
  simp at kept

theorem flush_trimSlashes (text : String) : Flush (trimSlashes text) := by
  let tail := text.toList.dropWhile (· = '/')
  let inner := (tail.reverse.dropWhile (· = '/')).reverse
  have trimmed : (trimSlashes text).toList = inner := String.toList_ofList
  -- Trimming the end takes nothing from the start.
  have innerFirst : inner <+: tail := by
    have shorter : tail.reverse.dropWhile (· = '/') <:+ tail.reverse := List.dropWhile_suffix _
    exact List.reverse_suffix.mp (by rwa [List.reverse_reverse])
  constructor
  · rintro ⟨rest, same⟩
    have innerStarts : inner = '/' :: rest.toList := by
      rw [← trimmed, same, String.toList_append]
      rfl
    obtain ⟨more, split⟩ := innerFirst
    have tailStarts : tail.head? = some '/' := by
      rw [← split, innerStarts]
      rfl
    exact head?_dropWhile_slash_ne text.toList tailStarts
  · rintro ⟨front, same⟩
    have innerEnds : inner = front.toList ++ ['/'] := by
      rw [← trimmed, same, String.toList_append]
      rfl
    have turnedStarts : (tail.reverse.dropWhile (· = '/')).head? = some '/' := by
      rw [← List.getLast?_reverse]
      change inner.getLast? = some '/'
      rw [innerEnds, List.getLast?_concat]
    exact head?_dropWhile_slash_ne tail.reverse turnedStarts

theorem dropWhile_slash_eq_self {letters : List Char} (closed : letters.head? ≠ some '/') :
    letters.dropWhile (· = '/') = letters := by
  cases letters with
  | nil => rfl
  | cons first rest =>
      have other : first ≠ '/' := fun slash => closed (by rw [slash]; rfl)
      rw [List.dropWhile_cons, if_neg (by simpa using other)]

/-- A text without outer slashes has none to lose. -/
theorem trimSlashes_of_flush {text : String} (flush : Flush text) : trimSlashes text = text := by
  have start : text.toList.head? ≠ some '/' :=
    mt (@startsWith_singleton_iff '/' text).mpr flush.start
  have finish : text.toList.reverse.head? ≠ some '/' :=
    mt (@endsWith_singleton_iff '/' text).mpr flush.finish
  simp only [trimSlashes, dropWhile_slash_eq_self start, dropWhile_slash_eq_self finish,
    List.reverse_reverse, String.ofList_toList]

/-! ## Joining with a slash -/

section Joined

variable {first second : String}

theorem not_startsWith_append_slash (present : first ≠ "") (closed : ¬ StartsWith "/" first) :
    ¬ StartsWith "/" (first ++ "/" ++ second) := by
  rw [startsWith_slash_iff] at closed ⊢
  rw [cutAtSlashes_append_slash]
  rintro ⟨back, _, cut⟩
  rcases List.append_eq_cons_iff.mp cut with ⟨nothing, _⟩ | ⟨rest, firstCut, _⟩
  · exact cutAtSlashes_ne_nil first nothing
  · refine closed ⟨rest, ?_, firstCut⟩
    rintro rfl
    exact present (cutAtSlashes_eq_singleton_iff.mp firstCut)

theorem not_endsWith_append_slash (present : second ≠ "") (closed : ¬ EndsWith "/" second) :
    ¬ EndsWith "/" (first ++ "/" ++ second) := by
  rw [endsWith_slash_iff] at closed ⊢
  rw [cutAtSlashes_append_slash]
  rintro ⟨front, _, cut⟩
  rcases List.append_eq_append_iff.mp cut with ⟨rest, _, secondCut⟩ | ⟨rest, _, lastCut⟩
  · refine closed ⟨rest, ?_, secondCut⟩
    rintro rfl
    exact present (cutAtSlashes_eq_singleton_iff.mp secondCut)
  · rcases List.append_eq_singleton_iff.mp lastCut.symm with ⟨_, secondCut⟩ | ⟨_, nothing⟩
    · exact present (cutAtSlashes_eq_singleton_iff.mp secondCut)
    · exact cutAtSlashes_ne_nil second nothing

/-- A slash between two texts is doubled only by a slash next to it. -/
theorem contains_append_slash_iff (firstClosed : ¬ EndsWith "/" first)
    (secondClosed : ¬ StartsWith "/" second) :
    Contains "//" (first ++ "/" ++ second) ↔ Contains "//" first ∨ Contains "//" second := by
  rw [endsWith_slash_iff] at firstClosed
  rw [startsWith_slash_iff] at secondClosed
  simp only [contains_slashes_iff, cutAtSlashes_append_slash]
  constructor
  · rintro ⟨front, back, frontPresent, backPresent, cut⟩
    rcases List.append_eq_append_iff.mp cut with ⟨rest, rfl, secondCut⟩ | ⟨rest, firstCut, lastCut⟩
    · refine Or.inr ⟨rest, back, ?_, backPresent, secondCut⟩
      rintro rfl
      exact secondClosed ⟨back, backPresent, secondCut⟩
    · cases rest with
      | nil => exact absurd ⟨back, backPresent, lastCut.symm⟩ secondClosed
      | cons piece others =>
          cases lastCut
          refine Or.inl ⟨front, others, frontPresent, ?_, firstCut⟩
          rintro rfl
          exact firstClosed ⟨front, frontPresent, firstCut⟩
  · rintro (⟨front, back, frontPresent, backPresent, cut⟩ |
      ⟨front, back, frontPresent, backPresent, cut⟩)
    · exact ⟨front, back ++ cutAtSlashes second, frontPresent, by simp [backPresent], by simp [cut]⟩
    · exact ⟨cutAtSlashes first ++ front, back, by simp [frontPresent], backPresent, by simp [cut]⟩

theorem Flush.joinPaths (firstFlush : Flush first) (secondFlush : Flush second) :
    Flush (joinPaths first second) := by
  by_cases firstEmpty : first = ""
  · rwa [firstEmpty, joinPaths_empty_left]
  · by_cases secondEmpty : second = ""
    · rwa [secondEmpty, joinPaths_empty_right]
    · rw [joinPaths_of_ne_empty firstEmpty secondEmpty]
      exact ⟨not_startsWith_append_slash firstEmpty firstFlush.start,
        not_endsWith_append_slash secondEmpty secondFlush.finish⟩

theorem contains_joinPaths_iff (firstFlush : Flush first) (secondFlush : Flush second) :
    Contains "//" (joinPaths first second) ↔ Contains "//" first ∨ Contains "//" second := by
  by_cases firstEmpty : first = ""
  · simp [firstEmpty, not_contains_slashes_empty]
  · by_cases secondEmpty : second = ""
    · simp [secondEmpty, not_contains_slashes_empty]
    · rw [joinPaths_of_ne_empty firstEmpty secondEmpty]
      exact contains_append_slash_iff firstFlush.finish secondFlush.start

theorem flush_joinPieces {pieces : List String} (flush : ∀ piece ∈ pieces, Flush piece) :
    Flush (joinPieces pieces) := by
  induction pieces with
  | nil => exact flush_empty
  | cons piece rest ih =>
      obtain ⟨pieceFlush, restFlush⟩ := List.forall_mem_cons.mp flush
      rw [joinPieces_cons]
      exact pieceFlush.joinPaths (ih restFlush)

theorem contains_joinPieces_iff {pieces : List String} (flush : ∀ piece ∈ pieces, Flush piece) :
    Contains "//" (joinPieces pieces) ↔ ∃ piece ∈ pieces, Contains "//" piece := by
  induction pieces with
  | nil => simp [not_contains_slashes_empty]
  | cons piece rest ih =>
      obtain ⟨pieceFlush, restFlush⟩ := List.forall_mem_cons.mp flush
      rw [joinPieces_cons, contains_joinPaths_iff pieceFlush (flush_joinPieces restFlush),
        ih restFlush]
      simp

end Joined

section Absolute

variable {text : String}

theorem contains_slash_append_iff (flush : Flush text) :
    Contains "//" ("/" ++ text) ↔ Contains "//" text := by
  rw [slash_append_eq, contains_append_slash_iff flush_empty.finish flush.start,
    or_iff_right not_contains_slashes_empty]

theorem not_startsWith_slash_append (flush : Flush text) : ¬ StartsWith "//" ("/" ++ text) := by
  rintro ⟨rest, same⟩
  have pair : "//" = "/" ++ "/" := rfl
  rw [pair, String.append_assoc] at same
  exact flush.start ⟨rest, (String.append_right_inj _).mp same⟩

theorem not_endsWith_slash_append (present : text ≠ "") (flush : Flush text) :
    ¬ EndsWith "/" ("/" ++ text) := by
  rw [slash_append_eq]
  exact not_endsWith_append_slash present flush.finish

end Absolute

end RouteTree.Text
