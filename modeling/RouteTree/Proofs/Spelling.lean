import Mathlib
import RouteTree.Codegen.Identifier
import RouteTree.Codegen.Item
import RouteTree.Proofs.Cutting
import RouteTree.Proofs.FreeNames

/-!
# How generated names are spelled

A variant starts with an ASCII capital and goes on with ASCII letters, digits
and underscores; a field does so with small letters. While a name is put
together it may still be empty or start with a digit; the last step mends that,
and keeps clear of the names of places. A number added to make a name free
changes neither the spelling nor what the name is clear of.
-/

namespace RouteTree.Codegen

/-! ## ASCII letters -/

section Letters

variable {letter : Char}

theorem isUpper_iff : letter.isUpper ↔ 65 ≤ letter.toNat ∧ letter.toNat ≤ 90 := by
  simp [Char.isUpper, UInt32.le_iff_toNat_le]

theorem isLower_iff : letter.isLower ↔ 97 ≤ letter.toNat ∧ letter.toNat ≤ 122 := by
  simp [Char.isLower, UInt32.le_iff_toNat_le]

theorem isAlphanum_iff :
    letter.isAlphanum ↔ letter.isUpper ∨ letter.isLower ∨ letter.isDigit := by
  simp [Char.isAlphanum, Char.isAlpha, or_assoc]

theorem isAlpha_or_isDigit (alphanumeric : letter.isAlphanum) :
    letter.isAlpha ∨ letter.isDigit ∧ ¬ letter.isUpper ∧ ¬ letter.isLower := by
  rw [Char.isAlphanum, Bool.or_eq_true] at alphanumeric
  by_cases alphabetic : letter.isAlpha
  · exact Or.inl alphabetic
  · have neither := alphabetic
    rw [Char.isAlpha, Bool.or_eq_true, not_or] at neither
    exact Or.inr ⟨alphanumeric.resolve_left alphabetic, neither⟩

theorem toUpper_of_isAlphanum (alphanumeric : letter.isAlphanum) :
    letter.toUpper.isUpper ∨ letter.toUpper.isDigit := by
  rcases isAlpha_or_isDigit alphanumeric with alphabetic | ⟨digit, _, notSmall⟩
  · rw [Char.isUpper_toUpper_eq_isAlpha]
    exact Or.inl alphabetic
  · rw [Char.toUpper_eq_of_not_isLower notSmall]
    exact Or.inr digit

theorem toLower_of_isAlphanum (alphanumeric : letter.isAlphanum) :
    letter.toLower.isLower ∨ letter.toLower.isDigit := by
  rcases isAlpha_or_isDigit alphanumeric with alphabetic | ⟨digit, notCapital, _⟩
  · rw [Char.isLower_toLower_eq_isAlpha]
    exact Or.inl alphabetic
  · rw [Char.toLower_eq_of_not_isUpper notCapital]
    exact Or.inr digit

end Letters

/-! ## Spelled names -/

/-- How one kind of name is spelled. -/
structure Alphabet where
  starts : Char → Bool
  continues : Char → Bool
  continues_of_starts : ∀ letter, starts letter → continues letter
  continues_of_isDigit : ∀ letter, letter.isDigit → continues letter
  continues_underscore : continues '_'

/-- Capitals, then ASCII letters, digits and underscores. -/
def variantAlphabet : Alphabet where
  starts := Char.isUpper
  continues letter := letter.isAlphanum || letter = '_'
  continues_of_starts letter capital := by simp [isAlphanum_iff.mpr (Or.inl capital)]
  continues_of_isDigit letter digit := by simp [isAlphanum_iff.mpr (Or.inr (Or.inr digit))]
  continues_underscore := by decide

/-- Small ASCII letters, then small letters, digits and underscores. -/
def fieldAlphabet : Alphabet where
  starts := Char.isLower
  continues letter := letter.isLower || letter.isDigit || letter = '_'
  continues_of_starts letter small := by simp [small]
  continues_of_isDigit letter digit := by simp [digit]
  continues_underscore := by decide

variable {alphabet : Alphabet} {letters added : List Char} {name : String}

/-- A name that starts and goes on as its alphabet has it. -/
def Spelled (alphabet : Alphabet) (name : String) : Prop :=
  ∃ first rest, name.toList = first :: rest ∧ alphabet.starts first ∧
    ∀ letter ∈ rest, alphabet.continues letter

/-- The letters of a name that is not finished: it may be empty or start with a
digit. -/
structure Draft (alphabet : Alphabet) (letters : List Char) : Prop where
  first : ∀ letter ∈ letters.head?, alphabet.starts letter ∨ letter.isDigit
  all : ∀ letter ∈ letters, alphabet.continues letter

theorem draft_nil : Draft alphabet [] where
  first := by simp
  all := by simp

theorem Draft.append (draft : Draft alphabet letters)
    (goesOn : ∀ letter ∈ added, alphabet.continues letter)
    (begins : letters = [] → Draft alphabet added) : Draft alphabet (letters ++ added) := by
  cases letters with
  | nil => exact begins rfl
  | cons first rest =>
      refine ⟨draft.first, ?_⟩
      intro letter member
      rcases List.mem_append.mp member with member | member
      · exact draft.all letter member
      · exact goesOn letter member

theorem Draft.of_prefix (draft : Draft alphabet letters) {start : List Char}
    (isStart : start <+: letters) : Draft alphabet start := by
  refine ⟨?_, fun letter member => draft.all letter (isStart.subset member)⟩
  cases start with
  | nil => simp
  | cons first rest =>
      obtain ⟨others, rfl⟩ := isStart
      exact draft.first

theorem draft_singleton {letter : Char} (starts : alphabet.starts letter ∨ letter.isDigit) :
    Draft alphabet [letter] := by
  refine ⟨by simpa using starts, ?_⟩
  intro other member
  rw [List.mem_singleton.mp member]
  rcases starts with starts | digit
  · exact alphabet.continues_of_starts letter starts
  · exact alphabet.continues_of_isDigit letter digit

/-! ## Finished names -/

theorem spelled_ofList {first : Char} {rest : List Char} (starts : alphabet.starts first)
    (goesOn : ∀ letter ∈ rest, alphabet.continues letter) :
    Spelled alphabet (String.ofList (first :: rest)) :=
  ⟨first, rest, String.toList_ofList, starts, goesOn⟩

theorem Spelled.append (spelled : Spelled alphabet name) {suffix : String}
    (goesOn : ∀ letter ∈ suffix.toList, alphabet.continues letter) :
    Spelled alphabet (name ++ suffix) := by
  obtain ⟨first, rest, same, starts, restGoesOn⟩ := spelled
  refine ⟨first, rest ++ suffix.toList, ?_, starts, ?_⟩
  · rw [String.toList_append, same, List.cons_append]
  · intro letter member
    rcases List.mem_append.mp member with member | member
    · exact restGoesOn letter member
    · exact goesOn letter member

/-- The last step for names of both kinds: an empty name is replaced, a digit at the
start gets a mark before it, and the name of a place gets a suffix. -/
def finished (whole : String) (mark : Char) (suffix : String) (letters : List Char) : String :=
  if letters.isEmpty then whole
  else if startsWithDigit letters then String.ofList (mark :: letters)
  else if String.ofList letters ∈ pathKeywords then String.ofList letters ++ suffix
  else String.ofList letters

section Finished

variable {whole suffix : String} {mark : Char}

theorem spelled_finished (draft : Draft alphabet letters) (wholeSpelled : Spelled alphabet whole)
    (markStarts : alphabet.starts mark)
    (suffixGoesOn : ∀ letter ∈ suffix.toList, alphabet.continues letter) :
    Spelled alphabet (finished whole mark suffix letters) := by
  rw [finished]
  cases letters with
  | nil => exact wholeSpelled
  | cons first rest =>
      rw [if_neg (by simp)]
      by_cases digit : startsWithDigit (first :: rest)
      · rw [if_pos digit]
        exact spelled_ofList markStarts draft.all
      · rw [if_neg digit]
        have starts : alphabet.starts first := by
          rcases draft.first first rfl with starts | isDigit
          · exact starts
          · exact absurd isDigit digit
        have spelled : Spelled alphabet (String.ofList (first :: rest)) := by
          apply spelled_ofList starts
          exact fun letter member => draft.all letter (List.mem_cons_of_mem first member)
        by_cases place : String.ofList (first :: rest) ∈ pathKeywords
        · rw [if_pos place]
          exact spelled.append suffixGoesOn
        · rw [if_neg place]
          exact spelled

theorem not_mem_of_startsWithDigit (digit : startsWithDigit letters) :
    String.ofList (mark :: letters) ∉ pathKeywords := by
  intro member
  have noDigit : ∀ keyword ∈ pathKeywords, startsWithDigit keyword.toList.tail = false := by
    decide
  have excluded := noDigit _ member
  rw [String.toList_ofList, List.tail_cons, digit] at excluded
  cases excluded

theorem finished_not_mem_pathKeywords (wholeClear : whole ∉ pathKeywords)
    (suffixClear : ∀ keyword ∈ pathKeywords, keyword ++ suffix ∉ pathKeywords) :
    finished whole mark suffix letters ∉ pathKeywords := by
  rw [finished]
  by_cases nothing : letters.isEmpty
  · rw [if_pos nothing]
    exact wholeClear
  · rw [if_neg nothing]
    by_cases digit : startsWithDigit letters
    · rw [if_pos digit]
      exact not_mem_of_startsWithDigit digit
    · rw [if_neg digit]
      by_cases place : String.ofList letters ∈ pathKeywords
      · rw [if_pos place]
        exact suffixClear _ place
      · rw [if_neg place]
        exact place

end Finished

/-! ## Variants -/

theorem draft_capitalize {word : List Char} (alphanumeric : ∀ letter ∈ word, letter.isAlphanum) :
    Draft variantAlphabet (capitalize word) := by
  cases word with
  | nil => exact draft_nil
  | cons first rest =>
      have start : Draft variantAlphabet [first.toUpper] :=
        draft_singleton (toUpper_of_isAlphanum (alphanumeric first List.mem_cons_self))
      have goesOn : ∀ letter ∈ rest, variantAlphabet.continues letter := by
        intro letter member
        simp [variantAlphabet, alphanumeric letter (List.mem_cons_of_mem first member)]
      exact start.append goesOn (by simp)

/-- The names that some segments have of their own are capitalized already. -/
theorem draft_of_capitalized {word : List Char} (alphanumeric : word.all Char.isAlphanum)
    (capitalized : capitalize word = word) : Draft variantAlphabet word := by
  rw [← capitalized]
  exact draft_capitalize (List.all_eq_true.mp alphanumeric)

theorem draft_of_mem_segmentWords {segment : String} {word : List Char}
    (member : word ∈ segmentWords segment) : Draft variantAlphabet word := by
  rw [segmentWords] at member
  by_cases layout : segment = "_"
  · rw [if_pos layout, List.mem_singleton] at member
    rw [member]
    exact draft_of_capitalized (by decide) (by decide)
  · rw [if_neg layout] at member
    by_cases index : segment = "_index"
    · rw [if_pos index, List.mem_singleton] at member
      rw [member]
      exact draft_of_capitalized (by decide) (by decide)
    · rw [if_neg index] at member
      by_cases splat : segment = "*"
      · rw [if_pos splat, List.mem_singleton] at member
        rw [member]
        exact draft_of_capitalized (by decide) (by decide)
      · rw [if_neg splat] at member
        obtain ⟨piece, pieceMember, rfl⟩ := List.mem_map.mp member
        apply draft_capitalize
        intro letter letterMember
        have kept := Text.not_of_mem_splitOnP _ piece (List.mem_filter.mp pieceMember).1 letter
          letterMember
        simpa using kept

theorem Draft.appendWord {word : List Char} (draft : Draft variantAlphabet letters)
    (wordDraft : Draft variantAlphabet word) :
    Draft variantAlphabet (appendWord letters word) := by
  rw [Codegen.appendWord]
  by_cases digits : endsInDigit letters && startsWithDigit word
  · rw [if_pos digits]
    apply draft.append
    · intro letter member
      rcases List.mem_cons.mp member with rfl | member
      · exact variantAlphabet.continues_underscore
      · exact wordDraft.all letter member
    · intro nothing
      rw [nothing] at digits
      cases digits
  · rw [if_neg digits]
    exact draft.append wordDraft.all fun _ => wordDraft

theorem draft_foldl_appendWord {words : List (List Char)} (draft : Draft variantAlphabet letters)
    (wordDrafts : ∀ word ∈ words, Draft variantAlphabet word) :
    Draft variantAlphabet (words.foldl appendWord letters) := by
  induction words generalizing letters with
  | nil => exact draft
  | cons word rest ih =>
      rw [List.foldl_cons]
      apply ih (draft.appendWord (wordDrafts word List.mem_cons_self))
      exact fun other member => wordDrafts other (List.mem_cons_of_mem word member)

theorem variantName_eq (id : String) :
    variantName id = finished "Root" 'R' "Route"
      (((Text.cutAtSlashes id).flatMap segmentWords).foldl appendWord []) := rfl

theorem spelled_variantName (id : String) : Spelled variantAlphabet (variantName id) := by
  rw [variantName_eq]
  apply spelled_finished
  · apply draft_foldl_appendWord draft_nil
    intro word member
    obtain ⟨segment, _, wordMember⟩ := List.mem_flatMap.mp member
    exact draft_of_mem_segmentWords wordMember
  · exact ⟨'R', "oot".toList, rfl, rfl, by simp [variantAlphabet]⟩
  · rfl
  · simp [variantAlphabet]

theorem variantName_not_mem_pathKeywords (id : String) : variantName id ∉ pathKeywords := by
  rw [variantName_eq]
  exact finished_not_mem_pathKeywords (by decide) (by decide)

/-! ## Fields -/

/-- A capital begins a new word only after a letter that stands already. -/
structure FieldDraft.Sound (draft : FieldDraft) : Prop where
  isDraft : Draft fieldAlphabet draft.name
  started : draft.inWord → draft.name ≠ []

theorem FieldDraft.Sound.push {draft : FieldDraft} (sound : draft.Sound) (letter : Char) :
    (draft.push letter).Sound := by
  rw [FieldDraft.push]
  by_cases alphanumeric : letter.isAlphanum
  · rw [if_pos alphanumeric]
    have lowered : Draft fieldAlphabet [letter.toLower] :=
      draft_singleton (toLower_of_isAlphanum alphanumeric)
    refine ⟨?_, fun _ => by simp⟩
    by_cases separated : letter.isUpper && draft.inWord
    · simp only [separated, if_true, List.append_assoc]
      apply sound.isDraft.append
      · intro other member
        rcases List.mem_cons.mp member with rfl | member
        · exact fieldAlphabet.continues_underscore
        · exact lowered.all other member
      · intro nothing
        have inWord : draft.inWord := (Bool.and_eq_true_iff.mp separated).2
        exact absurd nothing (sound.started inWord)
    · simp only [separated]
      rw [if_neg (by simp), List.append_nil]
      exact sound.isDraft.append lowered.all fun _ => lowered
  · rw [if_neg alphanumeric]
    by_cases closed : draft.name.isEmpty || draft.name.getLast? = some '_'
    · rw [if_pos closed]
      exact ⟨sound.isDraft, by simp⟩
    · rw [if_neg closed]
      refine ⟨?_, by simp⟩
      apply sound.isDraft.append
      · intro other member
        rw [List.mem_singleton.mp member]
        exact fieldAlphabet.continues_underscore
      · intro nothing
        rw [nothing] at closed
        exact absurd rfl closed

theorem FieldDraft.Sound.foldl_push {draft : FieldDraft} (sound : draft.Sound)
    (letters : List Char) : (letters.foldl FieldDraft.push draft).Sound := by
  induction letters generalizing draft with
  | nil => exact sound
  | cons letter rest ih =>
      rw [List.foldl_cons]
      exact ih (sound.push letter)

theorem dropTrailingUnderscores_isPrefix (letters : List Char) :
    dropTrailingUnderscores letters <+: letters := by
  rw [dropTrailingUnderscores, ← List.reverse_suffix, List.reverse_reverse]
  exact List.dropWhile_suffix _

theorem fieldName_eq {param : String} (notSplat : param ≠ "*") :
    fieldName param = finished "param" 'p' "_"
      (dropTrailingUnderscores (param.toList.foldl FieldDraft.push {}).name) :=
  if_neg notSplat

theorem spelled_fieldName (param : String) : Spelled fieldAlphabet (fieldName param) := by
  by_cases splat : param = "*"
  · rw [fieldName, if_pos splat]
    exact ⟨'s', "plat".toList, rfl, rfl, by simp [fieldAlphabet]⟩
  · rw [fieldName_eq splat]
    apply spelled_finished
    · have sound : FieldDraft.Sound {} := ⟨draft_nil, by simp⟩
      exact (sound.foldl_push param.toList).isDraft.of_prefix (dropTrailingUnderscores_isPrefix _)
    · exact ⟨'p', "aram".toList, rfl, rfl, by simp [fieldAlphabet]⟩
    · rfl
    · simp [fieldAlphabet]

theorem fieldName_not_mem_pathKeywords (param : String) : fieldName param ∉ pathKeywords := by
  by_cases splat : param = "*"
  · rw [fieldName, if_pos splat]
    decide
  · rw [fieldName_eq splat]
    exact finished_not_mem_pathKeywords (by decide) (by decide)

/-! ## Numbered names -/

theorem Spelled.freeName (spelled : Spelled alphabet name) (taken : List String) :
    Spelled alphabet (freeName taken name) := by
  rcases freeName_cases taken name with same | ⟨number, same⟩
  · rw [same]
    exact spelled
  · rw [same]
    have numbered : ∀ letter ∈ (toString number).toList, alphabet.continues letter :=
      fun letter member =>
        alphabet.continues_of_isDigit letter (isDigit_of_mem_toString member)
    by_cases digit : endsInDigit name.toList
    · rw [if_pos digit]
      apply Spelled.append _ numbered
      apply spelled.append
      intro letter member
      rw [List.mem_singleton.mp member]
      exact alphabet.continues_underscore
    · rw [if_neg digit]
      exact spelled.append numbered

theorem endsInDigit_append_toString (stem : String) (number : Nat) :
    endsInDigit (stem ++ toString number).toList := by
  have present := List.getLast?_isSome.mpr (toString_ne_nil number)
  obtain ⟨last, isLast⟩ := Option.isSome_iff_exists.mp present
  have digit : last.isDigit := isDigit_of_mem_toString (List.mem_of_getLast? isLast)
  rw [endsInDigit, String.toList_append, List.getLast?_append, isLast]
  exact digit

/-- A name that got no number is the one that was asked for. -/
theorem freeName_eq_self {taken : List String}
    (noNumber : ¬ endsInDigit (freeName taken name).toList) : freeName taken name = name := by
  rcases freeName_cases taken name with same | ⟨number, same⟩
  · exact same
  · rw [same] at noNumber
    exact absurd (endsInDigit_append_toString _ number) noNumber

theorem freeName_not_reserved {reserved : List String} (taken : List String)
    (clear : name ∉ reserved) (noDigits : ∀ word ∈ reserved, ¬ endsInDigit word.toList) :
    freeName taken name ∉ reserved := by
  intro member
  have same := freeName_eq_self (noDigits _ member)
  rw [same] at member
  exact clear member

/-! ## Reserved words -/

theorem not_mem_keywords_of_capital (spelled : Spelled variantAlphabet name)
    (clear : name ∉ pathKeywords) : name ∉ keywords := by
  intro member
  obtain ⟨first, rest, same, starts, _⟩ := spelled
  have capitalKeywords : ∀ keyword ∈ keywords, keyword.toList.head?.any Char.isUpper →
      keyword ∈ pathKeywords := by decide
  apply clear
  apply capitalKeywords name member
  rw [same]
  exact starts

theorem Spelled.ne_underscore (spelled : Spelled fieldAlphabet name) : name ≠ "_" := by
  intro same
  obtain ⟨first, rest, letters, starts, _⟩ := spelled
  rw [same] at letters
  obtain ⟨rfl, rfl⟩ := List.cons.inj letters
  cases starts

end RouteTree.Codegen
