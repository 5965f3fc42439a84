import RouteTree.Proofs.Spelling

/-!
# Generated names as identifiers

A name of ASCII letters, digits and underscores that starts with a letter is
read as an identifier, in whichever way it is written: as it is, or raw when it
is a keyword. Only the names of places have no raw form.
-/

namespace RouteTree.Codegen

/-- ASCII letters, and then what may stand in a variant. -/
def identifierAlphabet : Alphabet where
  starts letter := letter.isUpper || letter.isLower
  continues := variantAlphabet.continues
  continues_of_starts letter starts := by
    have alphanumeric : letter.isAlphanum :=
      isAlphanum_iff.mpr ((Bool.or_eq_true_iff.mp starts).imp_right Or.inl)
    exact Bool.or_eq_true_iff.mpr (Or.inl alphanumeric)
  continues_of_isDigit := variantAlphabet.continues_of_isDigit
  continues_underscore := variantAlphabet.continues_underscore

variable {name : String} {first : Char} {rest : List Char}

theorem Spelled.mono {alphabet wider : Alphabet} (spelled : Spelled alphabet name)
    (starts : ∀ letter, alphabet.starts letter → wider.starts letter)
    (continues : ∀ letter, alphabet.continues letter → wider.continues letter) :
    Spelled wider name := by
  obtain ⟨first, rest, same, firstStarts, restContinues⟩ := spelled
  exact ⟨first, rest, same, starts first firstStarts,
    fun letter member => continues letter (restContinues letter member)⟩

theorem Spelled.identifier_of_variant (spelled : Spelled variantAlphabet name) :
    Spelled identifierAlphabet name := by
  apply spelled.mono
  · intro letter capital
    exact Bool.or_eq_true_iff.mpr (Or.inl capital)
  · exact fun letter continues => continues

theorem Spelled.identifier_of_field (spelled : Spelled fieldAlphabet name) :
    Spelled identifierAlphabet name := by
  apply spelled.mono
  · intro letter small
    exact Bool.or_eq_true_iff.mpr (Or.inr small)
  · intro letter continues
    simp only [fieldAlphabet, identifierAlphabet, variantAlphabet, Bool.or_eq_true,
      isAlphanum_iff] at continues ⊢
    rcases continues with (small | digit) | underscore
    · exact Or.inl (Or.inr (Or.inl small))
    · exact Or.inl (Or.inr (Or.inr digit))
    · exact Or.inr underscore

/-! ## Letters of identifiers -/

private theorem code_bounds_of_starts {letter : Char} (starts : identifierAlphabet.starts letter) :
    (65 ≤ letter.toNat ∧ letter.toNat ≤ 90) ∨ (97 ≤ letter.toNat ∧ letter.toNat ≤ 122) := by
  rcases Bool.or_eq_true_iff.mp starts with capital | small
  · exact Or.inl (isUpper_iff.mp capital)
  · exact Or.inr (isLower_iff.mp small)

theorem inRanges_of_isPrefix {start ranges : List (Nat × Nat)} {code : Nat}
    (isStart : start <+: ranges) (inStart : Text.inRanges start code) :
    Text.inRanges ranges code := by
  obtain ⟨others, rfl⟩ := isStart
  induction start with
  | nil => cases inStart
  | cons range rest ih =>
      simp only [List.cons_append, Text.inRanges, Bool.and_eq_true, Bool.or_eq_true] at inStart ⊢
      exact ⟨inStart.1, inStart.2.imp_right ih⟩

theorem startsIdentifier_of_starts {letter : Char} (starts : identifierAlphabet.starts letter) :
    Text.startsIdentifier letter := by
  have bounds := code_bounds_of_starts starts
  have isStart : [(0x41, 0x5a), (0x61, 0x7a)] <+: Text.identifierStartRanges := ⟨_, rfl⟩
  apply Bool.or_eq_true_iff.mpr
  apply Or.inr
  apply inRanges_of_isPrefix isStart
  simp only [Text.inRanges, Bool.or_eq_true, Bool.and_eq_true, decide_eq_true_eq]
  omega

theorem continuesIdentifier_of_continues {letter : Char}
    (continues : identifierAlphabet.continues letter) : Text.continuesIdentifier letter := by
  have isStart : [(0x30, 0x39), (0x41, 0x5a), (0x5f, 0x5f), (0x61, 0x7a)] <+:
      Text.identifierContinueRanges := ⟨_, rfl⟩
  have bounds : (65 ≤ letter.toNat ∧ letter.toNat ≤ 90) ∨
      (97 ≤ letter.toNat ∧ letter.toNat ≤ 122) ∨
      (48 ≤ letter.toNat ∧ letter.toNat ≤ 57) ∨ letter.toNat = 95 := by
    rcases Bool.or_eq_true_iff.mp continues with alphanumeric | underscore
    · simp only [isAlphanum_iff, isUpper_iff, isLower_iff, Char.isDigit_iff_toNat,
        Char.reduceToNat] at alphanumeric
      omega
    · have isUnderscore : letter = '_' := of_decide_eq_true underscore
      rw [isUnderscore]
      decide
  apply inRanges_of_isPrefix isStart
  simp only [Text.inRanges, Bool.or_eq_true, Bool.and_eq_true, decide_eq_true_eq]
  omega

theorem takeIdentifier_eq (starts : Text.startsIdentifier first)
    (continues : ∀ letter ∈ rest, Text.continuesIdentifier letter) :
    takeIdentifier (first :: rest) = (first :: rest, []) := by
  have whole : rest.span Text.continuesIdentifier = (rest, []) := by
    rw [List.span_eq_takeWhile_dropWhile, List.takeWhile_eq_self_iff.mpr continues,
      List.dropWhile_eq_nil_iff.mpr continues]
  simp only [takeIdentifier, starts, if_true, whole]

/-- Nothing is skipped before an ASCII letter. -/
theorem afterFiller_eq (starts : identifierAlphabet.starts first) (rest : List Char) :
    afterFiller (first :: rest) = first :: rest := by
  have bounds := code_bounds_of_starts starts
  have noComment : afterComment? (first :: rest) = none := by
    have notSlash : first ≠ '/' := by
      rintro rfl
      cases starts
    rw [afterComment?] <;> simp [notSlash]
  have noSpace : isSpace first = false := by
    simp only [isSpace, Bool.or_eq_false_iff, Bool.and_eq_false_iff, decide_eq_false_iff_not]
    omega
  simp [afterFiller, skipFiller, noComment, noSpace]

theorem afterByteOrderMark_eq (starts : identifierAlphabet.starts first) (rest : List Char) :
    Text.afterByteOrderMark (first :: rest) = first :: rest := by
  have bounds := code_bounds_of_starts starts
  rw [Text.afterByteOrderMark, if_neg (by omega)]

/-! ## Reading names -/

theorem identifierOfText?_eq_self (spelled : Spelled identifierAlphabet name)
    (noKeyword : name ∉ keywords) : identifierOfText? name = some name := by
  obtain ⟨first, rest, same, starts, continues⟩ := spelled
  have taken : takeIdentifier (first :: rest) = (first :: rest, []) :=
    takeIdentifier_eq (startsIdentifier_of_starts starts)
      fun letter member => continuesIdentifier_of_continues (continues letter member)
  have sameName : String.ofList (first :: rest) = name := by
    rw [← same, String.ofList_toList]
  have notRaw : ∀ letters, first :: rest = 'r' :: '#' :: letters → False := by
    intro letters raw
    obtain ⟨_, rfl⟩ := List.cons.inj raw
    cases continues '#' List.mem_cons_self
  have read : readIdentifier? (first :: rest) = some (name, []) := by
    rw [readIdentifier?]
    · simp only [taken, sameName]
      rw [if_neg noKeyword]
    · exact notRaw
  rw [identifierOfText?, same, afterByteOrderMark_eq starts, afterFiller_eq starts, read]
  rfl

theorem identifierOfText?_raw (spelled : Spelled identifierAlphabet name)
    (hasRaw : name ∉ "_" :: pathKeywords) :
    identifierOfText? ("r#" ++ name) = some ("r#" ++ name) := by
  obtain ⟨first, rest, same, starts, continues⟩ := spelled
  have taken : takeIdentifier (first :: rest) = (first :: rest, []) :=
    takeIdentifier_eq (startsIdentifier_of_starts starts)
      fun letter member => continuesIdentifier_of_continues (continues letter member)
  have sameName : String.ofList (first :: rest) = name := by
    rw [← same, String.ofList_toList]
  have letters : ("r#" ++ name).toList = 'r' :: '#' :: first :: rest := by
    rw [String.toList_append, same]
    rfl
  have read : readIdentifier? ('r' :: '#' :: first :: rest) = some ("r#" ++ name, []) := by
    rw [readIdentifier?]
    simp only [taken, sameName]
    rw [if_neg hasRaw]
  rw [identifierOfText?, letters, afterByteOrderMark_eq (by decide), afterFiller_eq (by decide),
    read]
  rfl

/-- A name that can be written as an identifier: as it is, or raw when it is a
keyword. -/
def Writable (name : String) : Prop :=
  (name ∉ keywords ∧ identifierOfText? name = some name) ∨
    (name ∈ keywords ∧ name ∉ "_" :: pathKeywords ∧
      identifierOfText? ("r#" ++ name) = some ("r#" ++ name))

theorem Spelled.writable (spelled : Spelled identifierAlphabet name)
    (clear : name ∉ "_" :: pathKeywords) : Writable name := by
  by_cases keyword : name ∈ keywords
  · exact Or.inr ⟨keyword, clear, identifierOfText?_raw spelled clear⟩
  · exact Or.inl ⟨keyword, identifierOfText?_eq_self spelled keyword⟩

end RouteTree.Codegen
