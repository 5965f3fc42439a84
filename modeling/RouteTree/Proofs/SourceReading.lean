import RouteTree.Codegen.Token

/-!
# Reading source back

Source says what its tokens say to whoever reads it. A literal stands for the
text that its escapes spell, and a group lists what stands between its commas,
with or without one at the end. Both readings undo the writing.
-/

namespace RouteTree.Codegen

/-! ## Escapes -/

/-- The value of a hexadecimal digit. -/
def hexValue? (digit : Char) : Option Nat :=
  if digit.isDigit then some (digit.toNat - 48)
  else if 97 ≤ digit.toNat && digit.toNat ≤ 102 then some (digit.toNat - 87)
  else if 65 ≤ digit.toNat && digit.toNat ≤ 70 then some (digit.toNat - 55)
  else none

/-- What a backslash before a single character stands for. -/
def simpleEscape? : Char → Option Char
  | 'n' => some '\n'
  | 'r' => some '\r'
  | 't' => some '\t'
  | '0' => some '\x00'
  | '\\' => some '\\'
  | '"' => some '"'
  | '\x27' => some '\x27'
  | _ => none

/-- The character with a code, if there is one. -/
def charOfCode? (code : Nat) : Option Char :=
  if code.isValidChar then some (Char.ofNat code) else none

/-- The characters that the inside of a literal stands for. A code is there while
the digits of an escape in braces are read. -/
def decodeLetters : Option Nat → List Char → Option (List Char)
  | none, [] => some []
  | none, '\\' :: 'u' :: '\x7b' :: rest => decodeLetters (some 0) rest
  | none, '\\' :: 'x' :: high :: low :: rest =>
      (hexValue? high).bind fun first =>
        (hexValue? low).bind fun second =>
          if first < 8 then
            (decodeLetters none rest).map (Char.ofNat (16 * first + second) :: ·)
          else none
  | none, '\\' :: mark :: rest =>
      (simpleEscape? mark).bind fun letter => (decodeLetters none rest).map (letter :: ·)
  | none, '"' :: _ => none
  | none, letter :: rest => (decodeLetters none rest).map (letter :: ·)
  | some _, [] => none
  | some code, '\x7d' :: rest =>
      (charOfCode? code).bind fun letter => (decodeLetters none rest).map (letter :: ·)
  | some code, digit :: rest =>
      (hexValue? digit).bind fun value => decodeLetters (some (16 * code + value)) rest

theorem decodeLetters_digit {digit : Char} {value : Nat} (isValue : hexValue? digit = some value)
    (code : Nat) (rest : List Char) :
    decodeLetters (some code) (digit :: rest) = decodeLetters (some (16 * code + value)) rest := by
  have notClosing : digit ≠ '\x7d' := by
    intro closing
    rw [closing] at isValue
    cases isValue
  rw [decodeLetters]
  · rw [isValue]
    rfl
  · exact notClosing

theorem hexValue?_digitChar : ∀ digit < 16, hexValue? digit.digitChar = some digit := by
  decide

/-- The digits of a number are read as the number, first digit first. -/
theorem decodeLetters_toDigits (number : Nat) (rest : List Char) :
    decodeLetters (some 0) (Nat.toDigits 16 number ++ rest) =
      decodeLetters (some number) rest := by
  induction number using Nat.strongRecOn generalizing rest with
  | ind number ih =>
      rw [Nat.toDigits_eq_if (by decide)]
      by_cases single : number < 16
      · rw [if_pos single, List.singleton_append,
          decodeLetters_digit (hexValue?_digitChar number single), Nat.mul_zero, Nat.zero_add]
      · have smaller : number / 16 < number := by omega
        have lastDigit := hexValue?_digitChar (number % 16) (Nat.mod_lt number (by decide))
        have together : 16 * (number / 16) + number % 16 = number := Nat.div_add_mod number 16
        rw [if_neg single, List.append_assoc, ih _ smaller, List.singleton_append,
          decodeLetters_digit lastDigit, together]

theorem decodeLetters_codeEscape (letter : Char) (rest : List Char) :
    decodeLetters none (Text.codeEscape letter ++ rest) =
      (decodeLetters none rest).map (letter :: ·) := by
  have opened : decodeLetters none (Text.codeEscape letter ++ rest) =
      decodeLetters (some 0) (Nat.toDigits 16 letter.toNat ++ '\x7d' :: rest) := by
    simp [Text.codeEscape, decodeLetters]
  have valid : letter.toNat.isValidChar := letter.valid
  have known : charOfCode? letter.toNat = some letter := by
    rw [charOfCode?, if_pos valid, Char.ofNat_toNat]
  rw [opened, decodeLetters_toDigits]
  simp [decodeLetters, known]

theorem decodeLetters_plain {letter : Char} (noBackslash : letter ≠ '\\') (noQuote : letter ≠ '"')
    (rest : List Char) :
    decodeLetters none (letter :: rest) = (decodeLetters none rest).map (letter :: ·) := by
  rw [decodeLetters] <;> simp [noBackslash, noQuote]

theorem decodeLetters_escapeLetter (letter : Char) (rest : List Char) :
    decodeLetters none (Text.escapeLetter letter ++ rest) =
      (decodeLetters none rest).map (letter :: ·) := by
  by_cases special : letter ∈ ['\x00', '\t', '\r', '\n', '\\', '"']
  · simp only [List.mem_cons, List.not_mem_nil, or_false] at special
    rcases special with rfl | rfl | rfl | rfl | rfl | rfl <;>
      simp [Text.escapeLetter, decodeLetters, simpleEscape?]
  · simp only [List.mem_cons, List.not_mem_nil, or_false, not_or] at special
    obtain ⟨noNull, noTab, noReturn, noNewline, noBackslash, noQuote⟩ := special
    rw [Text.escapeLetter, if_neg noNull, if_neg noTab, if_neg noReturn, if_neg noNewline,
      if_neg noBackslash, if_neg noQuote]
    by_cases extending : Text.extendsGrapheme letter
    · rw [if_pos extending]
      exact decodeLetters_codeEscape letter rest
    · rw [if_neg extending]
      by_cases printable : Text.isPrintable letter
      · rw [if_pos printable]
        exact decodeLetters_plain noBackslash noQuote rest
      · rw [if_neg printable]
        exact decodeLetters_codeEscape letter rest

theorem decodeLetters_literalLetters (letters : List Char) :
    decodeLetters none (Token.literalLetters letters) = some letters := by
  induction letters with
  | nil => rw [Token.literalLetters, decodeLetters]
  | cons letter rest ih =>
      rw [Token.literalLetters]
      split
      case isTrue longNull =>
        have null : letter = '\x00' := by
          simp only [Bool.and_eq_true, decide_eq_true_eq] at longNull
          exact longNull.1
        simp [decodeLetters, hexValue?, ih, null]
      case isFalse =>
        rw [decodeLetters_escapeLetter, ih]
        rfl

/-! ## Literals -/

namespace Token

/-- The text that a literal stands for. -/
def readLiteral : Token → Option String
  | .group _ _ => none
  | .word text =>
      match text.toList with
      | '"' :: rest =>
          if rest.getLast? = some '"' then (decodeLetters none rest.dropLast).map String.ofList
          else none
      | _ => none

/-- A literal says what was written into it, whatever the text. -/
theorem readLiteral_literal (content : String) : readLiteral (literal content) = some content := by
  rw [literal, readLiteral, String.toList_ofList]
  simp [decodeLetters_literalLetters]

/-! ## Lists with commas -/

def isComma : Token → Bool
  | .word text => text = ","
  | .group _ _ => false

/-- What stands between commas; a comma at the end adds nothing. -/
def pieces (tokens : List Token) : List (List Token) :=
  (tokens.splitOnP isComma).filter (!·.isEmpty)

/-- A piece that a comma neither divides nor leaves empty. -/
structure Whole (piece : List Token) : Prop where
  present : piece ≠ []
  noComma : ∀ token ∈ piece, isComma token = false

variable {piece : List Token}

theorem pieces_of_whole (whole : Whole piece) : pieces piece = [piece] := by
  rw [pieces, List.splitOnP_eq_singleton whole.noComma]
  simp [whole.present]

theorem pieces_append_comma (whole : Whole piece) (rest : List Token) :
    pieces (piece ++ .word "," :: rest) = piece :: pieces rest := by
  have isSeparator : isComma (.word ",") = true := rfl
  rw [pieces, List.splitOnP_append_cons _ _ isSeparator, List.filter_append]
  exact congrArg (· ++ pieces rest) (pieces_of_whole whole)

variable {α β : Type} {items : List α} {write : α → List Token}

theorem pieces_flatMap (whole : ∀ item ∈ items, Whole (write item)) :
    pieces (items.flatMap fun item => write item ++ [.word ","]) = items.map write := by
  induction items with
  | nil => rfl
  | cons first rest ih =>
      rw [List.flatMap_cons, List.append_assoc, List.singleton_append,
        pieces_append_comma (whole first List.mem_cons_self),
        ih fun item member => whole item (List.mem_cons_of_mem first member)]
      rfl

theorem pieces_separated (whole : ∀ item ∈ items, Whole (write item)) :
    pieces (separated (items.map write)) = items.map write := by
  induction items with
  | nil => rfl
  | cons first rest ih =>
      have wholeFirst := whole first List.mem_cons_self
      have restRead := ih fun item member => whole item (List.mem_cons_of_mem first member)
      cases rest with
      | nil => exact pieces_of_whole wholeFirst
      | cons second others =>
          rw [List.map_cons, List.map_cons, separated, pieces_append_comma wholeFirst]
          · rw [List.map_cons] at restRead
            rw [restRead]
          · simp

/-- Reads what stands between commas, all of it. -/
def readAll (read : List Token → Option β) (tokens : List Token) : Option (List β) :=
  (pieces tokens).mapM read

variable {read : List Token → Option β} {result : α → β}

theorem mapM_read_eq {γ : Type} {write : α → γ} {read : γ → Option β}
    (reads : ∀ item ∈ items, read (write item) = some (result item)) :
    (items.map write).mapM read = some (items.map result) := by
  induction items with
  | nil => rfl
  | cons first rest ih =>
      rw [List.map_cons, List.mapM_cons, reads first List.mem_cons_self,
        ih fun item member => reads item (List.mem_cons_of_mem first member)]
      rfl

theorem readAll_flatMap (whole : ∀ item ∈ items, Whole (write item))
    (reads : ∀ item ∈ items, read (write item) = some (result item)) :
    readAll read (items.flatMap fun item => write item ++ [.word ","]) =
      some (items.map result) := by
  rw [readAll, pieces_flatMap whole, mapM_read_eq reads]

theorem readAll_separated (whole : ∀ item ∈ items, Whole (write item))
    (reads : ∀ item ∈ items, read (write item) = some (result item)) :
    readAll read (separated (items.map write)) = some (items.map result) := by
  rw [readAll, pieces_separated whole, mapM_read_eq reads]

end Token

end RouteTree.Codegen
