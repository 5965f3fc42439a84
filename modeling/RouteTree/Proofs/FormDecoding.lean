import RouteTree.Proofs.SourceReading
import RouteTree.Proofs.Spelling
import RouteTree.Url.Query

/-!
# Reading forms back

A query is read at its ampersands, each piece at its first equals sign, and each
field as bytes of UTF-8: a plus is a space, and a percent sign stands before the
two digits of a byte. What is written as a form is read back, whatever the names
and values are, because no written field has an ampersand or an equals sign and
what one byte leaves is never taken for the beginning of another.
-/

namespace RouteTree.Url

open Codegen (hexValue?)

/-- What stands before the first mark, and what stands after it if it is there. -/
def cutAtFirst (mark : Char) (text : String) : String × Option String :=
  (String.ofList (text.toList.takeWhile (· ≠ mark)),
    (text.toList.dropWhile (· ≠ mark)).tail?.map String.ofList)

/-- The bytes that the letters of a field stand for. -/
def decodeBytes : List Char → Option (List UInt8)
  | [] => some []
  | '+' :: rest => (decodeBytes rest).map (32 :: ·)
  | '%' :: high :: low :: rest =>
      (hexValue? high).bind fun first =>
        (hexValue? low).bind fun second =>
          (decodeBytes rest).map (UInt8.ofNat (16 * first + second) :: ·)
  | '%' :: _ => none
  | letter :: rest => (decodeBytes rest).map (String.utf8EncodeChar letter ++ ·)

def decodeField (text : String) : Option String :=
  (decodeBytes text.toList).bind fun bytes => String.fromUTF8? bytes.toByteArray

/-- A piece without an equals sign has an empty value. -/
def decodePair (piece : String) : Option (String × String) :=
  let (name, value) := cutAtFirst '=' piece
  (decodeField name).bind fun name =>
    (decodeField (value.getD "")).map fun value => (name, value)

def decodeQuery (query : String) : Option (List (String × String)) :=
  ((query.toList.splitOn '&').map String.ofList).mapM decodePair

/-! ## Cutting -/

theorem forall_ne_of_not_mem {mark : Char} {letters : List Char} (free : mark ∉ letters) :
    ∀ letter ∈ letters, decide (letter ≠ mark) = true := by
  intro letter member
  exact decide_eq_true (List.forall_mem_ne'.mpr free letter member)

theorem cutAtFirst_of_not_mem {mark : Char} {text : String} (free : mark ∉ text.toList) :
    cutAtFirst mark text = (text, none) := by
  have others := forall_ne_of_not_mem free
  rw [cutAtFirst, List.takeWhile_eq_self_iff.mpr others, List.dropWhile_eq_nil_iff.mpr others,
    String.ofList_toList]
  rfl

theorem cutAtFirst_append {mark : Char} {before : String} (free : mark ∉ before.toList)
    (after : String) :
    cutAtFirst mark (before ++ String.singleton mark ++ after) = (before, some after) := by
  have others := forall_ne_of_not_mem free
  have letters : (before ++ String.singleton mark ++ after).toList =
      before.toList ++ mark :: after.toList := by
    simp [String.toList_append]
  rw [cutAtFirst, letters, List.takeWhile_append_of_pos others, List.dropWhile_append_of_pos others]
  simp

/-! ## Bytes -/

theorem hexValue?_hexDigit {value : Nat} (bounded : value < 16) :
    hexValue? (hexDigit value) = some value := by
  decide +revert

theorem hexValue?_hexDigits (byte : UInt8) :
    ∃ first second, hexValue? (hexDigit (byte.toNat / 16)) = some first ∧
      hexValue? (hexDigit (byte.toNat % 16)) = some second ∧
      UInt8.ofNat (16 * first + second) = byte := by
  have bounded := byte.toNat_lt
  refine ⟨_, _, hexValue?_hexDigit (by omega), hexValue?_hexDigit (by omega), ?_⟩
  rw [Nat.div_add_mod]
  exact UInt8.ofNat_toNat

theorem toNat_ofNat_byte (byte : UInt8) : (Char.ofNat byte.toNat).toNat = byte.toNat := by
  have valid : byte.toNat.isValidChar := Or.inl (by have := byte.toNat_lt; omega)
  rw [Char.toNat_ofNat, if_pos valid]

theorem code_of_standsForItself {byte : UInt8} (stands : standsForItself byte) :
    byte.toNat < 128 ∧ byte.toNat ≠ '%'.toNat ∧ byte.toNat ≠ '+'.toNat := by
  have codeOf : ∀ special, Char.ofNat byte.toNat = special → byte.toNat = special.toNat := by
    intro special same
    rw [← same, toNat_ofNat_byte]
  simp only [standsForItself, Bool.or_eq_true, decide_eq_true_eq, Codegen.isAlphanum_iff,
    Codegen.isUpper_iff, Codegen.isLower_iff, Char.isDigit_iff_toNat, toNat_ofNat_byte] at stands
  rcases stands with (((alphanumeric | special) | special) | special) | special
  · simp only [Char.reduceToNat] at alphanumeric ⊢
    omega
  all_goals
    rw [codeOf _ special]
    decide

theorem utf8EncodeChar_ofNat_byte {byte : UInt8} (small : byte.toNat < 128) :
    String.utf8EncodeChar (Char.ofNat byte.toNat) = [byte] := by
  have code : (Char.ofNat byte.toNat).val.toNat = byte.toNat := toNat_ofNat_byte byte
  have single : (Char.ofNat byte.toNat).utf8Size = 1 := by
    rw [Char.utf8Size_eq_one_iff, UInt32.le_iff_toNat_le, code]
    exact Nat.le_of_lt_succ small
  have sameByte : (Char.ofNat byte.toNat).val.toUInt8 = byte := by
    rw [← UInt8.toNat_inj, UInt32.toNat_toUInt8, code]
    omega
  rw [String.utf8EncodeChar_eq_singleton single, sameByte]

theorem decodeBytes_plain {letter : Char} (noPlus : letter ≠ '+') (noPercent : letter ≠ '%')
    (rest : List Char) :
    decodeBytes (letter :: rest) =
      (decodeBytes rest).map (String.utf8EncodeChar letter ++ ·) := by
  rw [decodeBytes] <;> simp [noPlus, noPercent]

theorem decodeBytes_encodeByte (byte : UInt8) (rest : List Char) :
    decodeBytes (encodeByte byte ++ rest) = (decodeBytes rest).map (byte :: ·) := by
  rw [encodeByte]
  split
  case isTrue stands =>
    -- The byte is ASCII, so it is all that its letter decodes to.
    obtain ⟨small, noPercent, noPlus⟩ := code_of_standsForItself stands
    rw [List.singleton_append, decodeBytes_plain, utf8EncodeChar_ofNat_byte small]
    · rfl
    all_goals
      intro same
      have code := toNat_ofNat_byte byte
      rw [same] at code
      omega
  case isFalse =>
    split
    case isTrue isSpace =>
      have space : byte = 32 := UInt8.toNat_inj.mp isSpace
      rw [space]
      rfl
    case isFalse =>
      obtain ⟨first, second, firstRead, secondRead, together⟩ := hexValue?_hexDigits byte
      simp only [List.cons_append, List.nil_append, decodeBytes, firstRead, secondRead,
        Option.bind_some, together]

theorem decodeBytes_flatMap (bytes : List UInt8) :
    decodeBytes (bytes.flatMap encodeByte) = some bytes := by
  induction bytes with
  | nil => rfl
  | cons byte rest ih =>
      rw [List.flatMap_cons, decodeBytes_encodeByte, ih]
      rfl

theorem fromUTF8?_utf8EncodeChar (text : String) :
    String.fromUTF8? (text.toList.flatMap String.utf8EncodeChar).toByteArray = some text := by
  have bytes : (text.toList.flatMap String.utf8EncodeChar).toByteArray = text.toByteArray :=
    String.utf8Encode_toList
  rw [bytes, String.fromUTF8?, dif_pos text.isValidUTF8]
  rfl

/-- A written field says what was written into it, whatever the text. -/
theorem decodeField_encodeField (text : String) : decodeField (encodeField text) = some text := by
  rw [decodeField, encodeField, String.toList_ofList, decodeBytes_flatMap]
  exact fromUTF8?_utf8EncodeChar text

/-! ## Letters -/

def isFieldLetter (letter : Char) : Bool :=
  letter.isAlphanum || letter ∈ ['*', '-', '.', '_', '+', '%']

def isQueryLetter (letter : Char) : Bool :=
  isFieldLetter letter || letter ∈ ['&', '=']

theorem isFieldLetter_hexDigit {value : Nat} (bounded : value < 16) :
    isFieldLetter (hexDigit value) := by
  decide +revert

theorem isFieldLetter_of_mem_encodeByte {byte : UInt8} {letter : Char}
    (member : letter ∈ encodeByte byte) : isFieldLetter letter := by
  rw [encodeByte] at member
  split at member
  case isTrue stands =>
    rw [List.mem_singleton.mp member]
    simp only [standsForItself, Bool.or_eq_true, decide_eq_true_eq] at stands
    simp only [isFieldLetter, Bool.or_eq_true, decide_eq_true_eq]
    grind
  case isFalse =>
    split at member
    case isTrue =>
      rw [List.mem_singleton.mp member]
      rfl
    case isFalse =>
      have bounded := byte.toNat_lt
      simp only [List.mem_cons, List.not_mem_nil, or_false] at member
      rcases member with rfl | rfl | rfl
      · rfl
      · exact isFieldLetter_hexDigit (by omega)
      · exact isFieldLetter_hexDigit (by omega)

theorem isFieldLetter_of_mem_encodeField {text : String} {letter : Char}
    (member : letter ∈ (encodeField text).toList) : isFieldLetter letter := by
  rw [encodeField, String.toList_ofList] at member
  obtain ⟨byte, _, inByte⟩ := List.mem_flatMap.mp member
  exact isFieldLetter_of_mem_encodeByte inByte

theorem not_mem_encodeField {mark : Char} (noField : isFieldLetter mark = false) (text : String) :
    mark ∉ (encodeField text).toList := by
  intro member
  have isField := isFieldLetter_of_mem_encodeField member
  rw [noField] at isField
  cases isField

/-! ## Queries -/

/-- A pair as it is written. -/
def encodePair (pair : String × String) : String :=
  encodeField pair.1 ++ "=" ++ encodeField pair.2

theorem decodePair_encodePair (pair : String × String) :
    decodePair (encodePair pair) = some pair := by
  have cut : cutAtFirst '=' (encodePair pair) =
      (encodeField pair.1, some (encodeField pair.2)) :=
    cutAtFirst_append (not_mem_encodeField rfl pair.1) (encodeField pair.2)
  rw [decodePair, cut]
  simp only [Option.getD_some, decodeField_encodeField, Option.bind_some, Option.map_some]

theorem isQueryLetter_of_mem_encodePair {pair : String × String} {letter : Char}
    (member : letter ∈ (encodePair pair).toList) : isQueryLetter letter ∧ letter ≠ '&' := by
  have ofField : ∀ text, letter ∈ (encodeField text).toList →
      isQueryLetter letter ∧ letter ≠ '&' := by
    intro text inField
    refine ⟨Bool.or_eq_true_iff.mpr (Or.inl (isFieldLetter_of_mem_encodeField inField)), ?_⟩
    intro ampersand
    rw [ampersand] at inField
    exact not_mem_encodeField rfl text inField
  rw [encodePair, String.toList_append, String.toList_append] at member
  rcases List.mem_append.mp member with before | inValue
  · rcases List.mem_append.mp before with inName | isSign
    · exact ofField pair.1 inName
    · rw [List.mem_singleton.mp isSign]
      decide
  · exact ofField pair.2 inValue

theorem letters_encodeQuery (pairs : List (String × String)) :
    (encodeQuery pairs).toList =
      ['&'].intercalate (pairs.map fun pair => (encodePair pair).toList) := by
  rw [encodeQuery, String.toList_intercalate, List.map_map]
  rfl

/-- What is written for some pairs is read back as these pairs, in the same order. -/
theorem decodeQuery_encodeQuery {pairs : List (String × String)} (present : pairs ≠ []) :
    decodeQuery (encodeQuery pairs) = some pairs := by
  have divided : (encodeQuery pairs).toList.splitOn '&' =
      pairs.map fun pair => (encodePair pair).toList := by
    rw [letters_encodeQuery]
    apply List.splitOn_intercalate
    · intro letters member
      obtain ⟨pair, _, rfl⟩ := List.mem_map.mp member
      intro ampersand
      exact (isQueryLetter_of_mem_encodePair ampersand).2 rfl
    · simpa using present
  rw [decodeQuery, divided, List.map_map]
  have read : (pairs.map encodePair).mapM decodePair = some (pairs.map id) :=
    Codegen.Token.mapM_read_eq fun pair _ => decodePair_encodePair pair
  rw [List.map_id] at read
  simpa [Function.comp_def] using read

theorem mem_intercalate {separator letter : Char} {pieces : List (List Char)}
    (member : letter ∈ [separator].intercalate pieces) :
    letter = separator ∨ ∃ piece ∈ pieces, letter ∈ piece := by
  induction pieces with
  | nil => cases member
  | cons piece rest ih =>
      cases rest with
      | nil =>
          rw [List.intercalate_singleton] at member
          exact Or.inr ⟨piece, List.mem_cons_self, member⟩
      | cons next others =>
          rw [List.intercalate_cons_cons] at member
          rcases List.mem_append.mp member with before | later
          · rcases List.mem_append.mp before with inPiece | isSeparator
            · exact Or.inr ⟨piece, List.mem_cons_self, inPiece⟩
            · exact Or.inl (List.mem_singleton.mp isSeparator)
          · exact (ih later).imp_right fun ⟨other, isOther, inOther⟩ =>
              ⟨other, List.mem_cons_of_mem piece isOther, inOther⟩

theorem isQueryLetter_of_mem_encodeQuery {pairs : List (String × String)} {letter : Char}
    (member : letter ∈ (encodeQuery pairs).toList) : isQueryLetter letter := by
  rw [letters_encodeQuery] at member
  rcases mem_intercalate member with rfl | ⟨letters, isPair, inPair⟩
  · rfl
  · obtain ⟨pair, _, rfl⟩ := List.mem_map.mp isPair
    exact (isQueryLetter_of_mem_encodePair inPair).1

end RouteTree.Url
