import RouteTree.Url.Query

/-!
# Fields in stages

A field is written byte by byte. The same text comes out of four passes over
the whole of it: every byte that is not unreserved is escaped, then each escaped
space becomes a plus, each escaped star a star, and each tilde is escaped. No pass
meets what it looks for across two letters or escapes, since a percent sign only
ever begins an escape.
-/

namespace RouteTree.Url

def isUnreserved (byte : UInt8) : Bool :=
  let letter := Char.ofNat byte.toNat
  letter.isAlphanum || letter = '-' || letter = '.' || letter = '_' || letter = '~'

def percentByte (byte : UInt8) : List Char :=
  if isUnreserved byte then [Char.ofNat byte.toNat]
  else ['%', hexDigit (byte.toNat / 16), hexDigit (byte.toNat % 16)]

def percentEncode (text : String) : String :=
  String.ofList ((text.toList.flatMap String.utf8EncodeChar).flatMap percentByte)

/-- Writes `new` for `old` from the left, going on behind what it has replaced.
The number says how many letters of a replaced occurrence are still to be passed. -/
def replaceFrom (old new : List Char) : Nat → List Char → List Char
  | _, [] => []
  | passed + 1, _ :: rest => replaceFrom old new passed rest
  | 0, letter :: rest =>
      if old.isPrefixOf (letter :: rest) then new ++ replaceFrom old new (old.length - 1) rest
      else letter :: replaceFrom old new 0 rest

def replaceAll (old new text : String) : String :=
  String.ofList (replaceFrom old.toList new.toList 0 text.toList)

def stagedField (text : String) : String :=
  replaceAll "~" "%7E" (replaceAll "%2A" "*" (replaceAll "%20" "+" (percentEncode text)))

def stagedQuery (pairs : List (String × String)) : String :=
  "&".intercalate (pairs.map fun (name, value) => stagedField name ++ "=" ++ stagedField value)

/-- A letter other than the percent sign, or a whole escape. -/
inductive IsSymbol : List Char → Prop
  | plain {letter : Char} (noSign : letter ≠ '%') : IsSymbol [letter]
  | escape {high low : Char} (highPlain : high ≠ '%') (lowPlain : low ≠ '%') :
      IsSymbol ['%', high, low]

def replaceSymbol (old new symbol : List Char) : List Char :=
  if symbol = old then new else symbol

theorem IsSymbol.replaceSymbol {old new symbol : List Char} (isSymbol : IsSymbol symbol)
    (isNew : IsSymbol new) : IsSymbol (replaceSymbol old new symbol) := by
  rw [Url.replaceSymbol]
  split
  · exact isNew
  · exact isSymbol

/-! ## Replacing an escape -/

section Escapes

variable {high low : Char} {new : List Char}

theorem replaceFrom_plain {letter : Char} (noSign : letter ≠ '%') (rest : List Char) :
    replaceFrom ['%', high, low] new 0 (letter :: rest) =
      letter :: replaceFrom ['%', high, low] new 0 rest := by
  have elsewhere : ['%', high, low].isPrefixOf (letter :: rest) = false := by
    rw [List.isPrefixOf_cons_cons, beq_false_of_ne noSign.symm, Bool.false_and]
  rw [replaceFrom, elsewhere]
  rfl

theorem replaceFrom_same (rest : List Char) :
    replaceFrom ['%', high, low] new 0 ('%' :: high :: low :: rest) =
      new ++ replaceFrom ['%', high, low] new 0 rest := by
  have here : ['%', high, low].isPrefixOf ('%' :: high :: low :: rest) := by
    rw [List.isPrefixOf_iff_prefix]
    exact List.prefix_append ['%', high, low] rest
  rw [replaceFrom, if_pos here]
  rfl

/-- An occurrence of an escape is a whole symbol. -/
theorem replaceFrom_symbol {symbol : List Char} (isSymbol : IsSymbol symbol) (rest : List Char) :
    replaceFrom ['%', high, low] new 0 (symbol ++ rest) =
      replaceSymbol ['%', high, low] new symbol ++
        replaceFrom ['%', high, low] new 0 rest := by
  rw [replaceSymbol]
  cases isSymbol with
  | @plain letter noSign =>
      rw [if_neg (by simp)]
      exact replaceFrom_plain noSign rest
  | @escape high' low' highPlain lowPlain =>
      by_cases same : ['%', high', low'] = ['%', high, low]
      · rw [if_pos same, same]
        exact replaceFrom_same rest
      · rw [if_neg same]
        have elsewhere : ['%', high, low].isPrefixOf ('%' :: high' :: low' :: rest) = false := by
          rw [Bool.eq_false_iff]
          intro here
          rw [List.isPrefixOf_iff_prefix] at here
          simp only [List.cons_prefix_cons, List.nil_prefix, and_true, true_and] at here
          exact same (by rw [here.1, here.2])
        simp only [List.cons_append, List.nil_append]
        -- Behind its sign the escape is passed letter by letter.
        rw [replaceFrom, elsewhere, if_neg Bool.false_ne_true, replaceFrom_plain highPlain,
          replaceFrom_plain lowPlain]

theorem replaceFrom_flatMap {Item : Type} {write : Item → List Char}
    (symbols : ∀ item, IsSymbol (write item)) (items : List Item) :
    replaceFrom ['%', high, low] new 0 (items.flatMap write) =
      items.flatMap fun item => replaceSymbol ['%', high, low] new (write item) := by
  induction items with
  | nil => rfl
  | cons item rest ih =>
      rw [List.flatMap_cons, List.flatMap_cons, replaceFrom_symbol (symbols item), ih]

end Escapes

theorem replaceFrom_letter (old : Char) (new letters : List Char) :
    replaceFrom [old] new 0 letters =
      letters.flatMap fun letter => if letter = old then new else [letter] := by
  induction letters with
  | nil => rfl
  | cons letter rest ih =>
      rw [replaceFrom, List.flatMap_cons]
      by_cases same : letter = old
      · have here : [old].isPrefixOf (letter :: rest) := by simp [same]
        rw [if_pos here, if_pos same, ← ih]
        rfl
      · have elsewhere : ¬ [old].isPrefixOf (letter :: rest) := by simp [Ne.symm same]
        rw [if_neg elsewhere, if_neg same, ← ih]
        rfl

/-! ## All passes -/

theorem hexDigit_ne_sign {value : Nat} (bounded : value < 16) : hexDigit value ≠ '%' := by
  decide +revert

theorem isSymbol_percentByte (byte : UInt8) : IsSymbol (percentByte byte) := by
  rw [percentByte]
  split
  case isTrue unreserved =>
    apply IsSymbol.plain
    intro isSign
    rw [isUnreserved, isSign] at unreserved
    exact absurd unreserved (by decide)
  case isFalse =>
    have bounded := byte.toNat_lt
    exact .escape (hexDigit_ne_sign (by omega)) (hexDigit_ne_sign (by omega))

def plusForSpace (byte : UInt8) : List Char :=
  replaceSymbol ['%', '2', '0'] ['+'] (percentByte byte)

/-- What all passes make of one byte. -/
def passByte (byte : UInt8) : List Char :=
  (replaceSymbol ['%', '2', 'A'] ['*'] (plusForSpace byte)).flatMap
    fun letter => if letter = '~' then ['%', '7', 'E'] else [letter]

theorem passByte_eq_encodeByte (byte : UInt8) : passByte byte = encodeByte byte := by
  have all : ∀ code < 256, passByte (UInt8.ofNat code) = encodeByte (UInt8.ofNat code) := by
    decide +kernel
  have this := all byte.toNat byte.toNat_lt
  rwa [UInt8.ofNat_toNat] at this

theorem stagedField_eq_encodeField (text : String) : stagedField text = encodeField text := by
  let bytes := text.toList.flatMap String.utf8EncodeChar
  have isPlus : IsSymbol ['+'] := .plain (by decide)
  have spaces : replaceFrom ['%', '2', '0'] ['+'] 0 (bytes.flatMap percentByte) =
      bytes.flatMap plusForSpace :=
    replaceFrom_flatMap isSymbol_percentByte bytes
  have stars : replaceFrom ['%', '2', 'A'] ['*'] 0 (bytes.flatMap plusForSpace) =
      bytes.flatMap fun byte => replaceSymbol ['%', '2', 'A'] ['*'] (plusForSpace byte) :=
    replaceFrom_flatMap (fun byte => (isSymbol_percentByte byte).replaceSymbol isPlus) bytes
  have tildes := replaceFrom_letter '~' ['%', '7', 'E']
  simp only [stagedField, replaceAll, percentEncode, String.toList_ofList]
  change String.ofList (replaceFrom ['~'] ['%', '7', 'E'] 0 (replaceFrom ['%', '2', 'A'] ['*'] 0
    (replaceFrom ['%', '2', '0'] ['+'] 0 (bytes.flatMap percentByte)))) = _
  rw [spaces, stars, tildes, List.flatMap_assoc, encodeField]
  exact congrArg (fun write => String.ofList (bytes.flatMap write)) (funext passByte_eq_encodeByte)

theorem stagedQuery_eq_encodeQuery (pairs : List (String × String)) :
    stagedQuery pairs = encodeQuery pairs := by
  simp only [stagedQuery, encodeQuery, stagedField_eq_encodeField]

end RouteTree.Url
