import RouteTree.Json.Value

/-!
# Reading JSON

The strict grammar: no comments, no trailing commas, no text after the value.
Escapes in a text name UTF-16 units, so a character beyond the first plane is
written as a pair of them.
-/

namespace RouteTree.Json

def isBlank (letter : Char) : Bool :=
  letter = ' ' || letter = '\n' || letter = '\t' || letter = '\r'

def skipBlanks (letters : List Char) : List Char :=
  letters.dropWhile isBlank

/-! ## Texts -/

def hexValue? (letter : Char) : Option Nat :=
  if letter.isDigit then some (letter.toNat - '0'.toNat)
  else if 'a' ≤ letter && letter ≤ 'f' then some (letter.toNat - 'a'.toNat + 10)
  else if 'A' ≤ letter && letter ≤ 'F' then some (letter.toNat - 'A'.toNat + 10)
  else none

/-- The number that hexadecimal digits spell. -/
def hexNumber? (digits : List Char) : Option Nat :=
  digits.foldlM (fun number digit => (hexValue? digit).map (number * 16 + ·)) 0

/-- The code that a one-letter escape stands for. -/
def escapeCode? : Char → Option Nat
  | '"' => some '"'.toNat
  | '\\' => some '\\'.toNat
  | '/' => some '/'.toNat
  | 'b' => some 8
  | 'f' => some 12
  | 'n' => some 10
  | 'r' => some 13
  | 't' => some 9
  | _ => none

/-- The codes of a text up to its closing quote, and what follows the quote.
An escape may name half a surrogate pair. -/
def readCodes : List Char → Option (List Nat × List Char)
  | [] => none
  | '"' :: rest => some ([], rest)
  | '\\' :: 'u' :: first :: second :: third :: fourth :: rest =>
      (hexNumber? [first, second, third, fourth]).bind fun code =>
        (readCodes rest).map fun (codes, after) => (code :: codes, after)
  | '\\' :: letter :: rest =>
      (escapeCode? letter).bind fun code =>
        (readCodes rest).map fun (codes, after) => (code :: codes, after)
  | letter :: rest =>
      if letter.toNat < 32 || letter = '\\' then none
      else (readCodes rest).map fun (codes, after) => (letter.toNat :: codes, after)

def isHighHalf (code : Nat) : Bool := 0xD800 ≤ code && code < 0xDC00

def isLowHalf (code : Nat) : Bool := 0xDC00 ≤ code && code < 0xE000

/-- The characters of a list of codes, where two halves in a row make one
character; a half by itself makes none. -/
def joinHalves? : List Nat → Option (List Char)
  | [] => some []
  | [code] => if isHighHalf code || isLowHalf code then none else some [Char.ofNat code]
  | code :: next :: rest =>
      if isHighHalf code then
        if isLowHalf next then
          (joinHalves? rest).map
            (Char.ofNat (0x10000 + (code - 0xD800) * 0x400 + (next - 0xDC00)) :: ·)
        else none
      else if isLowHalf code then none
      else (joinHalves? (next :: rest)).map (Char.ofNat code :: ·)

/-- A text after its opening quote; the text is `none` when it has half a
surrogate pair. -/
def readText (letters : List Char) : Option (Option String × List Char) :=
  (readCodes letters).map fun (codes, rest) =>
    ((joinHalves? codes).map String.ofList, rest)

/-! ## Numbers -/

def takeDigits (letters : List Char) : List Char × List Char :=
  letters.span Char.isDigit

/-- The whole part of a number, which starts with a zero only if it is one. -/
def readWhole : List Char → Option (List Char × List Char)
  | '0' :: rest => some (['0'], rest)
  | letters =>
      match takeDigits letters with
      | ([], _) => none
      | (digits, rest) => some (digits, rest)

/-- The point and the digits after it, if there is a point. -/
def readFraction : List Char → Option (List Char × List Char)
  | '.' :: rest =>
      match takeDigits rest with
      | ([], _) => none
      | (digits, after) => some ('.' :: digits, after)
  | letters => some ([], letters)

def readSign : List Char → List Char × List Char
  | '+' :: rest => (['+'], rest)
  | '-' :: rest => (['-'], rest)
  | letters => ([], letters)

/-- The exponent, if there is one. -/
def readExponent : List Char → Option (List Char × List Char)
  | [] => some ([], [])
  | letter :: rest =>
      if letter = 'e' || letter = 'E' then
        let (sign, digitsOn) := readSign rest
        match takeDigits digitsOn with
        | ([], _) => none
        | (digits, after) => some (letter :: sign ++ digits, after)
      else some ([], letter :: rest)

def digitsValue (digits : List Char) : Nat :=
  digits.foldl (fun number digit => number * 10 + (digit.toNat - '0'.toNat)) 0

/-- The value of a number from its parts. A negative zero stays as written,
since no integer is one. -/
def numberOfParts (negative : Bool) (whole fraction exponent : List Char) : Json :=
  let sign := if negative then ['-'] else []
  if fraction.isEmpty && exponent.isEmpty && !(negative && whole = ['0']) then
    .integer (if negative then -(digitsValue whole : Int) else digitsValue whole)
  else .decimal (String.ofList (sign ++ whole ++ fraction ++ exponent))

def readNumber (letters : List Char) : Option (Json × List Char) :=
  let (negative, unsigned) :=
    match letters with
    | '-' :: rest => (true, rest)
    | _ => (false, letters)
  (readWhole unsigned).bind fun (whole, afterWhole) =>
    (readFraction afterWhole).bind fun (fraction, afterFraction) =>
      (readExponent afterFraction).map fun (exponent, rest) =>
        (numberOfParts negative whole fraction exponent, rest)

/-! ## Values -/

/-- An object from its fields; it is broken when one of their names is. -/
def objectOfFields (fields : List (Option String × Json)) : Json :=
  match fields.mapM fun (name, value) => name.map (·, value) with
  | some named => .object named
  | none => .broken

mutual

/-- Reads one value; the fuel bounds the calls that are open at once. -/
def readValue : Nat → List Char → Option (Json × List Char)
  | 0, _ => none
  | fuel + 1, letters =>
      match skipBlanks letters with
      | 'n' :: 'u' :: 'l' :: 'l' :: rest => some (.null, rest)
      | 't' :: 'r' :: 'u' :: 'e' :: rest => some (.bool true, rest)
      | 'f' :: 'a' :: 'l' :: 's' :: 'e' :: rest => some (.bool false, rest)
      | '"' :: rest =>
          (readText rest).map fun (content, after) => (content.elim .broken .text, after)
      | '[' :: rest =>
          match skipBlanks rest with
          | ']' :: after => some (.array [], after)
          | _ => (readItems fuel rest).map fun (items, after) => (.array items, after)
      | '\x7b' :: rest =>
          match skipBlanks rest with
          | '\x7d' :: after => some (.object [], after)
          | _ =>
              (readFields fuel rest).map fun (fields, after) =>
                (objectOfFields fields, after)
      | number => readNumber number

/-- Reads the items of an array up to its closing bracket. -/
def readItems : Nat → List Char → Option (List Json × List Char)
  | 0, _ => none
  | fuel + 1, letters =>
      (readValue fuel letters).bind fun (item, rest) =>
        match skipBlanks rest with
        | ']' :: after => some ([item], after)
        | ',' :: more =>
            (readItems fuel more).map fun (items, after) => (item :: items, after)
        | _ => none

/-- Reads the fields of an object up to its closing brace. -/
def readFields : Nat → List Char → Option (List (Option String × Json) × List Char)
  | 0, _ => none
  | fuel + 1, letters =>
      match skipBlanks letters with
      | '"' :: inName =>
          (readText inName).bind fun (name, afterName) =>
            match skipBlanks afterName with
            | ':' :: beforeValue =>
                (readValue fuel beforeValue).bind fun (value, rest) =>
                  match skipBlanks rest with
                  | '\x7d' :: after => some ([(name, value)], after)
                  | ',' :: more =>
                      (readFields fuel more).map fun (fields, after) =>
                        ((name, value) :: fields, after)
                  | _ => none
            | _ => none
      | _ => none

end

/-- Reads a text that is one value with blanks around it. -/
def ofText? (text : String) : Option Json :=
  let letters := text.toList
  match readValue (2 * letters.length + 2) letters with
  | some (value, rest) => if (skipBlanks rest).isEmpty then some value else none
  | none => none

end RouteTree.Json
