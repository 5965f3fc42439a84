/-!
# Query strings

Names and values are written as forms are: letters, digits, `-`, `.`, `_` and
`*` stand for themselves, a space is `+`, and every other byte of the UTF-8
form is `%` with two uppercase hexadecimal digits.
-/

namespace RouteTree.Url

/-- Whether a byte of a form stands for itself. -/
def standsForItself (byte : UInt8) : Bool :=
  let letter := Char.ofNat byte.toNat
  letter.isAlphanum || letter = '-' || letter = '.' || letter = '_' || letter = '*'

def hexDigit (value : Nat) : Char :=
  Char.ofNat (if value < 10 then '0'.toNat + value else 'A'.toNat + (value - 10))

/-- One byte of a form. -/
def encodeByte (byte : UInt8) : List Char :=
  if standsForItself byte then [Char.ofNat byte.toNat]
  else if byte.toNat = ' '.toNat then ['+']
  else ['%', hexDigit (byte.toNat / 16), hexDigit (byte.toNat % 16)]

/-- The written form of a name or a value. -/
def encodeField (text : String) : String :=
  String.ofList ((text.toList.flatMap String.utf8EncodeChar).flatMap encodeByte)

/-- Pairs of names and values as a query, without the question mark. -/
def encodeQuery (pairs : List (String × String)) : String :=
  "&".intercalate (pairs.map fun (name, value) => encodeField name ++ "=" ++ encodeField value)

end RouteTree.Url
