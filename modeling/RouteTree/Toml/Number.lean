import RouteTree.Json.Reader

/-!
# Numbers and moments in TOML

A value that starts with a digit or a sign is a whole number, a float, or a
moment: a date, a time, or both. Digits may be grouped by single underscores.
-/

namespace RouteTree.Toml

/-! ## Whole numbers -/

/-- Digits of one kind, with underscores only between two of them. -/
def isGrouped (isDigit : Char → Bool) : List Char → Bool
  | [] => false
  | [digit] => isDigit digit
  | digit :: '_' :: rest => isDigit digit && isGrouped isDigit rest
  | digit :: rest => isDigit digit && isGrouped isDigit rest

def withoutUnderscores (letters : List Char) : List Char :=
  letters.filter (· ≠ '_')

/-- Decimal digits that start with a zero only if that is all. -/
def isPlainWhole (letters : List Char) : Bool :=
  isGrouped Char.isDigit letters && (letters.head? ≠ some '0' || letters = ['0'])

def isOctalDigit (letter : Char) : Bool := '0' ≤ letter && letter ≤ '7'

def isBinaryDigit (letter : Char) : Bool := letter = '0' || letter = '1'

def isHexDigit (letter : Char) : Bool := (Json.hexValue? letter).isSome

/-- The number that digits spell to a base. -/
def spelled (base : Nat) (letters : List Char) : Nat :=
  (withoutUnderscores letters).foldl
    (fun number digit => number * base + (Json.hexValue? digit).getD 0) 0

/-- A whole number that fits in sixty-four bits with a sign. -/
def inWordRange (value : Int) : Option Int :=
  if -9223372036854775808 ≤ value ∧ value ≤ 9223372036854775807 then some value else none

/-- A number to a base, from the digits after its lead. -/
def basedNumber? (base : Nat) (isDigit : Char → Bool) (digits : List Char) : Option Int :=
  if isGrouped isDigit digits then inWordRange (spelled base digits) else none

def integer? (letters : List Char) : Option Int :=
  match letters with
  | '0' :: 'x' :: digits => basedNumber? 16 isHexDigit digits
  | '0' :: 'o' :: digits => basedNumber? 8 isOctalDigit digits
  | '0' :: 'b' :: digits => basedNumber? 2 isBinaryDigit digits
  | _ =>
      let (sign, digits) := Json.readSign letters
      if isPlainWhole digits then
        let size := spelled 10 digits
        inWordRange (if sign = ['-'] then -(size : Int) else size)
      else none

/-! ## Floats -/

/-- The parts of a float: the whole digits, the digits after a point, and the
exponent with its sign. -/
structure FloatParts where
  negative : Bool
  whole : List Char
  fraction : Option (List Char)
  exponent : Option (List Char × List Char)
deriving DecidableEq, Repr

def isExponentMark (letter : Char) : Bool := letter = 'e' || letter = 'E'

/-- Cuts a float into its parts. -/
def floatParts (letters : List Char) : FloatParts :=
  let (sign, unsigned) := Json.readSign letters
  let mantissa := unsigned.takeWhile (!isExponentMark ·)
  let exponent :=
    match unsigned.dropWhile (!isExponentMark ·) with
    | [] => none
    | _ :: digits => some (Json.readSign digits)
  let fraction :=
    match mantissa.dropWhile (· ≠ '.') with
    | [] => none
    | _ :: digits => some digits
  ⟨sign = ['-'], mantissa.takeWhile (· ≠ '.'), fraction, exponent⟩

/-- A float has a fraction or an exponent, and digits wherever it has a part. -/
def FloatParts.isWellFormed (parts : FloatParts) : Bool :=
  isPlainWhole parts.whole &&
    parts.fraction.all (isGrouped Char.isDigit) &&
    parts.exponent.all (fun (_, digits) => isGrouped Char.isDigit digits) &&
    (parts.fraction.isSome || parts.exponent.isSome)

/-- Half a step above the largest finite double; what is not below it rounds
to infinity. -/
def overflowBound : Nat := Nat.pow 2 1024 - Nat.pow 2 970

/-- Whether a positive float is too large to be finite. -/
def FloatParts.overflows (parts : FloatParts) : Bool :=
  let fraction := withoutUnderscores (parts.fraction.getD [])
  let mantissa := spelled 10 (parts.whole ++ fraction)
  let (sign, digits) := parts.exponent.getD ([], [])
  let size := spelled 10 digits
  let scale : Int := (if sign = ['-'] then -(size : Int) else size) - fraction.length
  let width : Int := (toString mantissa).length
  if parts.negative || mantissa = 0 || width + scale < 300 then false
  else if 320 < width + scale then true
  else if 0 ≤ scale then overflowBound ≤ mantissa * Nat.pow 10 scale.toNat
  else overflowBound * Nat.pow 10 (-scale).toNat ≤ mantissa

def isFloat (letters : List Char) : Bool :=
  let (_, unsigned) := Json.readSign letters
  let parts := floatParts letters
  unsigned = ['i', 'n', 'f'] || unsigned = ['n', 'a', 'n'] ||
    (parts.isWellFormed && !parts.overflows)

/-! ## Moments -/

/-- The number of so many digits, if there are exactly so many and no more. -/
def exactNumber? (count : Nat) (letters : List Char) : Option Nat :=
  if letters.length = count && letters.all Char.isDigit then some (spelled 10 letters)
  else none

def isLeapYear (year : Nat) : Bool :=
  year % 4 = 0 && (year % 100 ≠ 0 || year % 400 = 0)

def daysInMonth (year month : Nat) : Nat :=
  if month = 2 then if isLeapYear year then 29 else 28
  else if month = 4 || month = 6 || month = 9 || month = 11 then 30
  else 31

/-- A date reads `year-month-day`. -/
def isDate (letters : List Char) : Bool :=
  match letters.splitOn '-' with
  | [year, month, day] =>
      match exactNumber? 4 year, exactNumber? 2 month, exactNumber? 2 day with
      | some year, some month, some day =>
          1 ≤ month && month ≤ 12 && 1 ≤ day && day ≤ daysInMonth year month
      | _, _, _ => false
  | _ => false

def isHourMinute (hour minute : List Char) : Bool :=
  match exactNumber? 2 hour, exactNumber? 2 minute with
  | some hour, some minute => hour ≤ 23 && minute ≤ 59
  | _, _ => false

/-- Seconds, up to a leap second, and perhaps a fraction. -/
def isSecond (letters : List Char) : Bool :=
  let fits (digits : List Char) : Bool :=
    match exactNumber? 2 digits with
    | some second => second ≤ 60
    | none => false
  match letters.splitOn '.' with
  | [second] => fits second
  | [second, fraction] => fits second && !fraction.isEmpty && fraction.all Char.isDigit
  | _ => false

/-- A time reads `hour:minute:second`. -/
def isTime (letters : List Char) : Bool :=
  match letters.splitOn ':' with
  | [hour, minute, second] => isHourMinute hour minute && isSecond second
  | _ => false

/-- A distance from Greenwich reads `hour:minute` after its sign. -/
def isDistance (letters : List Char) : Bool :=
  match letters.splitOn ':' with
  | [hour, minute] => isHourMinute hour minute
  | _ => false

/-- A time of day, perhaps with a time zone. -/
def isZonedTime (letters : List Char) : Bool :=
  let isZoneSign (letter : Char) : Bool := letter = '+' || letter = '-'
  match letters.getLast? with
  | some 'Z' => isTime letters.dropLast
  | some 'z' => isTime letters.dropLast
  | _ =>
      match letters.dropWhile (!isZoneSign ·) with
      | [] => isTime letters
      | _ :: distance => isTime (letters.takeWhile (!isZoneSign ·)) && isDistance distance

/-- A moment: a date, a time, or a date and a time around a `T` or a space. -/
def isMoment (letters : List Char) : Bool :=
  match letters.drop 10 with
  | [] => isDate letters || isTime letters
  | separator :: time =>
      isTime letters ||
        (isDate (letters.take 10) &&
          (separator = 'T' || separator = 't' || separator = ' ') && isZonedTime time)

end RouteTree.Toml
