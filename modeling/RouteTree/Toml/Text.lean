import RouteTree.Json.Reader

/-!
# Texts in TOML

A text stands between double quotes, with escapes, or between single quotes,
without. Three quotes open a text of several lines, in which a quote or two
may stand, and in which every line break is written as a line feed.
-/

namespace RouteTree.Toml

/-- Whether a character may stand in a text or a comment as it is. -/
def isPlain (letter : Char) : Bool :=
  letter = '\t' || (32 ≤ letter.toNat && letter.toNat ≠ 127)

def isSpace (letter : Char) : Bool := letter = ' ' || letter = '\t'

def skipSpaces (letters : List Char) : List Char := letters.dropWhile isSpace

/-- What follows a line break, if one stands here. -/
def afterLineBreak? : List Char → Option (List Char)
  | '\n' :: rest => some rest
  | '\r' :: '\n' :: rest => some rest
  | _ => none

/-- The text from its first character that is neither blank nor a line break. -/
def skipBlankLines : List Char → List Char
  | '\r' :: '\n' :: rest => skipBlankLines rest
  | letter :: rest =>
      if isSpace letter || letter = '\n' then skipBlankLines rest else letter :: rest
  | [] => []

/-- The character with a code, if the code is one. -/
def character? (code : Nat) : Option Char :=
  if code < 0xD800 || (0xDFFF < code && code < 0x110000) then some (Char.ofNat code) else none

/-- Reads an escape after its backslash. -/
def readEscape : List Char → Option (Char × List Char)
  | 'b' :: rest => some ('\x08', rest)
  | 't' :: rest => some ('\t', rest)
  | 'n' :: rest => some ('\n', rest)
  | 'f' :: rest => some ('\x0c', rest)
  | 'r' :: rest => some ('\r', rest)
  | '"' :: rest => some ('"', rest)
  | '\\' :: rest => some ('\\', rest)
  | 'u' :: rest => numbered 4 rest
  | 'U' :: rest => numbered 8 rest
  | _ => none
where
  numbered (count : Nat) (letters : List Char) : Option (Char × List Char) :=
    if letters.length < count then none
    else
      ((Json.hexNumber? (letters.take count)).bind character?).map (·, letters.drop count)

/-- Reads a text up to its closing double quote; the fuel bounds its length. -/
def readBasic : Nat → List Char → Option (List Char × List Char)
  | _, '"' :: rest => some ([], rest)
  | fuel + 1, '\\' :: rest =>
      (readEscape rest).bind fun (letter, after) =>
        (readBasic fuel after).map fun (more, end_) => (letter :: more, end_)
  | fuel + 1, letter :: rest =>
      if isPlain letter then
        (readBasic fuel rest).map fun (more, after) => (letter :: more, after)
      else none
  | _, _ => none

/-- Reads a text up to its closing single quote. -/
def readLiteral : List Char → Option (List Char × List Char)
  | [] => none
  | '\'' :: rest => some ([], rest)
  | letter :: rest =>
      if isPlain letter then
        (readLiteral rest).map fun (more, after) => (letter :: more, after)
      else none

/-- What a run of quotes does in a text of several lines: fewer than three
belong to it, and up to two more stand before the three that close it. -/
def closingRun? (quote : Char) (letters : List Char) : Option (Option (List Char)) :=
  let run := letters.takeWhile (· = quote)
  if run.length < 3 then some none
  else if run.length ≤ 5 then some (some (List.replicate (run.length - 3) quote))
  else none

/-- What follows a backslash that ends its line: the blanks and line breaks
after it are passed over. -/
def afterContinuation? (letters : List Char) : Option (List Char) :=
  (afterLineBreak? (skipSpaces letters)).map skipBlankLines

/-- Reads a text of several lines between double quotes. -/
def readBasicLines : Nat → List Char → Option (List Char × List Char)
  | 0, _ => none
  | fuel + 1, letters =>
      match letters with
      | [] => none
      | '"' :: rest =>
          match closingRun? '"' letters with
          | none => none
          | some (some quotes) => some (quotes, letters.dropWhile (· = '"'))
          | some none =>
              (readBasicLines fuel rest).map fun (more, after) => ('"' :: more, after)
      | '\\' :: rest =>
          match afterContinuation? rest with
          | some next => readBasicLines fuel next
          | none =>
              (readEscape rest).bind fun (letter, next) =>
                (readBasicLines fuel next).map fun (more, after) => (letter :: more, after)
      | letter :: rest =>
          match afterLineBreak? letters with
          | some next =>
              (readBasicLines fuel next).map fun (more, after) => ('\n' :: more, after)
          | none =>
              if isPlain letter then
                (readBasicLines fuel rest).map fun (more, after) => (letter :: more, after)
              else none

/-- Reads a text of several lines between single quotes. -/
def readLiteralLines : Nat → List Char → Option (List Char × List Char)
  | 0, _ => none
  | fuel + 1, letters =>
      match letters with
      | [] => none
      | '\'' :: rest =>
          match closingRun? '\'' letters with
          | none => none
          | some (some quotes) => some (quotes, letters.dropWhile (· = '\''))
          | some none =>
              (readLiteralLines fuel rest).map fun (more, after) => ('\'' :: more, after)
      | letter :: rest =>
          match afterLineBreak? letters with
          | some next =>
              (readLiteralLines fuel next).map fun (more, after) => ('\n' :: more, after)
          | none =>
              if isPlain letter then
                (readLiteralLines fuel rest).map fun (more, after) => (letter :: more, after)
              else none

/-- The text without a line break at its start. -/
def trimLineBreak (letters : List Char) : List Char :=
  (afterLineBreak? letters).getD letters

/-- Reads a text that starts with a quote. -/
def readText? (letters : List Char) : Option (String × List Char) :=
  let result :=
    match letters with
    | '"' :: '"' :: '"' :: rest => readBasicLines (rest.length + 1) (trimLineBreak rest)
    | '"' :: rest => readBasic rest.length rest
    | '\'' :: '\'' :: '\'' :: rest => readLiteralLines (rest.length + 1) (trimLineBreak rest)
    | '\'' :: rest => readLiteral rest
    | _ => none
  result.map fun (content, rest) => (String.ofList content, rest)

/-! ## Keys -/

def isBareKeyLetter (letter : Char) : Bool :=
  letter.isAlphanum || letter = '_' || letter = '-'

/-- Reads one key: a text on one line, or letters, digits, `_` and `-`. -/
def readSimpleKey? (letters : List Char) : Option (String × List Char) :=
  let result :=
    match letters with
    | '"' :: rest => readBasic rest.length rest
    | '\'' :: rest => readLiteral rest
    | _ =>
        match letters.span isBareKeyLetter with
        | ([], _) => none
        | found => some found
  result.map fun (content, rest) => (String.ofList content, rest)

/-- Reads keys with points between them; the fuel bounds their number. -/
def readDottedKey? : Nat → List Char → Option (List String × List Char)
  | 0, _ => none
  | fuel + 1, letters =>
      (readSimpleKey? (skipSpaces letters)).bind fun (key, rest) =>
        match skipSpaces rest with
        | '.' :: more =>
            (readDottedKey? fuel more).map fun (keys, after) => (key :: keys, after)
        | after => some ([key], after)

/-- The largest number of keys with points between them. -/
def longestKey : Nat := 79

/-- Reads a key as a path of one or more keys. -/
def readKey? (letters : List Char) : Option (List String × List Char) :=
  readDottedKey? longestKey letters

end RouteTree.Toml
