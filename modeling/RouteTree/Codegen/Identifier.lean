import RouteTree.Codegen.Naming
import RouteTree.Text.ByteOrderMark
import RouteTree.Text.IdentifierLetters

/-!
# Identifiers

The module name of the settings is a text, in which an identifier may stand
between blanks and comments. Keywords are only identifiers in their raw form.
-/

namespace RouteTree.Codegen

/-- The words that cannot be identifiers as they are. -/
def keywords : List String :=
  ["_", "abstract", "as", "async", "await", "become", "box", "break", "const", "continue",
    "crate", "do", "dyn", "else", "enum", "extern", "false", "final", "fn", "for", "if",
    "impl", "in", "let", "loop", "macro", "match", "mod", "move", "mut", "override", "priv",
    "pub", "ref", "return", "Self", "self", "static", "struct", "super", "trait", "true",
    "try", "type", "typeof", "unsafe", "unsized", "use", "virtual", "where", "while", "yield"]

/-- A name as an identifier; a keyword is written raw. -/
def identifierText (name : String) : String :=
  if name ∈ keywords then "r#" ++ name else name

/-! ## Blanks and comments -/

/-- Characters with the Unicode property `White_Space`, and the two marks of
writing direction. -/
def isSpace (letter : Char) : Bool :=
  let code := letter.toNat
  (9 ≤ code && code ≤ 13) || code = 0x20 || code = 0x85 || code = 0xA0 || code = 0x1680 ||
    (0x2000 ≤ code && code ≤ 0x200A) || code = 0x200E || code = 0x200F ||
    code = 0x2028 || code = 0x2029 || code = 0x202F || code = 0x205F || code = 0x3000

/-- What follows a comment with so many openings that are not closed yet. -/
def afterBlockComment? : Nat → List Char → Option (List Char)
  | depth, '/' :: '*' :: rest => afterBlockComment? (depth + 1) rest
  | 0, _ => none
  | 1, '*' :: '/' :: rest => some rest
  | depth + 1, '*' :: '/' :: rest => afterBlockComment? depth rest
  | depth, _ :: rest => afterBlockComment? depth rest
  | _, [] => none

/-- What follows a comment that is not documentation, if one stands here. -/
def afterComment? : List Char → Option (List Char)
  | '/' :: '/' :: '/' :: '/' :: rest => some (rest.dropWhile (· ≠ '\n'))
  | '/' :: '/' :: '/' :: _ => none
  | '/' :: '/' :: '!' :: _ => none
  | '/' :: '/' :: rest => some (rest.dropWhile (· ≠ '\n'))
  | '/' :: '*' :: '*' :: '/' :: rest => some rest
  | '/' :: '*' :: '*' :: '*' :: rest => afterBlockComment? 1 ('*' :: '*' :: rest)
  | '/' :: '*' :: '*' :: _ => none
  | '/' :: '*' :: '!' :: _ => none
  | '/' :: '*' :: rest => afterBlockComment? 1 rest
  | _ => none

/-- Skips blanks and comments; the fuel bounds how many. -/
def skipFiller : Nat → List Char → List Char
  | 0, letters => letters
  | fuel + 1, letters =>
      match afterComment? letters with
      | some rest => skipFiller fuel rest
      | none =>
          match letters with
          | letter :: rest => if isSpace letter then skipFiller fuel rest else letter :: rest
          | [] => []

/-- The text from its first character that is neither blank nor in a comment. -/
def afterFiller (letters : List Char) : List Char :=
  skipFiller letters.length letters

/-! ## Identifiers -/

/-- The letters of an identifier and what follows them. -/
def takeIdentifier (letters : List Char) : List Char × List Char :=
  match letters with
  | first :: rest =>
      if Text.startsIdentifier first then
        let (more, after) := rest.span Text.continuesIdentifier
        (first :: more, after)
      else ([], letters)
  | [] => ([], [])

/-- Reads an identifier, in its raw form or not, as it is to be written. -/
def readIdentifier? : List Char → Option (String × List Char)
  | 'r' :: '#' :: letters =>
      match takeIdentifier letters with
      | ([], _) => none
      | (name, rest) =>
          if String.ofList name ∈ "_" :: pathKeywords then none
          else some ("r#" ++ String.ofList name, rest)
  | letters =>
      match takeIdentifier letters with
      | ([], _) => none
      | (name, rest) =>
          if String.ofList name ∈ keywords then none
          else some (String.ofList name, rest)

/-- Reads a text that holds one identifier and nothing else but blanks and
comments. -/
def identifierOfText? (text : String) : Option String :=
  match readIdentifier? (afterFiller (Text.afterByteOrderMark text.toList)) with
  | some (name, rest) => if (afterFiller rest).isEmpty then some name else none
  | none => none

end RouteTree.Codegen
