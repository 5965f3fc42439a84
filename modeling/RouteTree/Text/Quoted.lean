import RouteTree.Text.GraphemeExtend
import RouteTree.Text.Printable

/-!
# Quoted text

Text in double quotes, in which every character that would not show is
replaced by an escape.
-/

namespace RouteTree.Text

/-- The hexadecimal code of a character in braces. -/
def codeEscape (letter : Char) : List Char :=
  '\\' :: 'u' :: '\x7b' :: Nat.toDigits 16 letter.toNat ++ ['\x7d']

/-- A character inside double quotes. -/
def escapeLetter (letter : Char) : List Char :=
  if letter = '\x00' then ['\\', '0']
  else if letter = '\t' then ['\\', 't']
  else if letter = '\r' then ['\\', 'r']
  else if letter = '\n' then ['\\', 'n']
  else if letter = '\\' then ['\\', '\\']
  else if letter = '"' then ['\\', '"']
  else if extendsGrapheme letter then codeEscape letter
  else if isPrintable letter then [letter]
  else codeEscape letter

/-- A text in double quotes. -/
def quoted (text : String) : String :=
  String.ofList ('"' :: text.toList.flatMap escapeLetter ++ ['"'])

end RouteTree.Text
