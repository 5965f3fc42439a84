import RouteTree.Text.Quoted

/-!
# Source as tokens

Generated source is a sequence of tokens: words, by which we mean names,
literals and operators, and groups in brackets. Tokens are printed with one
space between them; parentheses and square brackets hug what they hold, braces
do not.
-/

namespace RouteTree.Codegen

inductive Delimiter where
  | parenthesis
  | bracket
  | brace
deriving DecidableEq, Repr

inductive Token where
  | word (text : String)
  | group (delimiter : Delimiter) (tokens : List Token)
deriving Repr

namespace Token

/-- A group around text that is printed already. -/
def enclose (delimiter : Delimiter) (inner : String) : String :=
  match delimiter with
  | .parenthesis => "(" ++ inner ++ ")"
  | .bracket => "[" ++ inner ++ "]"
  | .brace => if inner.isEmpty then "\x7b \x7d" else "\x7b " ++ inner ++ " \x7d"

mutual

def text : Token → String
  | .word text => text
  | .group delimiter tokens => enclose delimiter (" ".intercalate (texts tokens))

def texts : List Token → List String
  | [] => []
  | first :: rest => first.text :: texts rest

end

/-- The tokens with one space between them. -/
def print (tokens : List Token) : String :=
  " ".intercalate (texts tokens)

/-! ## Building tokens -/

/-- The words of a text with one space between them. -/
def words (line : String) : List Token :=
  (line.toList.splitOn ' ').map fun letters => .word (String.ofList letters)

def parens (tokens : List Token) : Token := .group .parenthesis tokens

def brackets (tokens : List Token) : Token := .group .bracket tokens

def braces (tokens : List Token) : Token := .group .brace tokens

/-- Sequences of tokens with a comma between any two. -/
def separated : List (List Token) → List Token
  | [] => []
  | [only] => only
  | first :: rest => first ++ .word "," :: separated rest

/-- An attribute on what follows. -/
def attributed (content : List Token) : List Token :=
  [.word "#", brackets content]

/-- The characters of a literal. A null character before an octal digit is
written in full, so that the digit is not read as part of it; a single quote
needs no escape. -/
def literalLetters : List Char → List Char
  | [] => []
  | letter :: rest =>
      if letter = '\x00' && rest.head?.any (fun next => '0' ≤ next && next ≤ '7') then
        ['\\', 'x', '0', '0'] ++ literalLetters rest
      else Text.escapeLetter letter ++ literalLetters rest

/-- A string literal. -/
def literal (content : String) : Token :=
  .word (String.ofList ('"' :: literalLetters content.toList ++ ['"']))

/-- A documentation comment whose text is computed. -/
def documentation (content : String) : List Token :=
  attributed (words "doc =" ++ [literal content])

/-- A documentation comment with a fixed text that needs no escape. -/
def fixedDocumentation (content : String) : List Token :=
  attributed (words "doc =" ++ [.word ("r\" " ++ content ++ "\"")])

end Token

end RouteTree.Codegen
