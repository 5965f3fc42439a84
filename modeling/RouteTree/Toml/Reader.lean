import RouteTree.Text.ByteOrderMark
import RouteTree.Toml.Number
import RouteTree.Toml.Table
import RouteTree.Toml.Text

/-!
# Reading TOML

A document is a sequence of lines: headers, which open a table, and pairs of a
key and a value, which go into the table opened last. A value of an array may
span lines, an inline table may not.
-/

namespace RouteTree.Toml

/-! ## Line ends -/

/-- The text after a comment, if one stands here. -/
def skipComment : List Char → List Char
  | '#' :: rest => rest.dropWhile isPlain
  | letters => letters

/-- What follows the end of a line: blanks, perhaps a comment, and a line break
or the end of the text. -/
def afterLine? (letters : List Char) : Option (List Char) :=
  match skipComment (skipSpaces letters) with
  | [] => some []
  | rest => afterLineBreak? rest

/-- Skips blanks, line breaks and comments; the fuel bounds how many. -/
def skipFiller : Nat → List Char → Option (List Char)
  | 0, letters => some letters
  | fuel + 1, letters =>
      match letters with
      | '#' :: _ =>
          (afterLineBreak? (skipComment letters)).bind (skipFiller fuel)
      | letter :: rest =>
          if isSpace letter then skipFiller fuel rest
          else
            match afterLineBreak? letters with
            | some next => skipFiller fuel next
            | none => some letters
      | [] => some []

/-- The text of an array from its next character that is neither blank nor in
a comment. -/
def afterFiller? (letters : List Char) : Option (List Char) :=
  skipFiller letters.length letters

/-! ## Values -/

def isNumberLetter (letter : Char) : Bool :=
  letter.isAlphanum || letter = '+' || letter = '-' || letter = '_' || letter = '.' ||
    letter = ':'

/-- The letters of a number or a moment. A date goes on after a space if
something follows that a time could start with. -/
def takeNumber (letters : List Char) : List Char × List Char :=
  let (first, rest) := letters.span isNumberLetter
  match rest with
  | ' ' :: next =>
      let (second, after) := next.span isNumberLetter
      if isDate first && !second.isEmpty then (first ++ ' ' :: second, after) else (first, rest)
  | _ => (first, rest)

/-- The value of the letters of a number or a moment. A moment is a record of
its own, whose field no other record has. -/
def numberValue? (letters : List Char) : Option Json :=
  if isMoment letters then some (.object [("$moment", .text (String.ofList letters))])
  else if isFloat letters then some (.decimal (String.ofList letters))
  else (integer? letters).map .integer

/-- Reads a value that is a single lexeme. -/
def readScalar? (letters : List Char) : Option (Json × List Char) :=
  match letters with
  | '"' :: _ => (readText? letters).map fun (content, rest) => (.text content, rest)
  | '\'' :: _ => (readText? letters).map fun (content, rest) => (.text content, rest)
  | 't' :: 'r' :: 'u' :: 'e' :: rest => some (.bool true, rest)
  | 'f' :: 'a' :: 'l' :: 's' :: 'e' :: rest => some (.bool false, rest)
  | _ =>
      let (number, rest) := takeNumber letters
      (numberValue? number).map (·, rest)

/-- How many arrays and inline tables can be open at once. -/
def deepestNesting : Nat := 79

mutual

/-- Reads a value inside so many arrays and inline tables that may still be
opened; the fuel bounds the calls that are open at once. -/
def readValue (depth : Nat) : Nat → List Char → Option (Json × List Char)
  | 0, _ => none
  | fuel + 1, letters =>
      match letters with
      | '[' :: rest =>
          if depth = 0 then none
          else (readItems (depth - 1) fuel rest).map fun (items, after) => (.array items, after)
      | '\x7b' :: rest =>
          if depth = 0 then none
          else
            match skipSpaces rest with
            | '\x7d' :: after => some (.object [], after)
            | inner =>
                (readPairs (depth - 1) fuel (Table.empty .opened) inner).map
                  fun (table, after) => (table.toJson, after)
      | _ => readScalar? letters

/-- Reads the items of an array up to its closing bracket. A comma may follow
the last one. -/
def readItems (depth : Nat) : Nat → List Char → Option (List Json × List Char)
  | 0, _ => none
  | fuel + 1, letters =>
      (afterFiller? letters).bind fun start =>
        match start with
        | ']' :: after => some ([], after)
        | _ =>
            (readValue depth fuel start).bind fun (item, rest) =>
              (afterFiller? rest).bind fun next =>
                match next with
                | ']' :: after => some ([item], after)
                | ',' :: more =>
                    (readItems depth fuel more).map fun (items, after) =>
                      (item :: items, after)
                | _ => none

/-- Reads the pairs of an inline table up to its closing brace. -/
def readPairs (depth : Nat) : Nat → Table → List Char → Option (Table × List Char)
  | 0, _, _ => none
  | fuel + 1, table, letters =>
      (readKey? letters).bind fun (path, afterKey) =>
        match afterKey with
        | '=' :: beforeValue =>
            (readValue depth fuel (skipSpaces beforeValue)).bind fun (value, rest) =>
              (table.addPair path value).bind fun grown =>
                match skipSpaces rest with
                | '\x7d' :: after => some (grown, after)
                | ',' :: more => readPairs depth fuel grown more
                | _ => none
        | _ => none

end

/-! ## Documents -/

/-- The tables of a document so far, and the path to the one opened last. -/
structure Document where
  root : Table
  current : List String
deriving Repr

/-- Reads a header after its opening bracket. -/
def readHeader? (document : Document) (letters : List Char) :
    Option (Document × List Char) :=
  match letters with
  | '[' :: inner =>
      (readKey? inner).bind fun (path, rest) =>
        match rest with
        | ']' :: ']' :: after =>
            (document.root.openElement path).bind fun root =>
              (afterLine? after).map (⟨root, path⟩, ·)
        | _ => none
  | inner =>
      (readKey? inner).bind fun (path, rest) =>
        match rest with
        | ']' :: after =>
            (document.root.openTable path).bind fun root =>
              (afterLine? after).map (⟨root, path⟩, ·)
        | _ => none

/-- Reads a line with a key and a value. -/
def readPair? (document : Document) (letters : List Char) :
    Option (Document × List Char) :=
  (readKey? letters).bind fun (path, rest) =>
    match rest with
    | '=' :: beforeValue =>
        let start := skipSpaces beforeValue
        (readValue deepestNesting (2 * start.length + 2) start).bind fun (value, after) =>
          (document.root.updateAt false (·.addPair path value) document.current).bind fun root =>
            (afterLine? after).map (⟨root, document.current⟩, ·)
    | _ => none

/-- Reads the lines of a document; the fuel bounds their number. -/
def readLines : Nat → Document → List Char → Option Document
  | 0, document, letters => if letters.isEmpty then some document else none
  | fuel + 1, document, letters =>
      match skipSpaces letters with
      | [] => some document
      | '#' :: rest =>
          (afterLine? ('#' :: rest)).bind (readLines fuel document)
      | '[' :: rest =>
          (readHeader? document rest).bind fun (next, after) => readLines fuel next after
      | start =>
          match afterLineBreak? start with
          | some after => readLines fuel document after
          | none => (readPair? document start).bind fun (next, after) => readLines fuel next after

/-- Reads a document as a record. -/
def ofText? (text : String) : Option Json :=
  let letters := Text.afterByteOrderMark text.toList
  (readLines (letters.length + 1) ⟨Table.empty .opened, []⟩ letters).map fun document =>
    document.root.toJson

end RouteTree.Toml
