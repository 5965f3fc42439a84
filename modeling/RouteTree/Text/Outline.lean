import RouteTree.Text.Quoted

/-!
# Outlines

An outline shows the parts of a value to a developer on one line: texts in
quotes, lists in square brackets, and records with the names of their fields.
-/

namespace RouteTree.Text

/-- What is shown of a value. -/
inductive Outline where
  /-- A number, a name or a flag. -/
  | word (text : String)
  | text (value : String)
  /-- Items in parentheses after a name, which is empty for a plain tuple. -/
  | tuple (name : String) (items : List Outline)
  | list (items : List Outline)
  /-- Fields after a name; `isWhole` says whether these are all of them. -/
  | record (name : String) (fields : List (String × Outline)) (isWhole : Bool)
deriving Repr

namespace Outline

def flag (value : Bool) : Outline :=
  .word (if value then "true" else "false")

def number (value : Nat) : Outline :=
  .word (Nat.repr value)

def optional : Option Outline → Outline
  | none => .word "None"
  | some value => .tuple "Some" [value]

mutual

/-- The outline on one line. -/
def print : Outline → String
  | .word shown => shown
  | .text value => quoted value
  | .tuple name items => name ++ "(" ++ ", ".intercalate (printItems items) ++ ")"
  | .list items => "[" ++ ", ".intercalate (printItems items) ++ "]"
  | .record name fields isWhole =>
      let parts := printFields fields ++ if isWhole then [] else [".."]
      name ++ " \x7b " ++ ", ".intercalate parts ++ " \x7d"

def printItems : List Outline → List String
  | [] => []
  | first :: rest => print first :: printItems rest

def printFields : List (String × Outline) → List String
  | [] => []
  | (name, value) :: rest => (name ++ ": " ++ print value) :: printFields rest

end

end Outline

end RouteTree.Text
