/-!
# Pattern segments

The piece of a route pattern between two slashes. A segment matches literal
text, one parameter, or everything that is left; a trailing `?` marks it as
optional.
-/

namespace RouteTree

inductive Segment where
  /-- The catch-all `*`. -/
  | splat
  /-- A parameter that may be left out, `:name?`. -/
  | optionalParam (name : String)
  /-- A parameter, `:name`. -/
  | param (name : String)
  /-- Text that may be left out, `text?`. -/
  | optionalLiteral (text : String)
  | literal (text : String)
deriving DecidableEq, Repr

namespace Segment

/-- The letters before a final `?`, if there is one. -/
def beforeMark? : List Char → Option (List Char)
  | [] => none
  | ['?'] => some []
  | letter :: rest => (beforeMark? rest).map (letter :: ·)

/-- Reads one segment. The colon decides first, the question mark second, and
only the lone `*` is a catch-all. -/
def ofText (text : String) : Segment :=
  if text = "*" then .splat
  else
    match text.toList with
    | ':' :: name =>
        match beforeMark? name with
        | some shorter => .optionalParam (String.ofList shorter)
        | none => .param (String.ofList name)
    | letters =>
        match beforeMark? letters with
        | some shorter => .optionalLiteral (String.ofList shorter)
        | none => .literal text

/-- The written form. It gives back the text that a segment was read from. -/
def text : Segment → String
  | .splat => "*"
  | .optionalParam name => ":" ++ name ++ "?"
  | .param name => ":" ++ name
  | .optionalLiteral text => text ++ "?"
  | .literal text => text

/-- Whether the segment may be left out of a concrete path. -/
def isOptional : Segment → Bool
  | .optionalParam _ => true
  | .optionalLiteral _ => true
  | _ => false

/-- The segment as a concrete path shows it, without the optional mark. -/
def concrete : Segment → String
  | .splat => "*"
  | .optionalParam name => ":" ++ name
  | .param name => ":" ++ name
  | .optionalLiteral text => text
  | .literal text => text

/-- The parameter that the segment binds; the catch-all binds `*`. -/
def paramName? : Segment → Option String
  | .splat => some "*"
  | .optionalParam name => some name
  | .param name => some name
  | _ => none

theorem beforeMark?_append_mark (letters : List Char) :
    beforeMark? (letters ++ ['?']) = some letters := by
  induction letters with
  | nil => rfl
  | cons letter rest ih =>
      cases rest with
      | nil => simp [beforeMark?]
      | cons next others =>
          rw [List.cons_append, beforeMark?, ih]
          · rfl
          · simp

end Segment

end RouteTree
