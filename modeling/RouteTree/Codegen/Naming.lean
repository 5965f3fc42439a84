import RouteTree.Text.Slashes

/-!
# Generated names

Route ids become the names of enum variants, parameter names become the names
of record fields. Only ASCII letters and digits survive; a name that is taken
already gets the first free number.
-/

namespace RouteTree.Codegen

/-- Names that stand for places in the module tree and cannot be used
otherwise. -/
def pathKeywords : List String := ["crate", "self", "super", "Self"]

def endsInDigit (letters : List Char) : Bool :=
  letters.getLast?.any Char.isDigit

def startsWithDigit (letters : List Char) : Bool :=
  letters.head?.any Char.isDigit

/-! ## Variants -/

def capitalize : List Char → List Char
  | [] => []
  | first :: rest => first.toUpper :: rest

/-- The words of an id segment. The segments of layouts and index routes and
the catch-all have names of their own. -/
def segmentWords (segment : String) : List (List Char) :=
  if segment = "_" then ["Layout".toList]
  else if segment = "_index" then ["Index".toList]
  else if segment = "*" then ["Splat".toList]
  else
    let words := segment.toList.splitOnP fun letter => !letter.isAlphanum
    (words.filter (!·.isEmpty)).map capitalize

/-- Appends a word; digits that would run together are kept apart. -/
def appendWord (name word : List Char) : List Char :=
  if endsInDigit name && startsWithDigit word then name ++ '_' :: word
  else name ++ word

/-- The name of the variant for a route id. -/
def variantName (id : String) : String :=
  let name := ((Text.cutAtSlashes id).flatMap segmentWords).foldl appendWord []
  if name.isEmpty then "Root"
  else if startsWithDigit name then String.ofList ('R' :: name)
  else if String.ofList name ∈ pathKeywords then String.ofList name ++ "Route"
  else String.ofList name

/-! ## Fields -/

/-- A field name while it is read: the letters so far, and whether a capital
would begin a new word. -/
structure FieldDraft where
  name : List Char := []
  inWord : Bool := false
deriving DecidableEq, Repr

/-- Reads one more letter of a parameter name. -/
def FieldDraft.push (draft : FieldDraft) (letter : Char) : FieldDraft :=
  if letter.isAlphanum then
    let separator := if letter.isUpper && draft.inWord then ['_'] else []
    ⟨draft.name ++ separator ++ [letter.toLower], !letter.isUpper⟩
  else if draft.name.isEmpty || draft.name.getLast? = some '_' then ⟨draft.name, false⟩
  else ⟨draft.name ++ ['_'], false⟩

def dropTrailingUnderscores (letters : List Char) : List Char :=
  (letters.reverse.dropWhile (· = '_')).reverse

/-- The name of the field for a parameter. -/
def fieldName (param : String) : String :=
  if param = "*" then "splat"
  else
    let draft := param.toList.foldl FieldDraft.push {}
    let name := dropTrailingUnderscores draft.name
    if name.isEmpty then "param"
    else if startsWithDigit name then String.ofList ('p' :: name)
    else if String.ofList name ∈ pathKeywords then String.ofList name ++ "_"
    else String.ofList name

/-! ## Free names -/

/-- The first of the numbered names that is free; the fuel bounds the number
of names tried before the last. -/
def firstFree (taken : List String) (stem : String) : Nat → Nat → String
  | 0, number => stem ++ toString number
  | fuel + 1, number =>
      let candidate := stem ++ toString number
      if candidate ∈ taken then firstFree taken stem fuel (number + 1) else candidate

/-- The name itself if it is free, else the name with the first number from
two on that makes it free. One of as many numbers as there are taken names,
and one more, is always free. -/
def freeName (taken : List String) (name : String) : String :=
  if name ∈ taken then
    let stem := if endsInDigit name.toList then name ++ "_" else name
    firstFree taken stem taken.length 2
  else name

/-- A free name for each request in order, none of them taken twice. -/
def freeNames (taken : List String) : List String → List String
  | [] => []
  | request :: rest =>
      let name := freeName taken request
      name :: freeNames (name :: taken) rest

end RouteTree.Codegen
