import RouteTree.Ordered.SortedMap
import RouteTree.Pattern.Parsing

/-!
# Parameter shapes

A shape says which parameters a route has and whether each must be given. A
name that is both required and optional is required.
-/

namespace RouteTree.Params

/-- Whether a parameter must be given. -/
inductive Need where
  | required
  | optional
deriving DecidableEq, Repr

namespace Need

/-- Required needs come first. -/
def rank : Need → Nat
  | .required => 0
  | .optional => 1

instance : Ord Need where
  compare first second := compare first.rank second.rank

instance : Std.TransOrd Need :=
  inferInstanceAs <| Std.TransCmp fun first second : Need => compareOn rank first second

instance : Std.LawfulEqOrd Need where
  compare_self {need} := by cases need <;> rfl
  eq_of_compare {first second} same := by
    revert same
    cases first <;> cases second <;> decide

/-- The need of a name that is mentioned twice. -/
def both : Need → Need → Need
  | .optional, .optional => .optional
  | _, _ => .required

def name : Need → String
  | .required => "required"
  | .optional => "optional"

def ofName? : String → Option Need
  | "required" => some .required
  | "optional" => some .optional
  | _ => none

theorem both_comm (first second : Need) : both first second = both second first := by
  cases first <;> cases second <;> rfl

theorem both_assoc (first second third : Need) :
    both (both first second) third = both first (both second third) := by
  cases first <;> cases second <;> cases third <;> rfl

@[simp]
theorem both_self (need : Need) : both need need = need := by
  cases need <;> rfl

theorem both_eq_required_iff {first second : Need} :
    both first second = .required ↔ first = .required ∨ second = .required := by
  cases first <;> cases second <;> simp [both]

end Need

abbrev Shape := SortedMap String Need

namespace Shape

/-- Mentions a name once more. -/
def mention (shape : Shape) (name : String) (need : Need) : Shape :=
  shape.insertWith Need.both name need

/-- Mentions every entry of a list in order. -/
def mentionAll (shape : Shape) (entries : List (String × Need)) : Shape :=
  entries.foldl (fun shape entry => shape.mention entry.1 entry.2) shape

def ofEntries (entries : List (String × Need)) : Shape :=
  mentionAll ∅ entries

/-- The shape of a place where both shapes hold. -/
def merge (first second : Shape) : Shape :=
  first.mentionAll second.entries

/-- The names that must be given, in order. -/
def requiredNames (shape : Shape) : List String :=
  (shape.entries.filter fun entry => entry.2 = .required).map Prod.fst

/-- Required names read `name: string`, optional ones `name?: string`. -/
def fieldText (entry : String × Need) : String :=
  match entry.2 with
  | .required => entry.1 ++ ": string"
  | .optional => entry.1 ++ "?: string"

/-- The shape as a record type. -/
def text (shape : Shape) : String :=
  if shape.isEmpty then "\x7b\x7d"
  else "\x7b " ++ "; ".intercalate (shape.entries.map fieldText) ++ " \x7d"

end Shape

/-- What a segment mentions: a catch-all and a plain parameter are required. -/
def segmentEntry? : Segment → Option (String × Need)
  | .splat => some ("*", .required)
  | .param name => some (name, .required)
  | .optionalParam name => some (name, .optional)
  | .optionalLiteral _ => none
  | .literal _ => none

/-- The shape of a pattern that has been read. -/
def ofSegments (pattern : Pattern) : Shape :=
  Shape.ofEntries (pattern.filterMap segmentEntry?)

/-- The shape of one pattern. -/
def ofPattern (pattern : String) : Except RouteError Shape :=
  (Pattern.parse pattern).map ofSegments

/-- The names of the parameters of a pattern. -/
def namesOfPattern (pattern : String) : Except RouteError (SortedSet String) :=
  (Pattern.parse pattern).map fun segments =>
    SortedSet.ofList (segments.filterMap Segment.paramName?)

end RouteTree.Params
