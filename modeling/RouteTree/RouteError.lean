import RouteTree.Entry.Kind
import RouteTree.Data.Datum

namespace RouteTree

/-- What is wrong with a route pattern. -/
inductive PatternFault where
  /-- A catch-all is followed by another segment. -/
  | misplacedSplat
  /-- A colon is not followed by a name. -/
  | unnamedParam
deriving DecidableEq, Repr

def PatternFault.reason : PatternFault → String
  | .misplacedSplat => "`*` is only valid as the final segment"
  | .unnamedParam => "parameter segments need a name"

/-- What an index route must not have. -/
inductive IndexExcess where
  | path
  | children
deriving DecidableEq, Repr

def IndexExcess.phrase : IndexExcess → String
  | .path => "a path"
  | .children => "children"

/-- Everything that can go wrong while a route table is built or used. -/
inductive RouteError where
  | duplicateId (id : String)
  | indexRoute (id : String) (excess : IndexExcess)
  | invalidPattern (pattern : String) (fault : PatternFault)
  | unknownRoute (id : String)
  | duplicateEntry (kind : EntryKind) (id : String)
  | misplacedEntry (id : String) (expected found : EntryKind)
  | incompleteBundle (id : String) (kind : EntryKind)
  | lazyFailure (id : String) (cause : String)
  | invalidNavigation (source target : String)
  | missingParam (name : String)
  | missingLoaderData (id : String)
  | dataMismatch (id : String) (expected : DatumType)
  | invalidIdentifier (name : String)
  | unrelatedRoute (source target : String)
deriving DecidableEq, Repr

/-- The text shown for an error. -/
def RouteError.message : RouteError → String
  | .duplicateId id => "duplicate route id '" ++ id ++ "'"
  | .indexRoute id excess => "index route '" ++ id ++ "' cannot have " ++ excess.phrase
  | .invalidPattern pattern fault =>
      "invalid path pattern '" ++ pattern ++ "': " ++ fault.reason
  | .unknownRoute id => "unknown route id '" ++ id ++ "'"
  | .duplicateEntry kind id =>
      "multiple " ++ kind.name ++ " entries found for route '" ++ id ++ "'"
  | .misplacedEntry id expected found =>
      "entry for route '" ++ id ++ "' is a " ++ found.name ++ ", not a valid " ++
        expected.name ++ " or lazy " ++ expected.name
  | .incompleteBundle id kind =>
      "lazy module for route '" ++ id ++ "' does not provide a valid " ++ kind.name
  | .lazyFailure id cause =>
      "lazy resolution failed for route '" ++ id ++ "': " ++ cause
  | .invalidNavigation source target =>
      "'" ++ target ++ "' is not a valid path from route '" ++ source ++ "'"
  | .missingParam name => "missing \":" ++ name ++ "\" param"
  | .missingLoaderData id => "no loader data available for route '" ++ id ++ "'"
  | .dataMismatch id expected =>
      "data for route '" ++ id ++ "' is not a " ++ expected.name
  | .invalidIdentifier name => "'" ++ name ++ "' is not a valid Rust identifier"
  | .unrelatedRoute source target =>
      "route '" ++ target ++ "' is not an ancestor or descendant of '" ++ source ++ "'"

end RouteTree
