import RouteTree.Data.Function
import RouteTree.Entry.BoundRoute
import RouteTree.Text.Outline

/-!
# Outlines of entries and routes

Values that a developer cannot look into are shown by their presence only.
-/

namespace RouteTree

open Text (Outline)

variable {δ γ : Type}

def Tagged.outline {α : Type} (entry : Tagged α) : Outline :=
  .record "Wrapper" [("id", .text entry.id), ("kind", .word entry.kind.title)] false

def Entry.outline {kind : EntryKind} : Entry δ γ kind → Outline
  | .eager entry => .tuple "Eager" [entry.outline]
  | .lazy id _ => .tuple "Lazy" [.text id]

def Redirect.outline (redirect : Redirect) : Outline :=
  .record "Redirect"
    [("location", .text redirect.location), ("status", Outline.number redirect.status.toNat),
      ("headers", .list (redirect.headers.map fun (name, value) =>
        .tuple "" [.text name, .text value]))]
    true

def Response.outline {α : Type} : Response α → Outline
  | .data _ => .word "Data(..)"
  | .redirect answer => .tuple "Redirect" [answer.outline]

/-- The fields that tell which values there are. -/
def presence (props : Props δ γ) : List (String × Outline) :=
  [("loader", Outline.flag (props .loader).isSome),
    ("action", Outline.flag (props .action).isSome),
    ("component", Outline.flag (props .component).isSome),
    ("error_boundary", Outline.flag (props .errorBoundary).isSome)]

def propsOutline (props : Props δ γ) : Outline :=
  .record "ResolvedProps" (presence props) true

def Resolver.outline (resolver : Resolver δ γ) : Outline :=
  .record "LazyResolver"
    [("id", .text resolver.id),
      ("kinds", .list (resolver.kinds.map fun kind => .word kind.title))]
    true

namespace BoundRoute

mutual

def outline : BoundRoute δ γ → Outline
  | ⟨id, path, index, props, resolver, children⟩ =>
      .record "RouteObject"
        ([("id", .text id), ("path", Outline.optional (path.map Outline.text)),
            ("index", Outline.flag index)] ++
          presence props ++
          [("lazy", Outline.optional (resolver.map Resolver.outline)),
            ("children", .list (outlines children))])
        true

def outlines : List (BoundRoute δ γ) → List Outline
  | [] => []
  | first :: rest => outline first :: outlines rest

end

end BoundRoute

end RouteTree
