import RouteTree.Entry.Registry

/-!
# Routes with their entries

The router gets the route tree with the entries bound to it: eager values are
in place, and a route with lazy entries carries a resolver for them.
-/

namespace RouteTree

variable {δ γ : Type}

/-- A route as the router gets it. -/
structure BoundRoute (δ γ : Type) where
  id : String
  path : Option String
  index : Bool
  props : Props δ γ
  resolver : Option (Resolver δ γ)
  children : List (BoundRoute δ γ)

namespace Registry

/-- The values that a route has from the start. -/
def propsOf (registry : Registry δ γ) (id : String) : Props δ γ := fun kind =>
  ((registry kind).get? id).bind Entry.value?

/-- The loads that a route has to wait for. -/
def loadOf? (registry : Registry δ γ) (id : String) (kind : EntryKind) :
    Option (Load δ γ) :=
  ((registry kind).get? id).bind Entry.load?

/-- The resolver of a route, if some entry of it is lazy. -/
def resolverOf? (registry : Registry δ γ) (id : String) : Option (Resolver δ γ) :=
  if EntryKind.visited.any fun kind => (registry.loadOf? id kind).isSome then
    some { id, load? := registry.loadOf? id }
  else none

mutual

/-- Binds the entries to one route and those below it. -/
def bindRoute (registry : Registry δ γ) : Node → BoundRoute δ γ
  | ⟨id, path, index, children⟩ =>
      ⟨id, path, index, registry.propsOf id, registry.resolverOf? id,
        registry.bindRoutes children⟩

def bindRoutes (registry : Registry δ γ) : List Node → List (BoundRoute δ γ)
  | [] => []
  | first :: rest => registry.bindRoute first :: registry.bindRoutes rest

end

end Registry

namespace BoundRoute

mutual

/-- The first route with the given id at or below a route. -/
def find? (wanted : String) : BoundRoute δ γ → Option (BoundRoute δ γ)
  | ⟨id, path, index, props, resolver, children⟩ =>
      if id = wanted then some ⟨id, path, index, props, resolver, children⟩
      else findAmong? wanted children

def findAmong? (wanted : String) : List (BoundRoute δ γ) → Option (BoundRoute δ γ)
  | [] => none
  | first :: rest =>
      match find? wanted first with
      | some found => some found
      | none => findAmong? wanted rest

end

end BoundRoute

end RouteTree
