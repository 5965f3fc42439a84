import Mathlib.Data.List.DropRight
import RouteTree.Proofs.Matching
import RouteTree.Proofs.Slashes

/-!
# Scopes of ids

A route that names itself opens a scope: the ids of the routes below it, down to the next
one that names itself, go on from its name by their segments. Without such a route, and
in the scope named `/`, they go on from the top of the tree. There a blank segment leaves
the id as it is until the first segment that is not blank, while it adds a slash
everywhere else.
-/

namespace RouteTree

namespace Description

/-- The id that the author gives. An empty one does not count. -/
def ownId? (description : Description) : Option String :=
  description.id.filter (!·.isEmpty)

/-- What the route adds to an id that goes on from above. -/
def segment (description : Description) : String :=
  idSegment (description.path.map Text.trimSlashes) description.index

variable {description : Description} {parentId : Option String} {id : String}

theorem ownId?_ne_empty (named : description.ownId? = some id) : id ≠ "" := by
  have present := (Option.filter_eq_some_iff.mp named).2
  simpa using present

theorem toNode_id (description : Description) (parentId : Option String) :
    (description.toNode parentId).id =
      routeId description.id (description.path.map Text.trimSlashes) description.index parentId := by
  obtain ⟨explicit, path, index, children⟩ := description
  rw [toNode]

theorem toNode_id_of_named (named : description.ownId? = some id) :
    (description.toNode parentId).id = id := by
  obtain ⟨given, present⟩ := Option.filter_eq_some_iff.mp named
  rw [toNode_id, given]
  exact if_neg (by simpa using present)

theorem toNode_id_of_unnamed (unnamed : description.ownId? = none) :
    (description.toNode parentId).id = idLead parentId ++ "/" ++ description.segment := by
  rw [toNode_id, segment]
  cases given : description.id with
  | none => rfl
  | some id =>
      rw [ownId?, given, Option.filter_some_eq_none] at unnamed
      exact if_pos (by simpa using unnamed)

end Description

/-! ## The closed form -/

/-- The name of the nearest route on a chain that names itself. -/
def scope? (chain : List Description) : Option String :=
  (chain.filterMap Description.ownId?).getLast?

/-- The segments of the routes in the scope, those below the route that opens it. -/
def innerSegments (chain : List Description) : List String :=
  (chain.rtakeWhile (·.ownId?.isNone)).map Description.segment

/-- Segments that go on from the top of the tree. -/
def idFromTop (segments : List String) : String :=
  "/" ++ Text.joinWithSlashes (segments.dropWhile (·.isEmpty))

/-- The id of the last route of a chain. -/
def scopedId (chain : List Description) : String :=
  match scope? chain with
  | none => idFromTop (innerSegments chain)
  | some name =>
      if innerSegments chain = [] then name
      else if name = "/" then idFromTop (innerSegments chain)
      else name ++ "/" ++ Text.joinWithSlashes (innerSegments chain)

/-- The longer id goes on from the shorter one at a slash, which is either the whole
shorter id or follows it. -/
def ExtendsAtSlash (shorter longer : String) : Prop :=
  ∃ rest, longer = shorter ++ rest ∧ (shorter = "/" ∨ Text.StartsWith "/" rest)

/-- What the id of a route is: that of its chain of descriptions, and never empty. A route
that does not name itself extends the id of its parent. -/
structure HasScopedId (up : List Description) (description : Description) (above : List Node)
    (node : Node) : Prop where
  id_eq : node.id = scopedId (up ++ [description])
  id_ne_empty : node.id ≠ ""
  extends_parent : description.ownId? = none →
    ∀ parent ∈ above.getLast?, ExtendsAtSlash parent.id node.id

/-! ## One more segment -/

section Concat

variable {up : List Description} {description : Description} {name : String}

theorem idLead_of_ne_slash (other : name ≠ "/") : idLead (some name) = name := if_neg other

theorem ne_slash_of_append (text : String) (present : name ≠ "") : name ++ "/" ++ text ≠ "/" := by
  intro alone
  have letters : name.toList ++ ("/" ++ text).toList = ['/'] := by
    rw [← String.toList_append, ← String.append_assoc, alone]
    rfl
  rcases List.append_eq_singleton_iff.mp letters with ⟨nothing, _⟩ | ⟨_, nothing⟩
  · exact present (String.toList_eq_nil_iff.mp nothing)
  · simp [String.toList_append] at nothing

theorem idFromTop_singleton (segment : String) : idFromTop [segment] = "/" ++ segment := by
  rw [idFromTop, List.dropWhile_cons]
  split
  case isTrue blank => rw [String.isEmpty_iff.mp blank]; rfl
  case isFalse => exact congrArg _ String.intercalate_singleton

theorem idFromTop_concat (segments : List String) (segment : String) :
    idFromTop (segments ++ [segment]) =
      idLead (some (idFromTop segments)) ++ "/" ++ segment := by
  cases kept : segments.dropWhile (·.isEmpty) with
  | nil =>
      -- The id is still the slash at the top.
      have top : idFromTop segments = "/" := by
        rw [idFromTop, kept]
        rfl
      have unchanged : idFromTop (segments ++ [segment]) = idFromTop [segment] := by
        rw [idFromTop, List.dropWhile_append, kept]
        rfl
      rw [top, unchanged, idFromTop_singleton]
      rfl
  | cons first rest =>
      have solid : first ≠ "" := by
        have stopped := List.head?_dropWhile_not (fun segment : String => segment.isEmpty) segments
        rw [kept] at stopped
        simpa using stopped
      have other : idFromTop segments ≠ "/" := by
        rw [idFromTop, kept]
        intro alone
        have empty := (String.append_right_inj "/").mp (alone.trans (String.append_empty).symm)
        exact Text.joinWithSlashes_cons_ne_empty solid rest empty
      rw [idLead_of_ne_slash other, idFromTop, idFromTop, List.dropWhile_append, kept,
        List.isEmpty_cons, if_neg Bool.false_ne_true,
        Text.joinWithSlashes_concat (List.cons_ne_nil _ _)]
      simp only [String.append_assoc]

theorem scope?_concat_of_unnamed (unnamed : description.ownId? = none) :
    scope? (up ++ [description]) = scope? up := by
  rw [scope?, List.filterMap_append, List.filterMap_cons_none unnamed, List.filterMap_nil,
    List.append_nil]
  rfl

theorem scope?_concat_of_named (named : description.ownId? = some name) :
    scope? (up ++ [description]) = some name := by
  rw [scope?, List.filterMap_append, List.filterMap_cons_some named, List.filterMap_nil,
    List.getLast?_concat]

theorem innerSegments_concat_of_unnamed (unnamed : description.ownId? = none) :
    innerSegments (up ++ [description]) = innerSegments up ++ [description.segment] := by
  have goesOn : description.ownId?.isNone = true := by rw [unnamed]; rfl
  rw [innerSegments, List.rtakeWhile_concat, if_pos goesOn, List.map_append]
  rfl

theorem innerSegments_concat_of_named (named : description.ownId? = some name) :
    innerSegments (up ++ [description]) = [] := by
  have stops : ¬ description.ownId?.isNone = true := by rw [named]; exact Bool.false_ne_true
  rw [innerSegments, List.rtakeWhile_concat, if_neg stops, List.map_nil]

theorem scope?_ne_empty (opened : scope? up = some name) : name ≠ "" := by
  have member := List.mem_of_getLast? opened
  obtain ⟨description, _, named⟩ := List.mem_filterMap.mp member
  exact Description.ownId?_ne_empty named

theorem scopedId_concat_of_named (named : description.ownId? = some name) :
    scopedId (up ++ [description]) = name := by
  rw [scopedId, scope?_concat_of_named named]
  exact if_pos (innerSegments_concat_of_named named)

/-- Below any chain, one more segment goes on from the id of the chain. -/
theorem scopedId_concat_of_unnamed (unnamed : description.ownId? = none) :
    scopedId (up ++ [description]) =
      idLead (some (scopedId up)) ++ "/" ++ description.segment := by
  have present : innerSegments up ++ [description.segment] ≠ [] := by simp
  simp only [scopedId, scope?_concat_of_unnamed unnamed, innerSegments_concat_of_unnamed unnamed]
  cases opened : scope? up with
  | none => exact idFromTop_concat (innerSegments up) description.segment
  | some name =>
      have named := scope?_ne_empty opened
      simp only [if_neg present]
      by_cases top : name = "/"
      · simp only [if_pos top]
        split
        case isTrue first =>
          rw [first, top, List.nil_append, idFromTop_singleton]
          rfl
        case isFalse => exact idFromTop_concat (innerSegments up) description.segment
      · simp only [if_neg top]
        split
        case isTrue first =>
          rw [first, List.nil_append, idLead_of_ne_slash top]
          exact congrArg _ String.intercalate_singleton
        case isFalse later =>
          rw [idLead_of_ne_slash (ne_slash_of_append _ named), Text.joinWithSlashes_concat later]
          simp only [String.append_assoc]

end Concat

/-! ## Trees -/

section Trees

variable {descriptions : List Description} {forest : List Node}

/-- What a child puts before its segment is told from the chain above it. At the top,
the chain without routes reads as the slash. -/
def LeadsFrom (up : List Description) (above : List Node) : Prop :=
  idLead (lastId none above) = idLead (some (scopedId up))

theorem extendsAtSlash_synthesized (parentId segment : String) :
    ExtendsAtSlash parentId (idLead (some parentId) ++ "/" ++ segment) := by
  by_cases top : parentId = "/"
  · rw [top]
    exact ⟨segment, rfl, Or.inl rfl⟩
  · rw [idLead_of_ne_slash top, String.append_assoc]
    exact ⟨"/" ++ segment, rfl, Or.inr ⟨segment, rfl⟩⟩

theorem hasScopedId_step (up : List Description) (above : List Node)
    (description : Description) (leads : LeadsFrom up above) :
    HasScopedId up description above (description.toNode (lastId none above)) ∧
      LeadsFrom (up ++ [description]) (above ++ [description.toNode (lastId none above)]) := by
  have same : (description.toNode (lastId none above)).id = scopedId (up ++ [description]) := by
    cases owned : description.ownId? with
    | some name =>
        rw [Description.toNode_id_of_named owned, scopedId_concat_of_named owned]
    | none =>
        rw [Description.toNode_id_of_unnamed owned, scopedId_concat_of_unnamed owned, leads]
  refine ⟨⟨same, ?_, ?_⟩, ?_⟩
  · cases owned : description.ownId? with
    | some name =>
        rw [Description.toNode_id_of_named owned]
        exact Description.ownId?_ne_empty owned
    | none =>
        rw [Description.toNode_id_of_unnamed owned]
        simp
  · intro unnamed parent last
    obtain ⟨before, rfl⟩ := List.getLast?_eq_some_iff.mp last
    rw [lastId_concat, Description.toNode_id_of_unnamed unnamed]
    exact extendsAtSlash_synthesized parent.id description.segment
  · rw [LeadsFrom, lastId_concat, same]

/-- Every route of a normalized tree has the id that its chain of descriptions has in
closed form. -/
theorem routes_have_scoped_ids (accepted : normalize descriptions = .ok forest) :
    Matched HasScopedId [] descriptions [] forest :=
  Matched.of_normalize hasScopedId_step rfl accepted

end Trees

namespace Sample

def article : Description := Description.ofPath ":page/"

/-- A blank path below another segment. -/
def blank : Description := (Description.ofPath "").withChildren [article]

def manual : Description := (Description.ofPath "manual").withChildren [blank]

/-- A blank path below the top. -/
def lobby : Description := (Description.ofPath "//").withChildren [manual]

/-- A scope of its own, with a layout in it. -/
def shell : Description :=
  ((Description.ofPath "app").withId "shell").withChildren
    [Description.layout.withChildren [Description.indexRoute]]

def site : Description := (Description.ofPath "/").withChildren [lobby, shell]

def siteNode : Node :=
  ⟨"/", some "", false,
    [⟨"/", some "", false,
      [⟨"/manual", some "manual", false,
        [⟨"/manual/", some "", false, [⟨"/manual//:page", some ":page", false, []⟩]⟩]⟩]⟩,
    ⟨"shell", some "app", false,
      [⟨"shell/_", none, false, [⟨"shell/_/_index", none, true, []⟩]⟩]⟩]⟩

end Sample

/-- The blank path at the top adds nothing to the ids below it, the one below the
manual adds a slash, and the ids in the shell go on from its name. -/
theorem site_ids_scoped :
    normalize [Sample.site] = .ok [Sample.siteNode] ∧
      Matched HasScopedId [] [Sample.site] [] [Sample.siteNode] ∧
      scopedId [Sample.site, Sample.lobby, Sample.manual, Sample.blank, Sample.article] =
        "/manual//:page" ∧
      scopedId [Sample.site, Sample.shell, Description.layout.withChildren
        [Description.indexRoute], Description.indexRoute] = "shell/_/_index" := by
  have accepted : normalize [Sample.site] = .ok [Sample.siteNode] := by rfl
  refine ⟨accepted, routes_have_scoped_ids accepted, ?_, ?_⟩
  · rfl
  · rfl

end RouteTree
