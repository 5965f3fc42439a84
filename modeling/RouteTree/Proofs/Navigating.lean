import RouteTree.Navigation.Redirector
import RouteTree.Proofs.Grammar
import RouteTree.Proofs.Links
import RouteTree.Proofs.UrlParts
import RouteTree.View.Basic

/-!
# One rule for all navigation

Links, forms, navigations and redirects of a route find their location by one rule. A
target is refused if the route does not list it, whatever values there are; the empty
target is never refused. A location is built from any other target, which fails only for
want of a value.
-/

namespace RouteTree

/-! ## Failures of building -/

namespace Url

variable {target : String} {filling : Filling}

/-- Building fails only at a plain parameter of the target that has no value. -/
theorem missing_of_build_eq_error {error : RouteError}
    (failed : build target filling = .error error) :
    ∃ name, error = .missingParam name ∧ ":" ++ name ∈ Text.cutAtSlashes target ∧
      ¬ Text.EndsWith "?" name ∧ filling.params.contains name = false := by
  by_cases filled : ∀ piece ∈ solidPieces target, Filled filling.params piece
  · obtain ⟨url, built⟩ := exists_build_eq_ok filled
    rw [built] at failed
    cases failed
  · simp only [Classical.not_forall] at filled
    obtain ⟨piece, member, unfilled⟩ := filled
    obtain ⟨first, firstMember, name, reads, absent, fails⟩ :=
      exists_build_eq_error member unfilled
    rw [fails] at failed
    have written : (Segment.ofText first).text = first := Segment.text_ofText first
    have unambiguous := Segment.unambiguous_ofText first
    rw [reads] at written unambiguous
    refine ⟨name, (Except.error.inj failed).symm, ?_, unambiguous, absent⟩
    rw [← Segment.text, written]
    exact (List.mem_filter.mp firstMember).1

/-- What follows the path does not depend on it, and is nothing if only values are given. -/
theorem build_eq_map_build (target : String) (filling : Filling) :
    build target filling = (build target { params := filling.params }).map fun path =>
      (Parts.ofFilling path filling).toUrl := by
  cases filled : fillPath target filling.params with
  | error failure =>
      rw [build, build, filled]
      rfl
  | ok path =>
      have bare : build target { params := filling.params } = .ok path := by
        simp [build, filled, Except.map]
      rw [build_eq_toUrl filled, bare]
      rfl

end Url

/-! ## The rule -/

/-- Where the relative targets of a route start: an index route shows in the place of its
parent, if it has one. -/
def Record.place (record : Record) : String :=
  if record.index then record.parentId.getD record.id else record.id

theorem Records.anchor_eq_place (record : Record) : Records.anchor record = record.place := by
  rw [Records.anchor, Record.place]
  cases record.index <;> cases record.parentId <;> rfl

/-- The outcome for a target of a route, which may or may not be listed. -/
structure FollowsRule (id target : String) (listed : Prop) (filling : Url.Filling)
    (outcome : Except RouteError String) : Prop where
  refused_iff : (∃ source other, outcome = .error (.invalidNavigation source other)) ↔
    target ≠ "" ∧ ¬ listed
  refused : target ≠ "" ∧ ¬ listed → outcome = .error (.invalidNavigation id target)
  built : target = "" ∨ listed → outcome = Url.build target filling
  missing : target = "" ∨ listed → ∀ error, outcome = .error error →
    ∃ name, error = .missingParam name ∧ ":" ++ name ∈ Text.cutAtSlashes target ∧
      ¬ Text.EndsWith "?" name ∧ filling.params.contains name = false

/-- Every helper of a view, and the redirector of its route, passes the location on or
fails as it does. Forms and submissions pass on another one. -/
structure PassOn (view : View) (target : String) (filling : Url.Filling)
    (location formLocation : Except RouteError String) : Prop where
  href : view.href target filling = location
  redirect : ∀ make init,
    Redirector.redirect ⟨view.routeId, view.table, make⟩ target (some ⟨filling, init⟩) =
      location.map fun url => make url init
  link : ∀ {Props : Type} (props : Props),
    view.link target filling props = location.map fun url => .link url props
  navLink : ∀ {Props : Type} (props : Props),
    view.navLink target filling props = location.map fun url => .navLink url props
  navigateElement : ∀ {Props : Type} (options : NavigateOptions),
    view.navigateElement target filling options =
      location.map fun url => (.navigateElement url options : Instruction Props)
  navigate : ∀ {Props : Type} (options : NavigateOptions),
    view.navigate target filling options =
      location.map fun url => (.navigate url options : Instruction Props)
  form : ∀ {Props : Type} (props : Props),
    view.form target filling props = formLocation.map fun url => .form url props
  submit : ∀ {Props : Type} (data : Json) (options : SubmitOptions),
    view.submit data target filling options =
      formLocation.map fun url => (.submit data url options : Instruction Props)

namespace Table

variable {table : Table} {id target : String} {targets : SortedSet String}
  {filling : Url.Filling}

theorem href_of_unlisted (found : table.targets id = .ok targets) (present : target ≠ "")
    (absent : target ∉ targets) (filling : Url.Filling) :
    table.href id target filling = .error (.invalidNavigation id target) := by
  have refused : table.checkTarget id target = .error (.invalidNavigation id target) := by
    rw [checkTarget, if_neg (by simpa using present), reaches, found]
    simp [Except.map, Except.bind, absent]
  rw [href, refused]
  rfl

theorem href_followsRule (found : table.targets id = .ok targets) (target : String)
    (filling : Url.Filling) :
    FollowsRule id target (target ∈ targets) filling (table.href id target filling) := by
  have built : target = "" ∨ target ∈ targets →
      table.href id target filling = Url.build target filling := by
    intro allowed
    cases allowed with
    | inl empty =>
        rw [empty]
        rfl
    | inr member => exact href_eq_build found member filling
  have refused : target ≠ "" ∧ target ∉ targets →
      table.href id target filling = .error (.invalidNavigation id target) :=
    fun unlisted => href_of_unlisted found unlisted.1 unlisted.2 filling
  have missing : target = "" ∨ target ∈ targets → ∀ error,
      table.href id target filling = .error error →
        ∃ name, error = .missingParam name ∧ ":" ++ name ∈ Text.cutAtSlashes target ∧
          ¬ Text.EndsWith "?" name ∧ filling.params.contains name = false := by
    intro allowed error failed
    rw [built allowed] at failed
    exact Url.missing_of_build_eq_error failed
  refine ⟨?_, refused, built, missing⟩
  constructor
  · intro ⟨source, other, failed⟩
    rw [← not_or]
    intro allowed
    obtain ⟨name, isMissing, _⟩ := missing allowed _ failed
    cases isMissing
  · intro unlisted
    exact ⟨id, target, refused unlisted⟩

/-- What a form passes on is the location without its query and its fragment. -/
theorem href_eq_map_href (found : table.targets id = .ok targets) (target : String)
    (filling : Url.Filling) :
    table.href id target filling =
      (table.href id target { params := filling.params }).map fun path =>
        (Url.Parts.ofFilling path filling).toUrl := by
  have whole := href_followsRule found target filling
  have bare := href_followsRule found target { params := filling.params }
  by_cases allowed : target = "" ∨ target ∈ targets
  · rw [whole.built allowed, bare.built allowed]
    exact Url.build_eq_map_build target filling
  · rw [not_or] at allowed
    rw [whole.refused allowed, bare.refused allowed]
    rfl

theorem passOn_href (table : Table) (id : String) (page : Page) (target : String)
    (filling : Url.Filling) :
    PassOn ⟨id, table, page⟩ target filling (table.href id target filling)
      (table.href id target { params := filling.params }) where
  href := rfl
  redirect _ _ := rfl
  link _ := rfl
  navLink _ := rfl
  navigateElement _ := rfl
  navigate _ := rfl
  form _ := rfl
  submit _ _ := rfl

end Table

/-- All helpers of a route find the location for a target by one rule. The target is
refused exactly if it is not empty and neither absolute nor relative to the place of the
route. Forms and submissions go to the same location without its query and its fragment. -/
theorem navigation_follows_rule (table : Table) {id : String} (known : id ∈ table.ids) :
    ∃ record absolute climbing below,
      table.route id = .ok record ∧ table.absoluteTargets = .ok absolute ∧
      table.ancestorTargets record.place = .ok climbing ∧
      table.descendantTargets record.place = .ok below ∧
      ∀ target filling, ∃ location formLocation,
        FollowsRule id target (target ∈ absolute ∨ target ∈ climbing ∨ target ∈ below) filling
          location ∧
        FollowsRule id target (target ∈ absolute ∨ target ∈ climbing ∨ target ∈ below)
          { params := filling.params } formLocation ∧
        (location = formLocation.map fun path => (Url.Parts.ofFilling path filling).toUrl) ∧
        ∀ page, PassOn ⟨id, table, page⟩ target filling location formLocation := by
  have flattened := table.flatten_forest
  obtain ⟨above, node, inside, rfl⟩ := (mem_ids_iff flattened).mp known
  obtain ⟨absolute, climbing, below, absoluteFound, climbingFound, belowFound, found⟩ :=
    targets_of_descends flattened inside
  rw [Records.anchor_eq_place] at climbingFound belowFound
  refine ⟨node.record (lastId none above), absolute, climbing, below,
    get_of_descends flattened inside, absoluteFound, climbingFound, belowFound, ?_⟩
  intro target filling
  have listed : target ∈ absolute ∪ climbing ∪ below ↔
      target ∈ absolute ∨ target ∈ climbing ∨ target ∈ below := by
    rw [SortedSet.mem_union, SortedSet.mem_union, or_assoc]
  rw [← listed]
  exact ⟨_, _, Table.href_followsRule found target filling,
    Table.href_followsRule found target { params := filling.params },
    Table.href_eq_map_href found target filling,
    fun page => Table.passOn_href table node.id page target filling⟩

namespace Sample

/-- Values for the page, with a query and a fragment. -/
def decorated : Url.Filling := { filling with search := [("q", "a b")], hash := some "top" }

/-- The index route lists a target exactly if it is absolute or listed by its parent. -/
def listedByIndex (target : String) : Option Bool :=
  (table.absoluteTargets.bind fun absolute => (table.ancestorTargets "home").bind fun climbing =>
    (table.descendantTargets "home").map fun below =>
      decide (target ∈ absolute ∨ target ∈ climbing ∨ target ∈ below)).toOption

end Sample

/-- The index route of the small tree shows in the place of its parent, from where the
project is one step down. The redirect there has the query and the fragment, the form has
not. A target that is not listed is refused before it is seen that it lacks a value. -/
theorem index_navigates :
    "index" ∈ Sample.table.ids ∧
      Redirector.redirect ⟨"index", Sample.table, Redirect.standard⟩ ":id/tabs"
          (some ⟨Sample.decorated, none⟩) = .ok ⟨"7/tabs?q=a+b#top", 302, []⟩ ∧
      View.form ⟨"index", Sample.table, {}⟩ ":id/tabs" Sample.decorated () =
        .ok (.form "7/tabs" ()) ∧
      View.link ⟨"index", Sample.table, {}⟩ ":id/tabs" {} () = .error (.missingParam "id") ∧
      View.link ⟨"index", Sample.table, {}⟩ "../:id/tabs" {} () =
        .error (.invalidNavigation "index" "../:id/tabs") := by
  have known : "index" ∈ Sample.table.ids := by decide
  obtain ⟨record, absolute, climbing, below, found, absoluteFound, climbingFound, belowFound,
    rule⟩ := navigation_follows_rule Sample.table known
  have isIndex : Sample.index.record (some "home") = record := Except.ok.inj found
  subst isIndex
  have listed : ∀ target, Sample.listedByIndex target =
      some (decide (target ∈ absolute ∨ target ∈ climbing ∨ target ∈ below)) := by
    intro target
    have climbs : Sample.table.ancestorTargets "home" = .ok climbing := climbingFound
    have descends : Sample.table.descendantTargets "home" = .ok below := belowFound
    rw [Sample.listedByIndex, absoluteFound, climbs, descends]
    rfl
  have project : ":id/tabs" ∈ absolute ∨ ":id/tabs" ∈ climbing ∨ ":id/tabs" ∈ below := by
    have computed : Sample.listedByIndex ":id/tabs" = some true := by decide +kernel
    rw [listed] at computed
    exact of_decide_eq_true (Option.some.inj computed)
  have outside : ¬ ("../:id/tabs" ∈ absolute ∨ "../:id/tabs" ∈ climbing ∨
      "../:id/tabs" ∈ below) := by
    have computed : Sample.listedByIndex "../:id/tabs" = some false := by decide +kernel
    rw [listed] at computed
    exact of_decide_eq_false (Option.some.inj computed)
  obtain ⟨location, formLocation, follows, formFollows, _, passes⟩ :=
    rule ":id/tabs" Sample.decorated
  obtain ⟨bare, _, bareFollows, _, _, barePasses⟩ := rule ":id/tabs" {}
  obtain ⟨refusal, _, refusalFollows, _, _, refusalPasses⟩ := rule "../:id/tabs" {}
  refine ⟨known, ?_, ?_, ?_, ?_⟩
  · rw [(passes {}).redirect, follows.built (Or.inr project)]
    rfl
  · rw [(passes {}).form, formFollows.built (Or.inr project)]
    rfl
  · rw [(barePasses {}).link, bareFollows.built (Or.inr project)]
    rfl
  · rw [(refusalPasses {}).link, refusalFollows.refused ⟨by decide, outside⟩]
    rfl

end RouteTree
