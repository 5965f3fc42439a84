import Mathlib.Data.String.Basic
import RouteTree.Data.Function
import RouteTree.Proofs.Answers
import RouteTree.Proofs.Declarations

/-!
# Gates of loaders and actions

A loader or an action comes between the router and a body. A call without a
value for a demanded name is turned away at the least such name, before the body
is looked at. Any other call reaches the body, with the values of the declared
names and no others, and what the body says is passed on. The gate is the same
for all bodies: it depends on nothing but the table, the route and the call.
-/

namespace RouteTree

open Params

/-! ## Checking values -/

namespace Params

/-- The least of the wanted names that have no value. -/
structure LeastMissing (wanted : String → Prop) (raw : RawValues) (name : String) : Prop where
  isWanted : wanted name
  absent : raw.contains name = false
  least : ∀ other, wanted other → raw.contains other = false → name ≤ other

/-- Raw values of the declared names, of which the demanded ones can be counted on. -/
structure Values.Follow (values : Values) (raw : RawValues) (demanded declared : String → Prop) :
    Prop where
  entries : ∀ name value, (name, value) ∈ values.map.entries ↔
    (name, value) ∈ raw.entries ∧ declared name
  counted : ∀ name, demanded name →
    ∃ value, raw.get? name = some value ∧ values.require name = .ok value
  refused : ∀ name, ¬ demanded name → values.require name = .error (.missingParam name)

variable {shape : Shape} {raw : RawValues} {name : String} {values : Values}

theorem LeastMissing.unique {wanted : String → Prop} {other : String}
    (least : LeastMissing wanted raw name) (leastToo : LeastMissing wanted raw other) :
    name = other :=
  le_antisymm (least.least other leastToo.isWanted leastToo.absent)
    (leastToo.least name least.isWanted least.absent)

namespace Shape

theorem mem_requiredNames_iff : name ∈ shape.requiredNames ↔ shape.Requires name := by
  rw [← mem_entries_iff_requires, requiredNames, List.mem_map]
  constructor
  · intro ⟨entry, member, same⟩
    obtain ⟨inShape, required⟩ := List.mem_filter.mp member
    rw [← same, ← of_decide_eq_true required]
    exact inShape
  · intro member
    exact ⟨(name, .required), List.mem_filter.mpr ⟨member, rfl⟩, rfl⟩

theorem pairwise_requiredNames (shape : Shape) : shape.requiredNames.Pairwise (· < ·) := by
  have sublist : shape.requiredNames.Sublist (shape.entries.map Prod.fst) :=
    List.filter_sublist.map Prod.fst
  exact (shape.increasing.sublist sublist).imp compare_lt_iff_lt.mp

end Shape

namespace Values

theorem firstMissing?_eq_none_iff :
    firstMissing? shape raw = none ↔ ∀ name, shape.Requires name → raw.contains name := by
  simp [firstMissing?, Shape.mem_requiredNames_iff]

theorem leastMissing_of_firstMissing? (found : firstMissing? shape raw = some name) :
    LeastMissing shape.Requires raw name := by
  obtain ⟨absent, before, after, split, given⟩ := List.find?_eq_some_iff_append.mp found
  have increasing := shape.pairwise_requiredNames
  have members : ∀ other, other ∈ shape.requiredNames ↔ shape.Requires other :=
    fun _ => Shape.mem_requiredNames_iff
  rw [split] at increasing members
  have later := (List.pairwise_cons.mp (List.pairwise_append.mp increasing).2.1).1
  refine ⟨(members name).mp (by simp), by simpa using absent, ?_⟩
  intro other required otherAbsent
  rcases List.mem_append.mp ((members other).mpr required) with inBefore | notBefore
  · have hasValue := given other inBefore
    simp [otherAbsent] at hasValue
  · rcases List.mem_cons.mp notBefore with same | inAfter
    · exact same.ge
    · exact (later other inAfter).le

theorem firstMissing?_eq_some_iff :
    firstMissing? shape raw = some name ↔ LeastMissing shape.Requires raw name := by
  refine ⟨leastMissing_of_firstMissing?, ?_⟩
  intro least
  cases found : firstMissing? shape raw with
  | none =>
      have given := firstMissing?_eq_none_iff.mp found name least.isWanted
      rw [least.absent] at given
      cases given
  | some other => rw [(leastMissing_of_firstMissing? found).unique least]

theorem ofRaw_eq_error_iff {error : RouteError} :
    ofRaw shape raw = .error error ↔
      ∃ name, LeastMissing shape.Requires raw name ∧ error = .missingParam name := by
  simp only [← firstMissing?_eq_some_iff]
  rw [ofRaw]
  cases firstMissing? shape raw <;> simp [eq_comm]

theorem ofRaw_eq_ok_iff :
    ofRaw shape raw = .ok values ↔
      (∀ name, shape.Requires name → raw.contains name) ∧
        values = ⟨shape, raw.filterKeys shape.contains⟩ := by
  rw [← firstMissing?_eq_none_iff, ofRaw]
  cases firstMissing? shape raw <;> simp [eq_comm]

theorem require_of_not_requires (optional : ¬ values.shape.Requires name) :
    values.require name = .error (.missingParam name) := by
  rw [require]
  split
  case h_1 required _ => exact absurd required optional
  case h_2 => rfl

theorem follow_of_ofRaw (admitted : ofRaw shape raw = .ok values) :
    values.Follow raw shape.Requires shape.Mentions := by
  obtain ⟨given, rfl⟩ := ofRaw_eq_ok_iff.mp admitted
  constructor
  case entries =>
    intro name value
    exact List.mem_filter
  case counted =>
    intro name required
    obtain ⟨value, found⟩ := Option.isSome_iff_exists.mp (given name required)
    have inRaw : (name, value) ∈ raw.entries :=
      (findEntry_eq_some_iff raw.increasing.nodup).mp found
    have kept : (raw.filterKeys shape.contains).get? name = some value :=
      (findEntry_eq_some_iff (raw.filterKeys shape.contains).increasing.nodup).mpr
        (List.mem_filter.mpr ⟨inRaw, required.mentions⟩)
    refine ⟨value, found, ?_⟩
    rw [Shape.Requires] at required
    simp only [require, get?, required, kept]
  case refused => exact fun name optional => require_of_not_requires optional

end Values

end Params

/-! ## Letting calls pass -/

/-- What the body is given for a call that is not turned away. -/
def Call.pass (call : Call) (shape : Shape) (redirector : Redirector) :
    Except RouteError Arguments :=
  (Values.ofRaw shape call.params).map fun params => ⟨call.request, params, redirector⟩

/-- What a body says for its arguments is the answer to the call. -/
structure PassesOn {α : Type} (body : Body α) (arguments : Arguments)
    (answer : Except Failure (Response α)) : Prop where
  data : ∀ value, body arguments = .ok value → answer = .ok (.data value)
  redirect : ∀ redirect, body arguments = .error (.redirect redirect) →
    answer = .ok (.redirect redirect)
  failure : ∀ failure, body arguments = .error (.failure failure) → answer = .error failure

section Calls

variable {call : Call} {shape : Shape} {redirector : Redirector} {arguments : Arguments}
  {error : RouteError} {α : Type}

theorem Call.pass_eq_error_iff :
    call.pass shape redirector = .error error ↔
      ∃ name, LeastMissing shape.Requires call.params name ∧ error = .missingParam name := by
  rw [pass, map_eq_error_iff, Values.ofRaw_eq_error_iff]

theorem Call.pass_answered_iff :
    Answered (call.pass shape redirector) ↔
      ∀ name, shape.Requires name → call.params.contains name := by
  simp [Answered, pass, map_eq_ok_iff, Values.ofRaw_eq_ok_iff]

theorem Call.follow_of_pass (admitted : call.pass shape redirector = .ok arguments) :
    arguments.request = call.request ∧ arguments.redirector = redirector ∧
      arguments.params.Follow call.params shape.Requires shape.Mentions := by
  obtain ⟨values, checked, rfl⟩ := map_eq_ok_iff.mp admitted
  exact ⟨rfl, rfl, Values.follow_of_ofRaw checked⟩

theorem toFunction_of_turned_away (body : Body α)
    (turnedAway : call.pass shape redirector = .error error) :
    body.toFunction shape redirector call = .error (.route error) := by
  have refused := map_eq_error_iff.mp turnedAway
  rw [Body.toFunction, refused]

theorem toFunction_of_admitted (body : Body α)
    (admitted : call.pass shape redirector = .ok arguments) :
    PassesOn body arguments (body.toFunction shape redirector call) := by
  obtain ⟨values, checked, rfl⟩ := map_eq_ok_iff.mp admitted
  have called : body.toFunction shape redirector call =
      Response.ofOutcome (body ⟨call.request, values, redirector⟩) := by
    rw [Body.toFunction, checked]
  rw [called]
  constructor <;> intro said outcome <;> rw [outcome] <;> rfl

end Calls

/-! ## Routes -/

namespace Table

/-- Some route from the top to this one cannot go without the name. -/
def Demands (table : Table) (id name : String) : Prop :=
  ∃ route, OnChainTo table.forest id route ∧ route.Demands name

/-- Some route from the top to this one, or below it, has the name in its pattern. -/
def Declares (table : Table) (id name : String) : Prop :=
  ∃ route, (OnChainTo table.forest id route ∨ IsBelow table.forest id route) ∧
    route.Declares name

variable {table : Table} {id : String}

theorem merged_params_eq (known : id ∈ table.ids) :
    ∃ alternatives, table.params id = .ok alternatives ∧
      alternatives.merged.Requires = table.Demands id ∧
      alternatives.merged.Mentions = table.Declares id := by
  have flattened := table.flatten_forest
  obtain ⟨above, node, inside, rfl⟩ := (mem_ids_iff flattened).mp known
  obtain ⟨alternatives, found, members⟩ := params_of_descends flattened inside
  refine ⟨alternatives, found, ?_, ?_⟩
  · funext name
    simp only [requires_merged_iff_shapeAlong members, requires_shapeAlong,
      Node.requires_shape_iff_demands, Demands, onChainTo_iff_mem flattened inside]
  · funext name
    simp only [Alternatives.mentions_merged, members, Declares,
      onChainTo_or_isBelow_iff flattened inside, ← Node.mentions_shape_iff_declares]
    apply propext
    constructor
    · intro ⟨shape, ⟨below, belowInside, same⟩, mentioned⟩
      rw [same] at mentioned
      obtain ⟨route, member, routeMentions⟩ := mentions_shapeAlong.mp mentioned
      exact ⟨route, ⟨below, belowInside, member⟩, routeMentions⟩
    · intro ⟨route, ⟨below, belowInside, member⟩, routeMentions⟩
      exact ⟨_, ⟨below, belowInside, rfl⟩, mentions_shapeAlong.mpr ⟨route, member, routeMentions⟩⟩

end Table

/-- A loader and an action of one body answer alike. Some gate, which is the same for
all bodies, turns away the calls in which a name that the chain to the route
demands has no value, at the least such name. It gives all other calls to the
body, with just the values of the names that the routes on the chain or below
declare; of these, the demanded ones can be counted on and no others. What the
body then says is passed on: data, a redirect, or a failure. -/
theorem data_functions_gated (table : Table) (make : RedirectMaker) {id : String}
    (known : id ∈ table.ids) :
    ∃ gate : Call → Except RouteError Arguments,
      (∀ call error, gate call = .error error ↔
        ∃ name, LeastMissing (table.Demands id) call.params name ∧ error = .missingParam name) ∧
      (∀ call, Answered (gate call) ↔
        ∀ name, table.Demands id name → call.params.contains name) ∧
      (∀ call arguments, gate call = .ok arguments →
        arguments.request = call.request ∧ arguments.redirector = ⟨id, table, make⟩ ∧
          arguments.params.Follow call.params (table.Demands id) (table.Declares id)) ∧
      ∀ {α : Type} (body : Body α), ∃ function : DataFunction α,
        table.loader make id body = .ok ⟨id, .loader, function⟩ ∧
        table.action make id body = .ok ⟨id, .action, function⟩ ∧
        (∀ call error, gate call = .error error → function call = .error (.route error)) ∧
        ∀ call arguments, gate call = .ok arguments →
          PassesOn body arguments (function call) := by
  obtain ⟨alternatives, found, demanded, declared⟩ := Table.merged_params_eq known
  let redirector : Redirector := ⟨id, table, make⟩
  rw [← demanded, ← declared]
  refine ⟨fun call => call.pass alternatives.merged redirector,
    fun _ _ => Call.pass_eq_error_iff, fun _ => Call.pass_answered_iff,
    fun _ _ => Call.follow_of_pass, ?_⟩
  intro α body
  have made : ∀ kind, table.dataEntry make kind id body =
      .ok ⟨id, kind, body.toFunction alternatives.merged redirector⟩ := by
    intro kind
    rw [Table.dataEntry, found]
    rfl
  exact ⟨_, made .loader, made .action, fun _ _ => toFunction_of_turned_away body,
    fun _ _ => toFunction_of_admitted body⟩

namespace Sample

/-- Answers with the id that it is called for. -/
def showId : Body String := fun arguments =>
  (arguments.params.require "id").mapError fun error => .failure (.route error)

theorem demands_page_iff {name : String} : table.Demands "page" name ↔ name = "id" ∨ name = "*" := by
  have inside : Descends table.forest ([home, frame, project] ++ [page]) := descends_page
  have onChain : ∀ route, OnChainTo table.forest "page" route ↔
      route ∈ [home, frame, project, page] :=
    fun _ => onChainTo_iff_mem flatten_home inside
  have projectSegments : project.segments = [.param "id", .optionalLiteral "tabs"] := by decide
  have pageSegments : page.segments = [.optionalParam "id", .splat] := by decide
  have homeSegments : home.segments = [.literal ""] := by decide
  have frameSegments : frame.segments = [] := by decide
  have listed : table.Demands "page" name ↔
      ∃ route ∈ [home, frame, project, page], route.Demands name :=
    exists_congr fun route => and_congr_left fun _ => onChain route
  simp [listed, Node.Demands, projectSegments, pageSegments, homeSegments, frameSegments]

end Sample

/-- The page needs an id and a rest. A call with neither is turned away at the rest, whose
name is the lesser one, and a call with both reaches the body. -/
theorem page_gated :
    "page" ∈ Sample.table.ids ∧
      ∃ function : DataFunction String,
        Sample.table.loader Redirect.standard "page" Sample.showId = .ok ⟨"page", .loader, function⟩ ∧
        function { request := .get "/" } = .error (.route (.missingParam "*")) ∧
        function { request := .get "/7/notes",
                   params := SortedMap.ofList [("tab", "x"), ("id", "7"), ("*", "notes")] } =
          .ok (.data "7") := by
  have known : "page" ∈ Sample.table.ids := by decide
  obtain ⟨gate, turnedAway, answered, arrives, made⟩ :=
    data_functions_gated Sample.table Redirect.standard known
  obtain ⟨function, loads, _, refuses, passes⟩ := made Sample.showId
  refine ⟨known, function, loads, ?_, ?_⟩
  · apply refuses
    refine (turnedAway _ _).mpr ⟨"*", ⟨Sample.demands_page_iff.mpr (Or.inr rfl), rfl, ?_⟩, rfl⟩
    intro other demanded _
    rcases Sample.demands_page_iff.mp demanded with rfl | rfl <;> decide
  · let params : RawValues := SortedMap.ofList [("tab", "x"), ("id", "7"), ("*", "notes")]
    have given : ∀ name, Sample.table.Demands "page" name → params.contains name := by
      intro name demanded
      rcases Sample.demands_page_iff.mp demanded with rfl | rfl <;> rfl
    obtain ⟨arguments, admitted⟩ := (answered ⟨.get "/7/notes", params⟩).mpr given
    obtain ⟨_, _, follow⟩ := arrives _ _ admitted
    obtain ⟨value, found, counted⟩ := follow.counted "id" (Sample.demands_page_iff.mpr (Or.inl rfl))
    have isSeven : value = "7" := Option.some.inj found.symm
    apply (passes _ _ admitted).data
    rw [Sample.showId, counted, isSeven]
    rfl

end RouteTree
