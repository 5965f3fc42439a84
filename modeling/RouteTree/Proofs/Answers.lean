import RouteTree.Codegen.Source
import RouteTree.Proofs.Alternatives
import RouteTree.Proofs.Links
import RouteTree.Proofs.Representation

/-!
# Answers of a table

Every query walks from record to record by id, and each lookup on the way may
fail. The links of an accepted tree lead to records of the same tree, so none
of them does: a table answers everything about its own routes, and refuses an
id that it does not have by that id.
-/

namespace RouteTree

/-- A walk that looks for an id that no record has comes to the end of the list. -/
theorem PassesOver.of_unknown {α : Type} {walk : List Record → String → α}
    (passes : PassesOver walk) {records : Records} {id : String} (unknown : id ∉ records.ids) :
    walk records.toList id = walk [] id := by
  have overAll : walk (records.toList ++ []) id = walk [] id := passes.append unknown
  rwa [List.append_nil] at overAll

namespace Records

variable {records : Records} {id : String}

theorem get_of_unknown (unknown : id ∉ records.ids) :
    records.get id = .error (.unknownRoute id) :=
  passesOver_find.of_unknown unknown

theorem ancestors_of_unknown (unknown : id ∉ records.ids) :
    records.ancestors id = .error (.unknownRoute id) := by
  have reversed : id ∉ (Records.mk records.toList.reverse).ids := by
    simpa [ids] using unknown
  have climbed : Record.chain records.toList.reverse id = .error (.unknownRoute id) :=
    passesOver_chain.of_unknown reversed
  rw [ancestors, climbed]
  rfl

end Records

namespace Table

variable {table : Table} {id other : String}

/-! ## Single routes -/

/-- Every query about the route has an answer. -/
structure Knows (table : Table) (id : String) : Prop where
  route : Answered (table.route id)
  children : Answered (table.records.children id)
  ancestors : Answered (table.records.ancestors id)
  descendantTargets : Answered (table.descendantTargets id)
  ancestorTargets : Answered (table.ancestorTargets id)
  targets : Answered (table.targets id)
  reaches : ∀ target, Answered (table.reaches id target)
  ownParams : Answered (table.ownParams id)
  ancestorParams : Answered (table.ancestorParams id)
  descendantParams : Answered (table.descendantParams id)
  params : Answered (table.params id)

/-- Every query about the id is refused by that id, and no hop starts from it. -/
structure Refuses (table : Table) (id : String) : Prop where
  route : table.route id = .error (.unknownRoute id)
  children : table.records.children id = .error (.unknownRoute id)
  ancestors : table.records.ancestors id = .error (.unknownRoute id)
  descendantTargets : table.descendantTargets id = .error (.unknownRoute id)
  ancestorTargets : table.ancestorTargets id = .error (.unknownRoute id)
  targets : table.targets id = .error (.unknownRoute id)
  reaches : ∀ target, table.reaches id target = .error (.unknownRoute id)
  ownParams : table.ownParams id = .error (.unknownRoute id)
  ancestorParams : table.ancestorParams id = .error (.unknownRoute id)
  descendantParams : table.descendantParams id = .error (.unknownRoute id)
  params : table.params id = .error (.unknownRoute id)
  hops : (Hops.start table.records id).next.1 = none ∧
    (Hops.start table.records id).toList = []

theorem knows_of_mem (known : id ∈ table.ids) : table.Knows id := by
  have flattened := table.flatten_forest
  obtain ⟨above, node, inside, rfl⟩ := (mem_ids_iff flattened).mp known
  have found : table.route node.id = .ok (node.record (lastId none above)) :=
    get_of_descends flattened inside
  have climbed := ancestors_of_descends flattened inside
  obtain ⟨below, belowFound, _⟩ := descendantTargets_of_descends flattened inside [""]
  obtain ⟨climbing, climbingFound, _⟩ := ancestorTargets_of_descends flattened inside
  obtain ⟨_, _, _, _, _, _, targetsFound⟩ := targets_of_descends flattened inside
  obtain ⟨shapes, shapesFound, _⟩ := shapesBelow_yields flattened ∅ node inside
  obtain ⟨alternatives, paramsFound, _⟩ := params_of_descends flattened inside
  constructor
  case route => exact ⟨_, found⟩
  case children => exact ⟨_, children_of_descends flattened inside⟩
  case ancestors => exact ⟨_, climbed⟩
  case descendantTargets => exact ⟨below, belowFound⟩
  case ancestorTargets => exact ⟨climbing, climbingFound⟩
  case targets => exact ⟨_, targetsFound⟩
  case reaches =>
    intro target
    rw [reaches, targets, targetsFound]
    exact ⟨_, rfl⟩
  case ownParams =>
    rw [ownParams, found]
    exact ⟨_, rfl⟩
  case ancestorParams => exact ⟨_, ancestorParams_of_descends flattened inside⟩
  case descendantParams =>
    rw [descendantParams, Records.descendantParams, shapesFound]
    exact ⟨_, rfl⟩
  case params => exact ⟨alternatives, paramsFound⟩

theorem refuses_of_not_mem (unknown : id ∉ table.ids) : table.Refuses id := by
  have missing : table.route id = .error (.unknownRoute id) :=
    Records.get_of_unknown unknown
  have noChain : table.records.ancestors id = .error (.unknownRoute id) :=
    Records.ancestors_of_unknown unknown
  have noTargets : table.targets id = .error (.unknownRoute id) := by
    rw [targets, Records.targets, Records.get_of_unknown unknown]
    rfl
  have noHops : Hops.start table.records id = ⟨[], 0⟩ := by
    rw [Hops.start, noChain]
  constructor
  case route => exact missing
  case children =>
    rw [Records.children, Records.get_of_unknown unknown]
    rfl
  case ancestors => exact noChain
  case descendantTargets =>
    have nothingBelow := (passesOver_targetsBelow [""]).of_unknown unknown
    rw [descendantTargets, Records.descendantTargets, nothingBelow]
    rfl
  case ancestorTargets =>
    rw [ancestorTargets, Records.ancestorTargets, Records.get_of_unknown unknown]
    rfl
  case targets => exact noTargets
  case reaches =>
    intro target
    rw [reaches, noTargets]
    rfl
  case ownParams =>
    rw [ownParams, missing]
    rfl
  case ancestorParams =>
    rw [ancestorParams, Records.ancestorParams, noChain]
    rfl
  case descendantParams =>
    have nothingBelow := (passesOver_shapesBelow ∅).of_unknown unknown
    rw [descendantParams, Records.descendantParams, nothingBelow]
    rfl
  case params =>
    rw [params, Records.params, Records.get_of_unknown unknown]
    rfl
  case hops =>
    rw [noHops]
    exact ⟨rfl, rfl⟩

/-! ## Two routes -/

theorem isBelow_answered (known : id ∈ table.ids) (above : String) :
    Answered (table.isBelow id above) := by
  obtain ⟨ancestors, climbed⟩ := (knows_of_mem known).ancestors
  rw [isBelow, climbed]
  exact ⟨_, rfl⟩

theorem relation_answered (known : id ∈ table.ids) (otherKnown : other ∈ table.ids) :
    Answered (table.relation id other) := by
  obtain ⟨record, found⟩ := (knows_of_mem otherKnown).route
  obtain ⟨otherIsAbove, climbed⟩ := isBelow_answered known other
  obtain ⟨otherIsBelow, otherClimbed⟩ := isBelow_answered otherKnown id
  rw [relation, found]
  simp only [Except.bind, climbed, otherClimbed]
  exact ⟨_, rfl⟩

/-- The other id is looked up first. -/
theorem relation_of_unknown_other (unknown : other ∉ table.ids) :
    table.relation id other = .error (.unknownRoute other) := by
  rw [relation, (refuses_of_not_mem unknown).route]
  rfl

theorem relation_of_unknown (unknown : id ∉ table.ids) (otherKnown : other ∈ table.ids) :
    table.relation id other = .error (.unknownRoute id) := by
  obtain ⟨record, found⟩ := (knows_of_mem otherKnown).route
  have notBelow : table.isBelow id other = .error (.unknownRoute id) := by
    rw [isBelow, (refuses_of_not_mem unknown).ancestors]
    rfl
  rw [relation, found]
  simp only [Except.bind, notBelow]

/-! ## The whole table -/

theorem absoluteTargets_answered (table : Table) : Answered table.absoluteTargets := by
  obtain ⟨absolute, found, _⟩ := absoluteTargets_of_flatten table.flatten_forest
  exact ⟨absolute, found⟩

end Table

namespace Codegen

open Params

/-- The merged parameters of a route. -/
def mergedShape (table : Table) (id : String) : Shape :=
  match table.params id with
  | .ok alternatives => alternatives.merged
  | .error _ => ∅

/-- The item of a route of the table. -/
def itemFor (table : Table) (record : Record) (variant : String) : Item where
  id := record.id
  variant := variant
  parentId := record.parentId
  shape := mergedShape table record.id
  fields := fieldsOf (mergedShape table record.id)

/-- The items of all routes, in preorder. -/
def allItems (table : Table) : List Item :=
  List.zipWith (itemFor table) table.records.toList (variantsOf table)

theorem itemOf_eq_ok {table : Table} {record : Record} (known : record.id ∈ table.ids)
    (variant : String) : itemOf table record variant = .ok (itemFor table record variant) := by
  obtain ⟨alternatives, found⟩ := (Table.knows_of_mem known).params
  rw [itemOf, itemFor, mergedShape, found]
  rfl

theorem itemsOf_eq_ok (table : Table) : itemsOf table = .ok (allItems table) := by
  rw [itemsOf, allItems, ← List.map_uncurry_zip_eq_zipWith]
  apply mapM_eq_ok_map
  rintro ⟨record, variant⟩ member
  apply itemOf_eq_ok
  exact List.mem_map_of_mem (List.of_mem_zip member).1

theorem exists_record_of_mem_allItems {table : Table} {item : Item}
    (member : item ∈ allItems table) :
    ∃ record ∈ table.records.toList, ∃ variant ∈ variantsOf table,
      item = itemFor table record variant := by
  rw [allItems, ← List.map_uncurry_zip_eq_zipWith] at member
  obtain ⟨⟨record, variant⟩, inZip, rfl⟩ := List.mem_map.mp member
  exact ⟨record, (List.of_mem_zip inZip).1, variant, (List.of_mem_zip inZip).2, rfl⟩

theorem id_mem_of_mem_allItems {table : Table} {item : Item} (member : item ∈ allItems table) :
    item.id ∈ table.ids := by
  obtain ⟨record, recordMember, variant, _, rfl⟩ := exists_record_of_mem_allItems member
  exact List.mem_map_of_mem recordMember

theorem variantTargets_answered {table : Table} {items : List Item}
    (known : ∀ item ∈ items, item.id ∈ table.ids) (settings : Settings) :
    Answered (variantTargets table settings items) := by
  by_cases wanted : settings.emitPaths
  · have each : ∀ item ∈ items,
        Answered ((table.targets item.id).map (item.variant, ·)) := by
      intro item member
      obtain ⟨targets, found⟩ := (Table.knows_of_mem (known item member)).targets
      rw [found]
      exact ⟨_, rfl⟩
    obtain ⟨results, listed, _⟩ := exists_mapM_eq_ok each
    rw [variantTargets, if_pos wanted, listed]
    exact ⟨_, rfl⟩
  · rw [variantTargets, if_neg wanted]
    exact ⟨_, rfl⟩

theorem wantedAbsoluteTargets_answered (table : Table) (settings : Settings) :
    Answered (wantedAbsoluteTargets table settings) := by
  by_cases wanted : settings.emitPaths
  · obtain ⟨absolute, found⟩ := table.absoluteTargets_answered
    rw [wantedAbsoluteTargets, if_pos wanted, found]
    exact ⟨_, rfl⟩
  · rw [wantedAbsoluteTargets, if_neg wanted]
    exact ⟨_, rfl⟩

/-- Only the name of the module can keep a table from being generated. -/
theorem source_answered {table : Table} {settings : Settings} {moduleName : String}
    (named : identifierOfText? settings.moduleName = some moduleName) :
    Answered (source table settings) := by
  have known : ∀ item ∈ allItems table, item.id ∈ table.ids :=
    fun item member => id_mem_of_mem_allItems member
  obtain ⟨targets, targetsFound⟩ := variantTargets_answered known settings
  obtain ⟨absolute, absoluteFound⟩ := wantedAbsoluteTargets_answered table settings
  rw [source, named]
  simp only [itemsOf_eq_ok, Except.bind, targetsFound, absoluteFound]
  exact ⟨_, rfl⟩

theorem source_of_no_identifier {table : Table} {settings : Settings}
    (unnamed : identifierOfText? settings.moduleName = none) :
    source table settings = .error (.invalidIdentifier settings.moduleName) := by
  rw [source, unnamed]

end Codegen

/-- Once a table is there, nothing fails any more. Every query about one or two of
its routes has an answer, and so have the absolute targets. The generated
module has a source exactly if its name is an identifier, and is refused by
the name otherwise. Any other id is refused by that id, and of two such ids the
relation refuses the one that it is asked to compare with. -/
theorem table_answers (table : Table) :
    (∀ id ∈ table.ids, table.Knows id) ∧
      (∀ id, id ∉ table.ids → table.Refuses id) ∧
      (∀ id ∈ table.ids, ∀ other ∈ table.ids, Answered (table.relation id other)) ∧
      (∀ id other, other ∉ table.ids →
        table.relation id other = .error (.unknownRoute other)) ∧
      (∀ id, id ∉ table.ids → ∀ other ∈ table.ids,
        table.relation id other = .error (.unknownRoute id)) ∧
      Answered table.absoluteTargets ∧
      ∀ settings, (Answered (Codegen.source table settings) ↔
          (Codegen.identifierOfText? settings.moduleName).isSome) ∧
        ∀ error, Codegen.source table settings = .error error →
          error = .invalidIdentifier settings.moduleName := by
  refine ⟨fun _ => Table.knows_of_mem, fun _ => Table.refuses_of_not_mem,
    fun _ known _ => Table.relation_answered known, fun _ _ => Table.relation_of_unknown_other,
    fun _ unknown _ => Table.relation_of_unknown unknown, table.absoluteTargets_answered, ?_⟩
  intro settings
  cases named : Codegen.identifierOfText? settings.moduleName with
  | none =>
      rw [Codegen.source_of_no_identifier named]
      simp [Answered, eq_comm]
  | some moduleName =>
      have answered : Answered (Codegen.source table settings) := Codegen.source_answered named
      obtain ⟨text, made⟩ := answered
      rw [made]
      simp [Answered]

/-- The small table knows its page, refuses an id that no route has, also in a
relation with another one that it does not have either, and its module has no
source under a name with a hyphen. -/
theorem project_answers :
    Sample.table.Knows "page" ∧ Sample.table.Refuses "nowhere" ∧
      Answered (Sample.table.relation "page" "home") ∧
      Sample.table.relation "elsewhere" "nowhere" = .error (.unknownRoute "nowhere") ∧
      Sample.table.relation "nowhere" "page" = .error (.unknownRoute "nowhere") ∧
      Answered (Codegen.source Sample.table {}) ∧
      ¬ Answered (Codegen.source Sample.table { moduleName := "my-routes" }) := by
  have page : "page" ∈ Sample.table.ids := by decide
  have home : "home" ∈ Sample.table.ids := by decide
  have nowhere : "nowhere" ∉ Sample.table.ids := by decide
  obtain ⟨knows, refuses, related, otherFirst, thenOwn, _, sources⟩ := table_answers Sample.table
  refine ⟨knows _ page, refuses _ nowhere, related _ page _ home, otherFirst _ _ nowhere,
    thenOwn _ nowhere _ page, (sources {}).1.mpr (by decide +kernel), ?_⟩
  have unnamed : (Codegen.identifierOfText? "my-routes").isSome = false := by decide +kernel
  intro answered
  have named := (sources { moduleName := "my-routes" }).1.mp answered
  rw [unnamed] at named
  cases named

end RouteTree
