import RouteTree.Proofs.ParamRecords

/-!
# Records copy the parameters of their routes

The record of a route has one field for each of its merged parameters, in their
order. A name that another parameter has taken gets a number, so fields and
parameters do not always share their names; but what a field holds is found
under its own parameter, in the map as well as in what is serialized.
-/

namespace RouteTree.Codegen

open Params

/-! ## What records do -/

def FieldOption.renamed? : FieldOption → Option String
  | .rename key => some key
  | _ => none

/-- The key under which a field is serialized. -/
def RecordField.key (field : RecordField) : String :=
  (field.options.findSome? FieldOption.renamed?).getD field.name

/-- What a field holds: a text, or a text that may be missing. -/
inductive Held where
  | text (value : String)
  | maybe (value : Option String)
deriving DecidableEq, Repr

namespace Held

def need : Held → Need
  | .text _ => .required
  | .maybe _ => .optional

def given : Held → Option String
  | .text value => some value
  | .maybe value => value

end Held

/-- One statement. A text can only be stored as it is and what may be missing only
under a guard; nothing else is source that compiles. -/
def Insertion.run (held : String → Held) (map : SortedMap String String) (insertion : Insertion) :
    Option (SortedMap String String) :=
  match held insertion.field, insertion.guarded with
  | .text value, false => some (map.insert insertion.key value)
  | .maybe (some value), true => some (map.insert insertion.key value)
  | .maybe none, true => some map
  | _, _ => none

namespace ParamRecord

/-- The map that a record with some content is turned into. -/
def intoMap (record : ParamRecord) (held : String → Held) : Option (SortedMap String String) :=
  record.insertions.foldlM (Insertion.run held) ∅

/-- Every field holds what its type says. -/
def Fits (record : ParamRecord) (held : String → Held) : Prop :=
  ∀ field ∈ record.fields, (held field.name).need = field.need

def Serializable (record : ParamRecord) : Prop :=
  "serde :: Serialize" ∈ record.derives ∧ "serde :: Deserialize" ∈ record.derives

/-- The map has under each name what the field in the same place holds, and no other
names. -/
def Stores (record : ParamRecord) (names : List String) : Prop :=
  ∀ held, record.Fits held → ∃ map, record.intoMap held = some map ∧
    List.Forall₂ (fun field name => map.get? name = (held field.name).given) record.fields names ∧
    ∀ name, name ∉ names → map.get? name = none

/-- The record has a field of its own for each parameter, in order, and stores it under
the parameter. -/
structure Copies (record : ParamRecord) (shape : Shape) : Prop where
  needs : record.fields.map RecordField.need = shape.entries.map Prod.snd
  distinct : (record.fields.map RecordField.name).Nodup
  insertions : record.insertions =
    List.zipWith (fun field entry => ⟨entry.1, field.name, entry.2 = .optional⟩)
      record.fields shape.entries
  keysDistinct : (record.insertions.map Insertion.key).Nodup
  stores : record.Stores shape.keys

end ParamRecord

/-! ## Storing fields -/

section Storing

variable {held : String → Held} {field : Field} {fields : List Field}

/-- A statement binds its own key, unless the field is empty. -/
theorem exists_run_insertionOf (fits : (held field.name).need = field.need)
    (start : SortedMap String String) :
    ∃ next, Insertion.run held start (insertionOf field) = some next ∧
      next.get? field.param = (held field.name).given.or (start.get? field.param) ∧
      ∀ key, key ≠ field.param → next.get? key = start.get? key := by
  have bound : ∀ value, (start.insert field.param value).get? field.param = some value ∧
      ∀ key, key ≠ field.param → (start.insert field.param value).get? key = start.get? key := by
    intro value
    constructor
    · rw [SortedMap.get?_insert, if_pos rfl]
    · intro key different
      rw [SortedMap.get?_insert, if_neg different]
  have guarded : (insertionOf field).guarded = decide ((held field.name).need = .optional) := by
    rw [fits]
    rfl
  have ownField : (insertionOf field).field = field.name := rfl
  rw [Insertion.run, guarded, ownField]
  cases held field.name with
  | text value => exact ⟨_, rfl, bound value⟩
  | maybe value =>
      cases value with
      | none => exact ⟨start, rfl, rfl, fun _ _ => rfl⟩
      | some value => exact ⟨_, rfl, bound value⟩

theorem exists_foldlM_insertionOf (distinct : (fields.map Field.param).Nodup)
    (fits : ∀ field ∈ fields, (held field.name).need = field.need)
    {start : SortedMap String String} (fresh : ∀ field ∈ fields, start.get? field.param = none) :
    ∃ map, (fields.map insertionOf).foldlM (Insertion.run held) start = some map ∧
      (∀ field ∈ fields, map.get? field.param = (held field.name).given) ∧
      ∀ key, key ∉ fields.map Field.param → map.get? key = start.get? key := by
  -- The parameters that are still to come stay free in the map the first statement leaves.
  induction fields generalizing start with
  | nil => exact ⟨start, rfl, List.forall_mem_nil _, fun _ _ => rfl⟩
  | cons first rest ih =>
      rw [List.map_cons, List.nodup_cons] at distinct
      rw [List.forall_mem_cons] at fits fresh
      obtain ⟨next, ran, own, others⟩ := exists_run_insertionOf fits.1 start
      have stillFresh : ∀ field ∈ rest, next.get? field.param = none := by
        intro field member
        have different : field.param ≠ first.param := by
          intro same
          apply distinct.1
          rw [← same]
          exact List.mem_map_of_mem member
        rw [others _ different]
        exact fresh.2 field member
      obtain ⟨map, folded, stored, untouched⟩ := ih distinct.2 fits.2 stillFresh
      refine ⟨map, ?_, List.forall_mem_cons.mpr ⟨?_, stored⟩, ?_⟩
      · rw [List.map_cons, List.foldlM_cons, ran]
        exact folded
      · rw [untouched _ distinct.1, own, fresh.1, Option.or_none]
      · intro key noKey
        rw [List.map_cons, List.mem_cons, not_or] at noKey
        rw [untouched key noKey.2, others key noKey.1]

end Storing

/-! ## The fields of a shape -/

section Shapes

variable {shape : Shape}

theorem map_entry_fieldsOf (shape : Shape) :
    (fieldsOf shape).map (fun field => (field.param, field.need)) = shape.entries := by
  have sameLength : shape.entries.length ≤
      (freeNames [] (shape.entries.map fun entry => fieldName entry.1)).length := by
    rw [length_freeNames, List.length_map]
  have listed := List.map_fst_zip sameLength
  rw [fieldsOf, List.map_zipWith]
  conv_rhs => rw [← listed, List.map_zip_eq_zipWith]
  rfl

theorem map_param_fieldsOf (shape : Shape) : (fieldsOf shape).map Field.param = shape.keys := by
  rw [SortedMap.keys, ← map_entry_fieldsOf, List.map_map]
  rfl

theorem map_need_fieldsOf (shape : Shape) :
    (fieldsOf shape).map Field.need = shape.entries.map Prod.snd := by
  rw [← map_entry_fieldsOf, List.map_map]
  rfl

variable {settings : Settings} {item : Item}

theorem fields_paramRecordOf (shaped : item.fields = fieldsOf shape) :
    (paramRecordOf settings item).fields = (fieldsOf shape).map (recordFieldOf settings) := by
  rw [← shaped]
  rfl

theorem insertions_paramRecordOf (shaped : item.fields = fieldsOf shape) :
    (paramRecordOf settings item).insertions = (fieldsOf shape).map insertionOf := by
  rw [← shaped]
  rfl

theorem stores_paramRecordOf (shaped : item.fields = fieldsOf shape) :
    (paramRecordOf settings item).Stores shape.keys := by
  intro held fits
  rw [ParamRecord.Fits, fields_paramRecordOf shaped, List.forall_mem_map] at fits
  have distinct : ((fieldsOf shape).map Field.param).Nodup := by
    rw [map_param_fieldsOf]
    exact shape.increasing.nodup
  obtain ⟨map, folded, stored, others⟩ :=
    exists_foldlM_insertionOf distinct fits fun _ _ => SortedMap.get?_empty _
  rw [← map_param_fieldsOf]
  refine ⟨map, ?_, ?_, others⟩
  · rw [ParamRecord.intoMap, insertions_paramRecordOf shaped]
    exact folded
  · rw [fields_paramRecordOf shaped, List.forall₂_map_left_iff, List.forall₂_map_right_iff,
      List.forall₂_same]
    exact stored

theorem copies_paramRecordOf (shaped : item.fields = fieldsOf shape) :
    (paramRecordOf settings item).Copies shape := by
  constructor
  case needs =>
    rw [fields_paramRecordOf shaped, List.map_map, ← map_need_fieldsOf]
    rfl
  case distinct =>
    rw [fields_paramRecordOf shaped, List.map_map]
    exact nodup_fieldsOf shape
  case insertions =>
    rw [fields_paramRecordOf shaped, insertions_paramRecordOf shaped]
    conv_rhs => rw [← map_entry_fieldsOf shape, List.zipWith_map, List.zipWith_self]
    rfl
  case keysDistinct =>
    have keys : ((fieldsOf shape).map insertionOf).map Insertion.key = shape.keys := by
      rw [List.map_map, ← map_param_fieldsOf]
      rfl
    rw [insertions_paramRecordOf shaped, keys]
    exact shape.increasing.nodup
  case stores => exact stores_paramRecordOf shaped

theorem key_recordFieldOf (derives : settings.deriveSerialization) (field : Field) :
    (recordFieldOf settings field).key = field.param := by
  have noOther : ∀ optional : Bool,
      (if optional then [FieldOption.default, .skipIf "Option::is_none"] else []).findSome?
        FieldOption.renamed? = none := by
    decide
  rw [RecordField.key, recordFieldOf]
  simp only [derives, if_true]
  by_cases same : field.name = field.param
  · have noRename : field.serialization.rename = none := if_pos same
    rw [optionsOf, noRename, Option.toList_none, List.map_nil, List.nil_append, noOther]
    exact same
  · have rename : field.serialization.rename = some field.param := if_neg same
    rw [optionsOf, rename]
    rfl

theorem serializable_paramRecordOf_iff :
    (paramRecordOf settings item).Serializable ↔ settings.deriveSerialization := by
  have derives : (paramRecordOf settings item).derives = derivesOf settings := rfl
  rw [ParamRecord.Serializable, derives, derivesOf]
  cases settings.deriveSerialization <;> decide

end Shapes

/-! ## The records of a table -/

section Table

variable {table : Table} {settings : Settings} {item : Item}

theorem exists_params_of_mem_allItems (member : item ∈ allItems table) :
    ∃ alternatives, table.params item.id = .ok alternatives ∧
      item.fields = fieldsOf alternatives.merged := by
  obtain ⟨record, recordMember, variant, _, rfl⟩ := exists_record_of_mem_allItems member
  have known : record.id ∈ table.ids := List.mem_map_of_mem recordMember
  obtain ⟨alternatives, found⟩ := (Table.knows_of_mem known).params
  refine ⟨alternatives, found, ?_⟩
  rw [itemFor, mergedShape, found]

theorem readParams_allItems (table : Table) (emits : settings.emitParams) :
    readParams (paramsTokens settings (allItems table)) =
      some ((allItems table).map (paramRecordOf settings)) := by
  apply readParams_paramsTokens emits
  · intro item member
    have legal := legal_of_mem_allItems member
    exact (spelled_recordName legal.variantSpelled).identifier_of_variant.legible
  · intro item member field inFields
    have legal := legal_of_mem_allItems member
    exact (legal.fieldsSpelled field inFields).identifier_of_field.legible

end Table

/-- Every route of a table has a record, and the record copies the merged parameters of
the route: a field of its own for each, a text exactly where the parameter is
required, found under the parameter in the map whenever it holds something. Where
records are serialized, the parameters are the keys there as well. -/
theorem records_copy_params (table : Table) {settings : Settings} (emits : settings.emitParams) :
    ∃ items records, itemsOf table = .ok items ∧ items.map Item.id = table.ids ∧
      readParams (paramsTokens settings items) = some records ∧
      List.Forall₂ (fun item record => record.name = item.recordName ∧
          ∃ alternatives, table.params item.id = .ok alternatives ∧
            record.Copies alternatives.merged ∧
            (record.Serializable ↔ settings.deriveSerialization) ∧
            (settings.deriveSerialization →
              record.fields.map RecordField.key = alternatives.merged.keys ∧
                (record.fields.map RecordField.key).Nodup))
        items records := by
  refine ⟨allItems table, _, itemsOf_eq_ok table, map_id_allItems table,
    readParams_allItems table emits, ?_⟩
  rw [List.forall₂_map_right_iff, List.forall₂_same]
  intro item member
  obtain ⟨alternatives, found, shaped⟩ := exists_params_of_mem_allItems member
  refine ⟨rfl, alternatives, found, copies_paramRecordOf shaped,
    serializable_paramRecordOf_iff, ?_⟩
  intro derives
  have keys : (paramRecordOf settings item).fields.map RecordField.key =
      item.fields.map Field.param := by
    have fields : (paramRecordOf settings item).fields =
        item.fields.map (recordFieldOf settings) := rfl
    rw [fields, List.map_map]
    exact List.map_congr_left fun field _ => key_recordFieldOf derives field
  rw [keys, shaped, map_param_fieldsOf]
  exact ⟨rfl, alternatives.merged.increasing.nodup⟩

namespace Sample

def crossing : Node := ⟨"users", some ":userId/:user-id?/:user_id/:type/*", false, []⟩

theorem flatten_crossing : flatten [crossing] = .ok ⟨[crossing.record none]⟩ := by rfl

/-- Three parameters of the only route ask for the same field, and one for a keyword. -/
def crossed : Table := ⟨[crossing], _, flatten_crossing⟩

/-- Every field has its own name as text, except the first of the three, which is empty. -/
def heldNames (field : String) : Held :=
  if field = "user_id" then .maybe none else .text field

def crossedFields : List RecordField :=
  [⟨"splat", [.rename "*"], .required⟩, ⟨"type", [], .required⟩,
    ⟨"user_id", [.rename "user-id", .default, .skipIf "Option::is_none"], .optional⟩,
    ⟨"user_id2", [.rename "userId"], .required⟩, ⟨"user_id3", [.rename "user_id"], .required⟩]

end Sample

/-- The parameters that ask for the same field are not mixed up. -/
theorem crossed_record :
    ∃ items record, itemsOf Sample.crossed = .ok items ∧
      readParams (paramsTokens { deriveSerialization := true } items) = some [record] ∧
      record.fields.map RecordField.name = ["splat", "type", "user_id", "user_id2", "user_id3"] ∧
      record.fields.map RecordField.key = ["*", "type", "user-id", "userId", "user_id"] ∧
      ∃ map, record.intoMap Sample.heldNames = some map ∧
        map.get? "user-id" = none ∧ map.get? "userId" = some "user_id2" ∧
        map.get? "user_id" = some "user_id3" := by
  let settings : Settings := { deriveSerialization := true }
  have emits : settings.emitParams := rfl
  obtain ⟨items, records, made, listed, read, copies⟩ := records_copy_params Sample.crossed emits
  have one : items.length = 1 := by
    rw [← List.length_map (f := Item.id), listed]
    rfl
  obtain ⟨item, rfl⟩ := List.length_eq_one_iff.mp one
  obtain ⟨record, _, ⟨_, alternatives, _, copy, _, keys⟩, noMore, rfl⟩ :=
    List.forall₂_cons_left_iff.mp copies
  cases noMore
  have fields : record.fields = Sample.crossedFields := by
    have only : [item] = allItems Sample.crossed :=
      Except.ok.inj (made.symm.trans (itemsOf_eq_ok Sample.crossed))
    rw [only, readParams_allItems Sample.crossed emits] at read
    have all : ((allItems Sample.crossed).map (paramRecordOf settings)).map ParamRecord.fields =
        [Sample.crossedFields] := by
      decide +kernel
    rw [Option.some.inj read] at all
    exact List.singleton_inj.mp all
  have fits : record.Fits Sample.heldNames := by
    rw [ParamRecord.Fits, fields]
    decide
  obtain ⟨map, turned, held, _⟩ := copy.stores Sample.heldNames fits
  rw [← (keys rfl).1, List.forall₂_map_right_iff, List.forall₂_same, fields] at held
  simp only [Sample.crossedFields, List.forall_mem_cons] at held
  refine ⟨_, _, made, read, ?_, ?_, map, turned, held.2.2.1, held.2.2.2.1, held.2.2.2.2.1⟩
  · rw [fields]
    rfl
  · rw [fields]
    rfl

end RouteTree.Codegen
