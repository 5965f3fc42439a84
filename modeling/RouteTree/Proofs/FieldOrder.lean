import RouteTree.Config.RouteFile
import Mathlib.Data.List.Forall2

/-!
# The order of fields

The fields of an object may come in any order, also in the objects that are inside it: a
route file is read from all of these values alike. One route is read field by field, and
two fields that are next to each other may change places, since a field that is read
twice is refused either way and two others change different parts of the draft.
-/

namespace RouteTree

open Json (Surplus)

namespace Json

mutual

/-- The values are the same up to the order of the fields in each of their objects. -/
inductive Same : Json → Json → Prop
  | refl (value : Json) : Same value value
  | array {items others : List Json} :
      SameItems items others → Same (.array items) (.array others)
  | object {fields moved others : List (String × Json)} :
      SameFields fields moved → moved.Perm others → Same (.object fields) (.object others)

/-- The items are the same one by one. -/
inductive SameItems : List Json → List Json → Prop
  | nil : SameItems [] []
  | cons {first other : Json} {rest others : List Json} :
      Same first other → SameItems rest others → SameItems (first :: rest) (other :: others)

/-- The fields have the same names one by one, and the same values. -/
inductive SameFields : List (String × Json) → List (String × Json) → Prop
  | nil : SameFields [] []
  | cons {name : String} {value other : Json} {rest others : List (String × Json)} :
      Same value other → SameFields rest others →
        SameFields ((name, value) :: rest) ((name, other) :: others)

end

theorem SameFields.refl : ∀ fields : List (String × Json), SameFields fields fields
  | [] => .nil
  | (_, value) :: rest => .cons (.refl value) (refl rest)

theorem Same.of_perm {fields others : List (String × Json)} (reordered : fields.Perm others) :
    Same (.object fields) (.object others) :=
  .object (.refl fields) reordered

variable {surplus : Surplus} {value other : Json}

theorem text?_congr (same : Same value other) : text? value = text? other := by
  cases same <;> rfl

theorem bool?_congr (same : Same value other) : bool? value = bool? other := by
  cases same <;> rfl

theorem nullableText?_congr (same : Same value other) :
    nullableText? value = nullableText? other := by
  cases same <;> rfl

theorem admits_congr {items others : List Json} (same : SameItems items others) :
    surplus.admits items = surplus.admits others := by
  cases surplus with
  | ignored => rfl
  | refused => cases same <;> rfl

end Json

/-- If any two steps may change places, the items may be taken in any order. -/
theorem foldlM_eq_of_perm {α β : Type} {step : β → α → Option β}
    (commute : ∀ state first second,
      (step state first).bind (step · second) = (step state second).bind (step · first))
    {items others : List α} (reordered : items.Perm others) (start : β) :
    items.foldlM step start = others.foldlM step start := by
  induction reordered generalizing start with
  | nil => rfl
  | cons item _ ih =>
      rw [List.foldlM_cons, List.foldlM_cons]
      exact bind_congr ih
  | swap second first rest =>
      simp only [List.foldlM_cons, Option.bind_eq_bind, ← Option.bind_assoc]
      rw [commute]
  | trans _ _ first second => exact (first start).trans (second start)

/-! ## Routes -/

/-- The fields that a description is read from. -/
inductive DescriptionField where
  | id
  | path
  | index
  | children
deriving DecidableEq

namespace DescriptionField

def ofName? (name : String) : Option DescriptionField :=
  if name = "id" then some .id
  else if name = "path" then some .path
  else if name = "index" then some .index
  else if name = "children" then some .children
  else none

/-- The field has been read already. -/
def isFilled (draft : DescriptionDraft) : DescriptionField → Bool
  | .id => draft.id.isSome
  | .path => draft.path.isSome
  | .index => draft.index.isSome
  | .children => draft.children.isSome

/-- What a value of the field changes in a draft. -/
def edit? (surplus : Surplus) (value : Json) :
    DescriptionField → Option (DescriptionDraft → DescriptionDraft)
  | .id => (Json.nullableText? value).map fun id draft => { draft with id := some id }
  | .path => (Json.nullableText? value).map fun path draft => { draft with path := some path }
  | .index => (Json.bool? value).map fun index draft => { draft with index := some index }
  | .children => (Description.listOfJson? surplus value).map fun children draft =>
      { draft with children := some children }

/-- Reads the field, unless it has been read already. -/
def enter? (surplus : Surplus) (field : DescriptionField) (value : Json)
    (draft : DescriptionDraft) : Option DescriptionDraft :=
  if field.isFilled draft then none
  else (field.edit? surplus value).map fun edit => edit draft

variable {surplus : Surplus} {field other : DescriptionField} {value otherValue : Json}
  {edit otherEdit : DescriptionDraft → DescriptionDraft}

theorem isFilled_edit (edits : field.edit? surplus value = some edit)
    (draft : DescriptionDraft) :
    other.isFilled (edit draft) = (decide (other = field) || other.isFilled draft) := by
  cases field <;> obtain ⟨_, _, rfl⟩ := Option.map_eq_some_iff.mp edits <;> cases other <;> rfl

theorem edit_comm (different : field ≠ other)
    (edits : field.edit? surplus value = some edit)
    (otherEdits : other.edit? surplus otherValue = some otherEdit)
    (draft : DescriptionDraft) : edit (otherEdit draft) = otherEdit (edit draft) := by
  cases field <;> obtain ⟨_, _, rfl⟩ := Option.map_eq_some_iff.mp edits <;> cases other <;>
    obtain ⟨_, _, rfl⟩ := Option.map_eq_some_iff.mp otherEdits <;> simp_all

theorem enter?_of_refused (refused : field.edit? surplus value = none) :
    field.enter? surplus value = fun _ => none := by
  funext draft
  simp [enter?, refused]

theorem enter?_of_edit (edits : field.edit? surplus value = some edit) :
    field.enter? surplus value = fun draft =>
      if field.isFilled draft then none else some (edit draft) := by
  funext draft
  simp [enter?, edits]

theorem enter?_twice (draft : DescriptionDraft) :
    (field.enter? surplus value draft).bind (field.enter? surplus otherValue) = none := by
  cases edits : field.edit? surplus value with
  | none => simp [enter?_of_refused edits]
  | some edit =>
      rw [enter?_of_edit edits, Option.bind_eq_none_iff]
      intro edited entered
      obtain ⟨-, rfl⟩ : field.isFilled draft = false ∧ edit draft = edited := by
        simpa using entered
      simp [enter?, isFilled_edit edits]

theorem enter?_comm (draft : DescriptionDraft) :
    (field.enter? surplus value draft).bind (other.enter? surplus otherValue) =
      (other.enter? surplus otherValue draft).bind (field.enter? surplus value) := by
  by_cases same : field = other
  · rw [same, enter?_twice, enter?_twice]
  · cases edits : field.edit? surplus value with
    | none => simp [enter?_of_refused edits]
    | some edit =>
        cases otherEdits : other.edit? surplus otherValue with
        | none => simp [enter?_of_refused otherEdits]
        | some otherEdit =>
            have commute := edit_comm same edits otherEdits draft
            simp only [enter?_of_edit edits, enter?_of_edit otherEdits]
            cases filled : field.isFilled draft <;> cases otherFilled : other.isFilled draft <;>
              simp [isFilled_edit edits, isFilled_edit otherEdits, same, Ne.symm same,
                filled, otherFilled, commute]

end DescriptionField

namespace Description

open Json (Same SameItems SameFields)

variable {surplus : Surplus}

/-- Reads one field of an object; a field with another name is passed over. -/
def readField? (surplus : Surplus) (draft : DescriptionDraft) (field : String × Json) :
    Option DescriptionDraft :=
  match DescriptionField.ofName? field.1 with
  | none => some draft
  | some known => known.enter? surplus field.2 draft

open DescriptionField in
theorem ofFields?_eq_foldlM (surplus : Surplus) (fields : List (String × Json))
    (draft : DescriptionDraft) :
    ofFields? surplus draft fields = fields.foldlM (readField? surplus) draft := by
  induction fields generalizing draft with
  | nil => rfl
  | cons field rest ih =>
      obtain ⟨name, value⟩ := field
      rw [ofFields?, List.foldlM_cons, readField?, ofName?]
      split_ifs <;> simp_all [enter?, isFilled, edit?, Option.bind_map, Function.comp_def]

theorem readField?_comm (draft : DescriptionDraft) (first second : String × Json) :
    (readField? surplus draft first).bind (readField? surplus · second) =
      (readField? surplus draft second).bind (readField? surplus · first) := by
  simp only [readField?]
  cases DescriptionField.ofName? first.1 with
  | none => simp
  | some field =>
      cases DescriptionField.ofName? second.1 with
      | none => simp
      | some other => exact DescriptionField.enter?_comm draft

theorem ofFields?_perm {fields others : List (String × Json)} (reordered : fields.Perm others)
    (draft : DescriptionDraft) :
    ofFields? surplus draft fields = ofFields? surplus draft others := by
  rw [ofFields?_eq_foldlM, ofFields?_eq_foldlM]
  exact foldlM_eq_of_perm readField?_comm reordered draft

open Json (nullableText?_congr bool?_congr admits_congr)

mutual

/-- By recursion on how the values are the same, which follows the calls of the reader. -/
theorem ofJson?_congr : ∀ {value other : Json}, Same value other →
    ofJson? surplus value = ofJson? surplus other
  | _, _, .refl _ => rfl
  | _, _, .array items => by rw [ofJson?, ofJson?, ofItems?_congr items]
  | _, _, .object fields reordered => by
      rw [ofJson?, ofJson?, ofFields?_congr fields, ofFields?_perm reordered]

theorem ofFields?_congr {draft : DescriptionDraft} : ∀ {fields others : List (String × Json)},
    SameFields fields others → ofFields? surplus draft fields = ofFields? surplus draft others
  | _, _, .nil => rfl
  | _, _, .cons value rest => by
      rw [ofFields?, ofFields?]
      simp only [nullableText?_congr value, bool?_congr value, listOfJson?_congr value,
        ofFields?_congr rest]

theorem ofItems?_congr : ∀ {items others : List Json},
    SameItems items others → ofItems? surplus items = ofItems? surplus others
  | _, _, .nil => rfl
  | _, _, .cons id .nil => by rw [ofItems?, ofItems?, nullableText?_congr id]
  | _, _, .cons id (.cons path .nil) => by
      rw [ofItems?, ofItems?, nullableText?_congr id, nullableText?_congr path]
  | _, _, .cons id (.cons path (.cons index .nil)) => by
      rw [ofItems?, ofItems?, nullableText?_congr id, nullableText?_congr path, bool?_congr index]
  | _, _, .cons id (.cons path (.cons index (.cons children beyond))) => by
      rw [ofItems?, ofItems?, nullableText?_congr id, nullableText?_congr path, bool?_congr index,
        listOfJson?_congr children, admits_congr beyond]

theorem listOfJson?_congr : ∀ {value other : Json}, Same value other →
    listOfJson? surplus value = listOfJson? surplus other
  | _, _, .refl _ => rfl
  | _, _, .array items => by rw [listOfJson?, listOfJson?, listOfItems?_congr items]
  | _, _, .object _ _ => by rw [listOfJson?, listOfJson?] <;> simp

theorem listOfItems?_congr : ∀ {items others : List Json},
    SameItems items others → listOfItems? surplus items = listOfItems? surplus others
  | _, _, .nil => rfl
  | _, _, .cons first rest => by
      rw [listOfItems?, listOfItems?, ofJson?_congr first, listOfItems?_congr rest]

end

end Description

/-! ## Records -/

namespace Json

/-- A field is absent from both records, or its values are the same. -/
abbrev SameField : Option Json → Option Json → Prop := Option.Rel Same

theorem SameField.refl : ∀ field : Option Json, SameField field field
  | none => .none
  | some value => .some (.refl value)

/-- The records have the same fields. -/
abbrev SameRecord : List (Option Json) → List (Option Json) → Prop :=
  List.Forall₂ SameField

theorem SameRecord.refl (record : List (Option Json)) : SameRecord record record :=
  List.forall₂_same.mpr fun field _ => .refl field

theorem fieldOr?_congr {α : Type} {absent : α} {read : Json → Option α}
    (congr : ∀ {value other : Json}, Same value other → read value = read other)
    {field otherField : Option Json} (same : SameField field otherField) :
    fieldOr? absent read field = fieldOr? absent read otherField := by
  cases same with
  | none => rfl
  | some same => exact congr same

theorem SameFields.filter (named : String → Bool) :
    ∀ {fields others : List (String × Json)}, SameFields fields others →
      SameFields (fields.filter fun field => named field.1)
        (others.filter fun field => named field.1)
  | _, _, .nil => .nil
  | (name, _) :: _, _, .cons value rest => by
      cases kept : named name with
      | false => simpa [kept] using filter named rest
      | true => simpa [kept] using SameFields.cons value (filter named rest)

theorem uniqueField?_perm {fields others : List (String × Json)} (reordered : fields.Perm others)
    (name : String) : uniqueField? fields name = uniqueField? others name := by
  have filtered := reordered.filter (·.1 = name)
  unfold uniqueField?
  generalize fields.filter (·.1 = name) = found at filtered
  generalize others.filter (·.1 = name) = otherFound at filtered
  have sameLength := filtered.length_eq
  rcases found with _ | ⟨first, _ | ⟨second, rest⟩⟩
  · rw [← filtered.nil_eq]
  · rw [List.perm_singleton.mp filtered.symm]
  · rcases otherFound with _ | ⟨otherFirst, _ | ⟨otherSecond, otherRest⟩⟩
    · simp at sameLength
    · simp at sameLength
    · rfl

theorem uniqueField?_congr {fields others : List (String × Json)} (same : SameFields fields others)
    (name : String) :
    Option.Rel SameField (uniqueField? fields name) (uniqueField? others name) := by
  have filtered := same.filter (· = name)
  unfold uniqueField?
  generalize fields.filter (·.1 = name) = found at filtered
  generalize others.filter (·.1 = name) = otherFound at filtered
  rcases filtered with _ | ⟨value, _ | ⟨_, _⟩⟩
  · exact .some .none
  · exact .some (.some value)
  · exact .none

theorem mapM_congr {α β : Type} {holds : β → β → Prop} {read other : α → Option β}
    (congr : ∀ item, Option.Rel holds (read item) (other item)) (items : List α) :
    Option.Rel (List.Forall₂ holds) (items.mapM read) (items.mapM other) := by
  induction items with
  | nil => exact .some .nil
  | cons first rest ih =>
      rw [List.mapM_cons, List.mapM_cons]
      have same := congr first
      generalize read first = found at same
      generalize other first = otherFound at same
      generalize rest.mapM read = all at ih
      generalize rest.mapM other = otherAll at ih
      rcases same with same | _
      · rcases ih with others | _
        · exact .some (.cons same others)
        · exact .none
      · exact .none

theorem positionalFields_congr : ∀ (count : Nat) {items others : List Json},
    SameItems items others →
      SameRecord (positionalFields count items).1 (positionalFields count others).1 ∧
        SameItems (positionalFields count items).2 (positionalFields count others).2
  | 0, _, _, same => ⟨.nil, same⟩
  | count + 1, _, _, .nil => ⟨.refl _, .nil⟩
  | count + 1, _, _, .cons first rest => by
      obtain ⟨fields, beyond⟩ := positionalFields_congr count rest
      exact ⟨.cons (.some first) fields, beyond⟩

theorem recordFields?_congr {value other : Json} (same : Same value other) (surplus : Surplus)
    (names : List String) :
    Option.Rel SameRecord (recordFields? surplus names value)
      (recordFields? surplus names other) := by
  cases same with
  | refl value =>
      cases recordFields? surplus names value with
      | none => exact .none
      | some record => exact .some (.refl record)
  | array items =>
      obtain ⟨fields, beyond⟩ := positionalFields_congr names.length items
      simp only [recordFields?, admits_congr beyond]
      split_ifs
      · exact .some fields
      · exact .none
  | object fields reordered =>
      apply mapM_congr
      intro name
      rw [← uniqueField?_perm reordered]
      exact uniqueField?_congr fields name

end Json

open Json (text?_congr bool?_congr fieldOr?_congr recordFields?_congr)

theorem Codegen.Settings.ofJson?_congr {surplus : Surplus} {value other : Json}
    (same : Json.Same value other) : ofJson? surplus value = ofJson? surplus other := by
  have records := recordFields?_congr same surplus fieldNames
  unfold ofJson?
  generalize Json.recordFields? surplus fieldNames value = record at records
  generalize Json.recordFields? surplus fieldNames other = otherRecord at records
  rcases records with fields | _
  · rcases fields with _ | ⟨moduleName, _ | ⟨emitPaths, _ | ⟨emitParams, _ | ⟨derives, _ | _⟩⟩⟩⟩
    case cons.cons.cons.cons.nil =>
      simp only [fieldOr?_congr text?_congr moduleName, fieldOr?_congr bool?_congr emitPaths,
        fieldOr?_congr bool?_congr emitParams, fieldOr?_congr bool?_congr derives]
    all_goals rfl
  · rfl

/-- A route file may have its fields in any order, and so may everything in it. -/
theorem RouteFile.ofJson?_congr {surplus : Surplus} {value other : Json}
    (same : Json.Same value other) : ofJson? surplus value = ofJson? surplus other := by
  have records := recordFields?_congr same surplus fieldNames
  unfold ofJson?
  generalize Json.recordFields? surplus fieldNames value = record at records
  generalize Json.recordFields? surplus fieldNames other = otherRecord at records
  rcases records with fields | _
  · rcases fields with _ | ⟨routes, _ | ⟨codegen, _ | _⟩⟩
    case cons.cons.nil =>
      simp only [fieldOr?_congr Description.listOfJson?_congr routes,
        fieldOr?_congr Codegen.Settings.ofJson?_congr codegen]
    all_goals rfl
  · rfl

end RouteTree
