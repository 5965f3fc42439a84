import RouteTree.Proofs.FieldOrder

/-!
# Written route files

A route file is read back from what it is written as, whatever the order of the fields.
Each field of a route is written exactly if it says something, and what is read where it
is missing is what it was when it was left out. So an id or a path that is absent stays
apart from one that is empty.
-/

namespace RouteTree

open Json (Surplus)

@[simp]
theorem Json.nullableText?_text (content : String) :
    nullableText? (.text content) = some (some content) := rfl

@[simp]
theorem Json.bool?_bool (flag : Bool) : bool? (.bool flag) = some flag := rfl

/-! ## One field of a route -/

namespace DescriptionField

def name : DescriptionField → String
  | .id => "id"
  | .path => "path"
  | .index => "index"
  | .children => "children"

/-- The description says something in the field. -/
def IsSaid (description : Description) : DescriptionField → Prop
  | .id => description.id ≠ none
  | .path => description.path ≠ none
  | .index => description.index = true
  | .children => description.children ≠ []

/-- The field as the description is written with it, if it is. -/
def written (description : Description) : DescriptionField → List (String × Json)
  | .id => description.id.toList.map fun id => ("id", .text id)
  | .path => description.path.toList.map fun path => ("path", .text path)
  | .index => if description.index then [("index", .bool true)] else []
  | .children =>
      if description.children.isEmpty then []
      else [("children", .array (Description.listToJson description.children))]

/-- The draft once the field of the description is read. -/
def entered (description : Description) (draft : DescriptionDraft) :
    DescriptionField → DescriptionDraft
  | .id => { draft with id := description.id.map some }
  | .path => { draft with path := description.path.map some }
  | .index => { draft with index := if description.index then some true else none }
  | .children =>
      { draft with
        children := if description.children.isEmpty then none else some description.children }

variable {surplus : Surplus} {description : Description} {draft : DescriptionDraft}

theorem mem_written_iff {field : DescriptionField} {other : String} :
    other ∈ (field.written description).map Prod.fst ↔
      other = field.name ∧ field.IsSaid description := by
  obtain ⟨id, path, index, children⟩ := description
  cases field with
  | id => cases id <;> simp [written, IsSaid, name, eq_comm]
  | path => cases path <;> simp [written, IsSaid, name, eq_comm]
  | index => cases index <;> simp [written, IsSaid, name]
  | children => cases children <;> simp [written, IsSaid, name]

/-- A field is read from what it is written as, provided that the children are. -/
theorem ofFields?_written {field : DescriptionField} (missing : field.isFilled draft = false)
    (children : Description.listOfItems? surplus (Description.listToJson description.children) =
      some description.children) :
    Description.ofFields? surplus draft (field.written description) =
      some (field.entered description draft) := by
  obtain ⟨draftId, draftPath, draftIndex, draftChildren⟩ := draft
  cases field with
  | id =>
      obtain rfl : draftId = none := by simpa [isFilled] using missing
      rw [written, entered]
      cases description.id <;> simp [Description.ofFields?]
  | path =>
      obtain rfl : draftPath = none := by simpa [isFilled] using missing
      rw [written, entered]
      cases description.path <;> simp [Description.ofFields?]
  | index =>
      obtain rfl : draftIndex = none := by simpa [isFilled] using missing
      rw [written, entered]
      cases description.index <;> simp [Description.ofFields?]
  | children =>
      obtain rfl : draftChildren = none := by simpa [isFilled] using missing
      rw [written, entered]
      split_ifs
      · simp [Description.ofFields?]
      · simp [Description.ofFields?, Description.listOfJson?, children]

end DescriptionField

/-! ## One route -/

namespace Description

open DescriptionField

variable {surplus : Surplus}

theorem toJson_eq_object (description : Description) :
    description.toJson = .object
      (written description .id ++ written description .path ++ written description .index ++
        written description .children) := by
  obtain ⟨id, path, index, children⟩ := description
  rw [toJson]
  rfl

/-- A field is written exactly if the description says something in it. -/
theorem exists_toJson_eq_object (description : Description) :
    ∃ fields, description.toJson = .object fields ∧
      ∀ name, name ∈ fields.map Prod.fst ↔
        ∃ field : DescriptionField, name = field.name ∧ field.IsSaid description := by
  refine ⟨_, toJson_eq_object description, ?_⟩
  intro name
  simp only [List.map_append, List.mem_append, mem_written_iff]
  constructor
  · rintro (((said | said) | said) | said)
    · exact ⟨_, said⟩
    · exact ⟨_, said⟩
    · exact ⟨_, said⟩
    · exact ⟨_, said⟩
  · rintro ⟨field, said⟩
    cases field with
    | id => exact .inl (.inl (.inl said))
    | path => exact .inl (.inl (.inr said))
    | index => exact .inl (.inr said)
    | children => exact .inr said

/-- Where a field is left out, the draft is finished with what was not said. -/
theorem finish_entered (description : Description) :
    DescriptionDraft.finish (entered description (entered description
      (entered description (entered description {} .id) .path) .index) .children) =
        description := by
  obtain ⟨id, path, index, children⟩ := description
  cases id <;> cases path <;> cases index <;> cases children <;> rfl

theorem ofFields?_append (draft : DescriptionDraft) (fields rest : List (String × Json)) :
    ofFields? surplus draft (fields ++ rest) =
      (ofFields? surplus draft fields).bind fun draft => ofFields? surplus draft rest := by
  simp only [ofFields?_eq_foldlM, List.foldlM_append, Option.bind_eq_bind]

mutual

theorem ofJson?_toJson : ∀ description : Description,
    ofJson? surplus (toJson description) = some description
  | ⟨id, path, index, children⟩ => by
      have below := listOfItems?_listToJson children
      rw [toJson_eq_object, ofJson?]
      simp only [ofFields?_append]
      rw [ofFields?_written rfl below, Option.bind_some, ofFields?_written rfl below,
        Option.bind_some, ofFields?_written rfl below, Option.bind_some,
        ofFields?_written rfl below, Option.map_some, finish_entered]

theorem listOfItems?_listToJson : ∀ descriptions : List Description,
    listOfItems? surplus (listToJson descriptions) = some descriptions
  | [] => by rw [listToJson, listOfItems?]
  | first :: rest => by
      rw [listToJson, listOfItems?, ofJson?_toJson first, listOfItems?_listToJson rest]
      rfl

end

end Description

/-! ## Files -/

theorem Codegen.Settings.ofJson?_toJson (surplus : Surplus) (settings : Codegen.Settings) :
    ofJson? surplus settings.toJson = some settings := by
  rfl

theorem RouteFile.ofJson?_toJson (surplus : Surplus) (file : RouteFile) :
    ofJson? surplus file.toJson = some file := by
  have routes : Description.listOfJson? surplus (.array (Description.listToJson file.routes)) =
      some file.routes := by
    rw [Description.listOfJson?, Description.listOfItems?_listToJson]
  have record : Json.recordFields? surplus fieldNames file.toJson =
      some [some (.array (Description.listToJson file.routes)), some file.codegen.toJson] := rfl
  rw [ofJson?, record]
  simp only [Json.fieldOr?, routes, Codegen.Settings.ofJson?_toJson, Option.bind_some,
    Option.map_some]

/-- A route file is read back from its written form, in whatever order the fields of each
object come, although a route is written with those fields only in which it says
something. -/
theorem written_files_read_back (file : RouteFile) (surplus : Surplus) :
    (∀ value, Json.Same file.toJson value → RouteFile.ofJson? surplus value = some file) ∧
      ∀ description : Description, ∃ fields, description.toJson = .object fields ∧
        ∀ name, name ∈ fields.map Prod.fst ↔
          ∃ field : DescriptionField, name = field.name ∧ field.IsSaid description := by
  refine ⟨?_, Description.exists_toJson_eq_object⟩
  intro value same
  rw [← RouteFile.ofJson?_congr same]
  exact RouteFile.ofJson?_toJson surplus file

/-- A layout with an empty id and a child without one, from objects with their fields in
the order of the names. -/
theorem sorted_layout_read_back :
    RouteFile.ofJson? .refused
      (.object [
        ("codegen", .object [("derive_serde", .bool false), ("emit_params", .bool true),
          ("emit_paths", .bool true), ("module_name", .text "routes")]),
        ("routes", .array [.object [
          ("children", .array [.object [("path", .text "")]]),
          ("id", .text "")]])]) =
      some { routes := [{ id := some "", children := [{ path := some "" }] }] } := by
  have layout : Json.Same
      (Description.toJson { id := some "", children := [{ path := some "" }] })
      (.object [("children", .array [.object [("path", .text "")]]), ("id", .text "")]) :=
    .of_perm (.swap _ _ _)
  have settings : Json.Same (Codegen.Settings.toJson {})
      (.object [("derive_serde", .bool false), ("emit_params", .bool true),
        ("emit_paths", .bool true), ("module_name", .text "routes")]) :=
    .of_perm (List.reverse_perm _).symm
  exact (written_files_read_back _ .refused).1 _
    (.object (.cons (.array (.cons layout .nil)) (.cons settings .nil)) (.swap _ _ _))

end RouteTree
