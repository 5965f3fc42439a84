import RouteTree.Proofs.Answers
import RouteTree.Proofs.Identifiers

/-!
# What is generated for each route

Every route of a table has one item, in preorder. Its variant is the free name
that the ids before it leave, and its fields are those of its merged
parameters. All these names are distinct where they have to be, are spelled as
names of their kind, and can be written as identifiers, so that nothing that
is generated for an accepted tree fails to be source.
-/

namespace RouteTree.Codegen

open Params

/-! ## The items of a table -/

/-- What can be read off each pair is there again. -/
theorem map_zipWith_eq_right {α β γ : Type} {combine : α → β → γ} {read : γ → β}
    {first : List α} {second : List β} (reads : ∀ item other, read (combine item other) = other)
    (fits : second.length ≤ first.length) :
    (List.zipWith combine first second).map read = second := by
  have listed := List.map_snd_zip fits
  rw [List.map_zipWith]
  conv_rhs => rw [← listed, List.map_zip_eq_zipWith]
  simp only [reads]
  rfl

theorem length_variantsOf (table : Table) :
    (variantsOf table).length = table.records.toList.length := by
  rw [variantsOf, length_freeNames, List.length_map, Table.ids, Records.ids, List.length_map]

theorem map_id_allItems (table : Table) : (allItems table).map Item.id = table.ids := by
  have listed := List.map_fst_zip (length_variantsOf table).symm.le
  rw [allItems, List.map_zipWith, Table.ids, Records.ids]
  conv_rhs => rw [← listed, List.map_map, List.map_zip_eq_zipWith]
  rfl

theorem map_variant_allItems (table : Table) :
    (allItems table).map Item.variant = variantsOf table :=
  map_zipWith_eq_right (fun _ _ => rfl) (length_variantsOf table).le

/-! ## Fields -/

theorem map_name_fieldsOf (shape : Shape) :
    (fieldsOf shape).map Field.name =
      freeNames [] (shape.entries.map fun entry => fieldName entry.1) := by
  have sameLength : (freeNames [] (shape.entries.map fun entry => fieldName entry.1)).length =
      shape.entries.length := by
    rw [length_freeNames, List.length_map]
  exact map_zipWith_eq_right (fun _ _ => rfl) sameLength.le

theorem nodup_fieldsOf (shape : Shape) : ((fieldsOf shape).map Field.name).Nodup := by
  rw [map_name_fieldsOf]
  exact nodup_freeNames _ _

theorem exists_param_of_mem_fieldsOf {shape : Shape} {field : Field}
    (member : field ∈ fieldsOf shape) :
    ∃ param taken, field.name = freeName taken (fieldName param) := by
  have named : field.name ∈ (fieldsOf shape).map Field.name := List.mem_map_of_mem member
  rw [map_name_fieldsOf] at named
  obtain ⟨request, requested, taken, same⟩ := exists_request_of_mem_freeNames named
  obtain ⟨entry, _, rfl⟩ := List.mem_map.mp requested
  exact ⟨entry.1, taken, same⟩

theorem spelled_of_mem_fieldsOf {shape : Shape} {field : Field} (member : field ∈ fieldsOf shape) :
    Spelled fieldAlphabet field.name := by
  obtain ⟨param, taken, same⟩ := exists_param_of_mem_fieldsOf member
  rw [same]
  exact (spelled_fieldName param).freeName taken

theorem not_reserved_of_mem_fieldsOf {shape : Shape} {field : Field}
    (member : field ∈ fieldsOf shape) : field.name ∉ "_" :: pathKeywords := by
  have notUnderscore := (spelled_of_mem_fieldsOf member).ne_underscore
  obtain ⟨param, taken, same⟩ := exists_param_of_mem_fieldsOf member
  have notPlace : field.name ∉ pathKeywords := by
    rw [same]
    apply freeName_not_reserved taken (fieldName_not_mem_pathKeywords param)
    decide
  intro reserved
  rcases List.mem_cons.mp reserved with isUnderscore | isPlace
  · exact notUnderscore isUnderscore
  · exact notPlace isPlace

/-! ## Variants -/

section Variants

variable {table : Table} {variant : String}

theorem exists_id_of_mem_variantsOf (member : variant ∈ variantsOf table) :
    ∃ id ∈ table.ids, ∃ taken, variant = freeName taken (variantName id) := by
  obtain ⟨request, requested, taken, same⟩ := exists_request_of_mem_freeNames member
  obtain ⟨id, known, rfl⟩ := List.mem_map.mp requested
  exact ⟨id, known, taken, same⟩

theorem spelled_of_mem_variantsOf (member : variant ∈ variantsOf table) :
    Spelled variantAlphabet variant := by
  obtain ⟨id, _, taken, rfl⟩ := exists_id_of_mem_variantsOf member
  exact (spelled_variantName id).freeName taken

theorem not_keyword_of_mem_variantsOf (member : variant ∈ variantsOf table) :
    variant ∉ keywords := by
  apply not_mem_keywords_of_capital (spelled_of_mem_variantsOf member)
  obtain ⟨id, _, taken, rfl⟩ := exists_id_of_mem_variantsOf member
  apply freeName_not_reserved taken (variantName_not_mem_pathKeywords id)
  decide

end Variants

/-! ## Legal names -/

/-- Every name that is written for an item. -/
def Item.names (item : Item) : List String :=
  item.variant :: item.recordName :: item.fields.map Field.name

/-- An item whose names are all legal. -/
structure Item.Legal (item : Item) : Prop where
  variantSpelled : Spelled variantAlphabet item.variant
  variantNoKeyword : item.variant ∉ keywords
  fieldsDistinct : (item.fields.map Field.name).Nodup
  fieldsSpelled : ∀ field ∈ item.fields, Spelled fieldAlphabet field.name
  fieldsNotReserved : ∀ field ∈ item.fields, field.name ∉ ["_", "crate", "self", "super", "Self"]
  namesWritable : ∀ name ∈ item.names, Writable name

theorem spelled_recordName {item : Item} (spelled : Spelled variantAlphabet item.variant) :
    Spelled variantAlphabet item.recordName := by
  apply spelled.append
  simp [variantAlphabet]

theorem not_mem_pathKeywords_recordName (item : Item) : item.recordName ∉ pathKeywords := by
  intro member
  have otherEnds : ∀ keyword ∈ pathKeywords, ¬ "Params".toList <:+ keyword.toList := by decide
  apply otherEnds _ member
  rw [Item.recordName, String.toList_append]
  exact List.suffix_append _ _

theorem legal_of_mem_allItems {table : Table} {item : Item} (member : item ∈ allItems table) :
    item.Legal := by
  obtain ⟨record, _, variant, inVariants, rfl⟩ := exists_record_of_mem_allItems member
  have spelled : Spelled variantAlphabet variant := spelled_of_mem_variantsOf inVariants
  have noKeyword : variant ∉ keywords := not_keyword_of_mem_variantsOf inVariants
  constructor
  case variantSpelled => exact spelled
  case variantNoKeyword => exact noKeyword
  case fieldsDistinct => exact nodup_fieldsOf _
  case fieldsSpelled => exact fun field inFields => spelled_of_mem_fieldsOf inFields
  case fieldsNotReserved => exact fun field inFields => not_reserved_of_mem_fieldsOf inFields
  case namesWritable =>
    intro name isName
    rcases List.mem_cons.mp isName with rfl | isName
    · exact Or.inl ⟨noKeyword, identifierOfText?_eq_self spelled.identifier_of_variant noKeyword⟩
    · rcases List.mem_cons.mp isName with rfl | isField
      · have recordSpelled : Spelled variantAlphabet (itemFor table record variant).recordName :=
          spelled_recordName spelled
        have recordNoKeyword := not_mem_keywords_of_capital recordSpelled
          (not_mem_pathKeywords_recordName _)
        exact Or.inl ⟨recordNoKeyword,
          identifierOfText?_eq_self recordSpelled.identifier_of_variant recordNoKeyword⟩
      · obtain ⟨field, inFields, rfl⟩ := List.mem_map.mp isField
        exact (spelled_of_mem_fieldsOf inFields).identifier_of_field.writable
          (not_reserved_of_mem_fieldsOf inFields)

/-- The variants of an accepted tree are distinct in the whole tree, and its fields in
their record. All are ASCII names of their kind, no variant is a keyword, and no
field is one of the names that cannot even be written raw; so every name is
read as an identifier or is a keyword that has a raw form. -/
theorem generated_names_legal (table : Table) :
    ∃ items, itemsOf table = .ok items ∧ items.map Item.id = table.ids ∧
      (items.map Item.variant).Nodup ∧ ∀ item ∈ items, item.Legal := by
  refine ⟨allItems table, itemsOf_eq_ok table, map_id_allItems table, ?_, ?_⟩
  · rw [map_variant_allItems]
    exact nodup_freeNames _ _
  · exact fun item member => legal_of_mem_allItems member

end RouteTree.Codegen
