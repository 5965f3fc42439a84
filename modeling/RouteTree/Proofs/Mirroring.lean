import RouteTree.Proofs.Acceptance
import RouteTree.Proofs.Enumeration

/-!
# The enum mirrors its table

Each route is one variant, in preorder, with its own id as text and the variant
of its parent as parent. The constant lists all variants and carries the search
for an id, but its name is not kept from the routes: an id that asks for the
same name gets it, and then neither the list nor the search is to be had.
-/

namespace RouteTree.Codegen

/-! ## What the enum says -/

namespace Enumeration

/-- What a name stands for after the name of the enum. -/
inductive Meaning where
  | variant (name : String)
  | members (names : List String)
deriving DecidableEq, Repr

/-- A variant hides a constant of the same name. -/
def meaningOf? (source : Enumeration) (name : String) : Option Meaning :=
  if name ∈ source.variants then some (.variant name)
  else if name = source.constant then some (.members source.members)
  else none

def textOf? (source : Enumeration) (variant : String) : Option String :=
  source.texts.lookup variant

def parentOf? (source : Enumeration) (variant : String) : Option (Option String) :=
  source.parents.lookup variant

/-- The first of the listed variants with a text; there is no answer at all where
the name to be searched does not stand for a list. -/
def fromId? (source : Enumeration) (text : String) : Option (Option String) :=
  match source.meaningOf? source.searched with
  | some (.members names) => some (names.find? fun variant => source.textOf? variant = some text)
  | _ => none

/-- The parent of a variant is the variant of the parent of its route. -/
structure HasParent (source : Enumeration) (table : Table) (variant id : String) : Prop where
  root : ∀ record, table.route id = .ok record → record.parentId = none →
    source.parentOf? variant = some none
  below : ∀ record parentId, table.route id = .ok record → record.parentId = some parentId →
    ∃ parent ∈ source.variants, source.textOf? parent = some parentId ∧
      source.parentOf? variant = some (some parent)

/-- The variants stand for the routes in preorder, each with its id and its parent. -/
structure Follows (source : Enumeration) (table : Table) : Prop where
  constant : source.constant = "ALL"
  length : source.length = toString source.members.length ++ "usize"
  members : source.members = source.variants
  distinct : source.variants.Nodup
  texts : source.variants.map source.textOf? = table.ids.map some
  parents : ∀ variant ∈ source.variants, ∃ id ∈ table.ids,
    source.textOf? variant = some id ∧ source.HasParent table variant id

/-- The constant stands for all variants, and its search finds the variant with an
id. -/
structure Lists (source : Enumeration) (table : Table) : Prop where
  distinct : (source.constant :: source.variants).Nodup
  all : source.meaningOf? source.constant = some (.members source.variants)
  known : ∀ variant ∈ source.variants, ∀ id, source.textOf? variant = some id →
    source.fromId? id = some (some variant)
  unknown : ∀ text, text ∉ table.ids → source.fromId? text = some none

variable {source : Enumeration}

theorem meaningOf?_of_not_mem (clear : source.constant ∉ source.variants) :
    source.meaningOf? source.constant = some (.members source.members) := by
  rw [meaningOf?, if_neg clear, if_pos rfl]

theorem meaningOf?_of_mem {name : String} (isVariant : name ∈ source.variants) :
    source.meaningOf? name = some (.variant name) := by
  rw [meaningOf?, if_pos isVariant]

end Enumeration

/-! ## Items by name and by id -/

theorem find?_eq_some_of_unique {α : Type} {items : List α} {item : α} {wanted : α → Bool}
    (member : item ∈ items) (isWanted : wanted item)
    (unique : ∀ other ∈ items, wanted other → other = item) :
    items.find? wanted = some item := by
  have present : (items.find? wanted).isSome := List.find?_isSome.mpr ⟨item, member, isWanted⟩
  obtain ⟨found, search⟩ := Option.isSome_iff_exists.mp present
  have same := unique found (List.mem_of_find?_eq_some search) (List.find?_some search)
  rw [search, same]

theorem lookup_map_eq_some {α : Type} {items : List Item} {item : Item} {value : Item → α}
    (distinct : (items.map Item.variant).Nodup) (member : item ∈ items) :
    (items.map fun item => (item.variant, value item)).lookup item.variant =
      some (value item) := by
  induction items with
  | nil => cases member
  | cons first rest ih =>
      rw [List.map_cons, List.nodup_cons] at distinct
      rw [List.map_cons]
      rcases List.mem_cons.mp member with rfl | member
      · exact List.lookup_cons_self
      · have different : item.variant ≠ first.variant := by
          intro same
          apply distinct.1
          rw [← same]
          exact List.mem_map_of_mem member
        rw [List.lookup_cons, beq_false_of_ne different]
        exact ih distinct.2 member

section Items

variable {table : Table} {item other : Item}

theorem nodup_ids (table : Table) : table.ids.Nodup :=
  (listing_of_flatten table.flatten_forest).2

theorem nodup_variants (table : Table) : ((allItems table).map Item.variant).Nodup := by
  rw [map_variant_allItems]
  exact nodup_freeNames _ _

theorem eq_of_id_eq (member : item ∈ allItems table) (otherMember : other ∈ allItems table)
    (same : item.id = other.id) : item = other := by
  have distinct : ((allItems table).map Item.id).Nodup := by
    rw [map_id_allItems]
    exact nodup_ids table
  exact List.inj_on_of_nodup_map distinct member otherMember same

theorem exists_item_of_mem_ids {id : String} (known : id ∈ table.ids) :
    ∃ item ∈ allItems table, item.id = id := by
  rw [← map_id_allItems] at known
  exact List.mem_map.mp known

theorem variantOf?_eq_some (member : item ∈ allItems table) :
    variantOf? (allItems table) item.id = some item.variant := by
  rw [variantOf?, find?_eq_some_of_unique member (decide_eq_true rfl)]
  · rfl
  · intro other otherMember same
    exact eq_of_id_eq otherMember member (of_decide_eq_true same)

theorem route_of_mem {record : Record} (member : record ∈ table.records.toList) :
    table.route record.id = .ok record := by
  have search : table.records.toList.find? (·.id = record.id) = some record := by
    apply find?_eq_some_of_unique member (decide_eq_true rfl)
    intro other otherMember same
    exact List.inj_on_of_nodup_map (nodup_ids table) otherMember member (of_decide_eq_true same)
  rw [Table.route, Records.get, Record.find, search]

theorem exists_route_of_mem_allItems (member : item ∈ allItems table) :
    ∃ record, table.route item.id = .ok record ∧ item.parentId = record.parentId := by
  obtain ⟨record, recordMember, variant, _, rfl⟩ := exists_record_of_mem_allItems member
  exact ⟨record, route_of_mem recordMember, rfl⟩

theorem parentId_mem_ids {record : Record} {id parentId : String}
    (found : table.route id = .ok record) (isParent : record.parentId = some parentId) :
    parentId ∈ table.ids := by
  have known : id ∈ table.ids := by
    by_contra unknown
    rw [(Table.refuses_of_not_mem unknown).route] at found
    cases found
  obtain ⟨above, node, inside, rfl⟩ := (mem_ids_iff table.flatten_forest).mp known
  have routeFound : table.route node.id = .ok (node.record (lastId none above)) :=
    get_of_descends table.flatten_forest inside
  rw [routeFound] at found
  cases found
  rw [Node.record_parentId, lastId_eq_some_iff_isParent table.flatten_forest inside] at isParent
  obtain ⟨up, parent, _, parentInside, rfl, _⟩ := isParent
  exact (mem_ids_iff table.flatten_forest).mpr ⟨up, parent, parentInside, rfl⟩

theorem plain_of_mem_allItems (member : item ∈ allItems table) : Plain item.variant := by
  have legal := legal_of_mem_allItems member
  constructor
  case text => rw [identifierText, if_neg legal.variantNoKeyword]
  case noComma =>
    obtain ⟨first, rest, letters, starts, _⟩ := legal.variantSpelled
    intro comma
    rw [comma] at letters
    obtain ⟨rfl, rfl⟩ := List.cons.inj letters
    cases starts

end Items

/-! ## The enum of a table -/

/-- The enum that is generated for a table. -/
def enumOf (table : Table) : Enumeration := enumerationOf (allItems table)

section Table

variable {table : Table} {item : Item}

theorem variants_enumOf (table : Table) : (enumOf table).variants = variantsOf table :=
  map_variant_allItems table

theorem textOf?_enumOf (member : item ∈ allItems table) :
    (enumOf table).textOf? item.variant = some item.id :=
  lookup_map_eq_some (nodup_variants table) member

theorem exists_item_of_textOf?_eq {variant id : String}
    (isVariant : variant ∈ (enumOf table).variants)
    (hasText : (enumOf table).textOf? variant = some id) :
    ∃ item ∈ allItems table, item.variant = variant ∧ item.id = id := by
  obtain ⟨item, member, rfl⟩ := List.mem_map.mp isVariant
  rw [textOf?_enumOf member] at hasText
  exact ⟨item, member, rfl, Option.some.inj hasText⟩

theorem mem_ids_of_textOf?_eq {variant id : String} (isVariant : variant ∈ (enumOf table).variants)
    (hasText : (enumOf table).textOf? variant = some id) : id ∈ table.ids := by
  obtain ⟨item, member, _, rfl⟩ := exists_item_of_textOf?_eq isVariant hasText
  exact id_mem_of_mem_allItems member

/-- No two variants have the same text. -/
theorem eq_of_textOf?_eq {variant other id : String}
    (isVariant : variant ∈ (enumOf table).variants) (isOther : other ∈ (enumOf table).variants)
    (hasText : (enumOf table).textOf? variant = some id)
    (otherHasText : (enumOf table).textOf? other = some id) : variant = other := by
  obtain ⟨item, member, rfl, rfl⟩ := exists_item_of_textOf?_eq isVariant hasText
  obtain ⟨otherItem, otherMember, rfl, sameId⟩ := exists_item_of_textOf?_eq isOther otherHasText
  rw [eq_of_id_eq member otherMember sameId.symm]

theorem parentOf?_enumOf (member : item ∈ allItems table) :
    (enumOf table).parentOf? item.variant =
      some (item.parentId.bind (variantOf? (allItems table))) :=
  lookup_map_eq_some (nodup_variants table) member

theorem hasParent_enumOf (member : item ∈ allItems table) :
    (enumOf table).HasParent table item.variant item.id := by
  obtain ⟨record, found, sameParent⟩ := exists_route_of_mem_allItems member
  have parent := parentOf?_enumOf member
  rw [sameParent] at parent
  constructor
  case root =>
    intro other otherFound isRoot
    rw [found] at otherFound
    cases otherFound
    rw [parent, isRoot]
    rfl
  case below =>
    intro other parentId otherFound isParent
    rw [found] at otherFound
    cases otherFound
    obtain ⟨above, aboveMember, rfl⟩ := exists_item_of_mem_ids (parentId_mem_ids found isParent)
    refine ⟨above.variant, List.mem_map_of_mem aboveMember, textOf?_enumOf aboveMember, ?_⟩
    rw [parent, isParent, Option.bind_some, variantOf?_eq_some aboveMember]

theorem follows_enumOf (table : Table) : (enumOf table).Follows table where
  constant := rfl
  length := by simp [enumOf, enumerationOf]
  members := rfl
  distinct := nodup_variants table
  texts := by
    have each : ∀ item ∈ allItems table, (enumOf table).textOf? item.variant = some item.id :=
      fun item member => textOf?_enumOf member
    have listed : (enumOf table).variants = (allItems table).map Item.variant := rfl
    rw [← map_id_allItems, List.map_map, listed, List.map_map]
    exact List.map_congr_left each
  parents := by
    intro variant isVariant
    obtain ⟨item, member, rfl⟩ := List.mem_map.mp isVariant
    exact ⟨item.id, id_mem_of_mem_allItems member, textOf?_enumOf member,
      hasParent_enumOf member⟩

/-- A route gets the name of the constant exactly if some id asks for it. -/
theorem constant_mem_variantsOf_iff :
    "ALL" ∈ variantsOf table ↔ ∃ id ∈ table.ids, variantName id = "ALL" := by
  constructor
  · intro member
    obtain ⟨id, known, taken, same⟩ := exists_id_of_mem_variantsOf member
    have noNumber : ¬ endsInDigit (freeName taken (variantName id)).toList := by
      rw [← same]
      decide
    rw [freeName_eq_self noNumber] at same
    exact ⟨id, known, same.symm⟩
  · rintro ⟨id, known, asked⟩
    have requested : "ALL" ∈ table.ids.map variantName := by
      rw [← asked]
      exact List.mem_map_of_mem known
    have granted : "ALL" ∈ ([] : List String) ∨ "ALL" ∈ variantsOf table :=
      mem_taken_or_mem_freeNames requested
    exact granted.resolve_left List.not_mem_nil

theorem lists_of_clear (clear : "ALL" ∉ variantsOf table) : (enumOf table).Lists table := by
  let source := enumOf table
  have notVariant : source.constant ∉ source.variants := by
    rw [variants_enumOf]
    exact clear
  have all : source.meaningOf? source.constant = some (.members source.variants) :=
    Enumeration.meaningOf?_of_not_mem notVariant
  have searches : ∀ text, source.fromId? text =
      some (source.variants.find? fun variant => source.textOf? variant = some text) := by
    intro text
    have searched : source.meaningOf? source.searched = some (.members source.variants) := all
    rw [Enumeration.fromId?, searched]
  constructor
  case distinct => exact List.nodup_cons.mpr ⟨notVariant, nodup_variants table⟩
  case all => exact all
  case known =>
    intro variant isVariant id hasText
    rw [searches]
    apply congrArg some
    apply find?_eq_some_of_unique isVariant (decide_eq_true hasText)
    intro other isOther sameText
    exact eq_of_textOf?_eq isOther isVariant (of_decide_eq_true sameText) hasText
  case unknown =>
    intro text unknown
    rw [searches]
    apply congrArg some
    apply List.find?_eq_none.mpr
    intro variant isVariant hasText
    exact unknown (mem_ids_of_textOf?_eq isVariant (of_decide_eq_true hasText))

theorem lists_enumOf_iff :
    (enumOf table).Lists table ↔ ∀ id ∈ table.ids, variantName id ≠ "ALL" := by
  constructor
  · intro lists id known asked
    have clash := constant_mem_variantsOf_iff.mpr ⟨id, known, asked⟩
    rw [← variants_enumOf] at clash
    exact (List.nodup_cons.mp lists.distinct).1 clash
  · intro noneAsks
    apply lists_of_clear
    intro clash
    obtain ⟨id, known, asked⟩ := constant_mem_variantsOf_iff.mp clash
    exact noneAsks id known asked

/-- A route with the name of the constant takes the list away, and the search with it. -/
theorem hidden_of_clash (clash : "ALL" ∈ variantsOf table) :
    (enumOf table).meaningOf? "ALL" = some (.variant "ALL") ∧
      ∀ text, (enumOf table).fromId? text = none := by
  let source := enumOf table
  have hidden : source.meaningOf? "ALL" = some (.variant "ALL") := by
    apply Enumeration.meaningOf?_of_mem
    rw [variants_enumOf]
    exact clash
  refine ⟨hidden, ?_⟩
  intro text
  have searched : source.meaningOf? source.searched = some (.variant "ALL") := hidden
  rw [Enumeration.fromId?, searched]

theorem exists_readEnumeration (table : Table)
    (targets : Option (List (String × SortedSet String))) :
    itemsOf table = .ok (allItems table) ∧
      readEnumeration (routeIdTokens (allItems table) targets) =
        some (enumOf table) :=
  ⟨itemsOf_eq_ok table,
    readEnumeration_routeIdTokens (fun _ member => plain_of_mem_allItems member) targets⟩

end Table

/-- The enum of any table has one variant for each route, in preorder, with its id
as text and the variant of its parent as parent. The constant lists them all
and the search finds exactly the ids of the table, unless an id asks for the
name of the constant: then the variant hides the list, and the search is left
without an answer. -/
theorem enumeration_mirrors_table (table : Table)
    (targets : Option (List (String × SortedSet String))) :
    ∃ items source, itemsOf table = .ok items ∧
      readEnumeration (routeIdTokens items targets) = some source ∧ source.Follows table ∧
      (source.Lists table ↔ ∀ id ∈ table.ids, variantName id ≠ "ALL") ∧
      ((∃ id ∈ table.ids, variantName id = "ALL") →
        source.meaningOf? source.constant = some (.variant source.constant) ∧
          ∀ text, source.fromId? text = none) := by
  obtain ⟨made, read⟩ := exists_readEnumeration table targets
  refine ⟨_, _, made, read, follows_enumOf table, lists_enumOf_iff, ?_⟩
  intro someAsks
  exact hidden_of_clash (constant_mem_variantsOf_iff.mpr someAsks)

/-- In the small table no id asks for the name, so its page can be searched for, and
an id that no route has is not found. -/
theorem project_enumeration :
    ∃ items source, itemsOf Sample.table = .ok items ∧
      readEnumeration (routeIdTokens items none) = some source ∧
      source.variants = ["Home", "Index", "Frame", "Project", "Page"] ∧
      source.textOf? "Page" = some "page" ∧ source.fromId? "page" = some (some "Page") ∧
      source.fromId? "nowhere" = some none := by
  obtain ⟨items, source, made, read, follows, lists, _⟩ :=
    enumeration_mirrors_table Sample.table none
  obtain ⟨listed, readListed⟩ := exists_readEnumeration Sample.table none
  cases made.symm.trans listed
  cases read.symm.trans readListed
  have noneAsks : ∀ id ∈ Sample.table.ids, variantName id ≠ "ALL" := by decide +kernel
  have listsAll := lists.mpr noneAsks
  have variants : (enumOf Sample.table).variants =
      ["Home", "Index", "Frame", "Project", "Page"] := by
    rw [variants_enumOf]
    decide +kernel
  have isPage : (enumOf Sample.table).textOf? "Page" = some "page" := by
    have texts := follows.texts
    have ids : Sample.table.ids = ["home", "index", "frame", "project", "page"] := rfl
    rw [variants, ids] at texts
    simp only [List.map_cons, List.cons.injEq] at texts
    exact texts.2.2.2.2.1
  refine ⟨_, _, made, read, variants, isPage, ?_, listsAll.unknown "nowhere" (by decide)⟩
  apply listsAll.known "Page" _ "page" isPage
  rw [variants]
  decide

namespace Sample

def capitals : Node := ⟨"/ALL", some "ALL", false, []⟩

theorem flatten_capitals : flatten [capitals] = .ok ⟨[capitals.record none]⟩ := by rfl

/-- The only route has the name of the constant. -/
def clashing : Table := ⟨[capitals], _, flatten_capitals⟩

end Sample

/-- The variant of a route at `ALL` has the name of the constant: the two are not
different names, the name no longer means the list, and the id of the only route
is not found. -/
theorem constant_hidden :
    Table.ofDescriptions [Description.ofPath "ALL"] = .ok Sample.clashing ∧
      Sample.clashing.ids = ["/ALL"] ∧
      ∃ items source, itemsOf Sample.clashing = .ok items ∧
        readEnumeration (routeIdTokens items none) = some source ∧
        source.constant = "ALL" ∧ source.variants = ["ALL"] ∧
        ¬ (source.constant :: source.variants).Nodup ∧
        source.meaningOf? "ALL" = some (.variant "ALL") ∧
        source.textOf? "ALL" = some "/ALL" ∧ source.fromId? "/ALL" ≠ some (some "ALL") := by
  have accepted : Table.ofDescriptions [Description.ofPath "ALL"] = .ok Sample.clashing := by
    have normalized : normalize [Description.ofPath "ALL"] = .ok [Sample.capitals] := by rfl
    rw [Table.ofDescriptions, normalized, Except.bind,
      Table.ofForest_eq_ok Sample.flatten_capitals]
    rfl
  have named : variantsOf Sample.clashing = ["ALL"] := by decide +kernel
  have variants : (enumOf Sample.clashing).variants = ["ALL"] := by
    rw [variants_enumOf, named]
  have clash : "ALL" ∈ variantsOf Sample.clashing := by
    rw [named]
    exact List.mem_singleton.mpr rfl
  obtain ⟨hidden, noSearch⟩ := hidden_of_clash clash
  obtain ⟨made, read⟩ := exists_readEnumeration Sample.clashing none
  have texts := (follows_enumOf Sample.clashing).texts
  rw [variants] at texts
  refine ⟨accepted, rfl, _, _, made, read, rfl, variants, ?_, hidden, ?_, ?_⟩
  · rw [variants]
    decide
  · exact (List.cons.inj texts).1
  · rw [noSearch]
    simp

end RouteTree.Codegen
