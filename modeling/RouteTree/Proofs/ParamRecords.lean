import RouteTree.Proofs.Enumeration

/-!
# Records of parameters

The records are read back from their tokens: their names, what is derived for
them, their fields with their types and attributes, and the statements that
turn a record into a map. A field is serialized under the key of its attribute
if it has one, and under its own name otherwise; the mark of a raw identifier
is no part of the name.
-/

namespace RouteTree.Codegen

open Params
open Token

/-- What an attribute tells a serializer. -/
inductive FieldOption where
  | rename (key : String)
  | default
  | skipIf (test : String)
deriving DecidableEq, Repr

structure RecordField where
  name : String
  options : List FieldOption
  need : Need
deriving DecidableEq, Repr

/-- A statement that stores a field under a key, or does so if the field has a value. -/
structure Insertion where
  key : String
  field : String
  guarded : Bool
deriving DecidableEq, Repr

structure ParamRecord where
  name : String
  derives : List String
  fields : List RecordField
  insertions : List Insertion
deriving DecidableEq, Repr

/-! ## Reading records -/

/-- An identifier without the mark of its raw form. -/
def bareName (identifier : String) : String :=
  match identifier.toList with
  | 'r' :: '#' :: letters => String.ofList letters
  | _ => identifier

def readOption : List Token → Option FieldOption
  | [.word "rename", .word "=", key] => (readLiteral key).map .rename
  | [.word "default"] => some .default
  | [.word "skip_serializing_if", .word "=", test] => (readLiteral test).map .skipIf
  | _ => none

def readType : List Token → Option Need
  | [.word "String"] => some .required
  | [.word "Option", .word "<", .word "String", .word ">"] => some .optional
  | _ => none

/-- A public field after its attribute, if it has one. -/
def readField : List Token → Option RecordField
  | .word "#" :: .group .bracket [.word "serde", .group .parenthesis options] ::
      .word "pub" :: .word name :: .word ":" :: type =>
        (readAll readOption options).bind fun options =>
          (readType type).map fun need => ⟨bareName name, options, need⟩
  | .word "pub" :: .word name :: .word ":" :: type =>
      (readType type).map fun need => ⟨bareName name, [], need⟩
  | _ => none

def readArguments : List Token → Option (String × List Token)
  | key :: .word "." :: .word "to_string" :: .group .parenthesis [] :: .word "," :: value =>
      (readLiteral key).map (·, value)
  | _ => none

def readOwnField : List Token → Option String
  | [.word "self", .word ".", .word name] => some (bareName name)
  | _ => none

/-- The key under which the value of a guard is stored. -/
def readGuarded : List Token → Option String
  | [.word "map", .word ".", .word "insert", .group .parenthesis arguments, .word ";"] =>
      (readArguments arguments).bind fun (key, value) =>
        match value with
        | [.word "value"] => some key
        | _ => none
  | _ => none

/-- The statements up to the map that is given back. -/
def readStatements : List Token → Option (List Insertion)
  | [.word "map"] => some []
  | .word "map" :: .word "." :: .word "insert" :: .group .parenthesis arguments ::
      .word ";" :: rest =>
        (readArguments arguments).bind fun (key, value) =>
          (readOwnField value).bind fun field =>
            (readStatements rest).map (⟨key, field, false⟩ :: ·)
  | .word "if" :: .word "let" :: .word "Some" :: .group .parenthesis [.word "value"] ::
      .word "=" :: .word "self" :: .word "." :: .word name :: .group .brace guarded :: rest =>
        (readGuarded guarded).bind fun key =>
          (readStatements rest).map (⟨key, bareName name, true⟩ :: ·)
  | _ => none

def readMapBody : List Token → Option (List Insertion)
  | [.word "BTreeMap", .word "::", .word "new", .group .parenthesis []] => some []
  | .word "let" :: .word "mut" :: .word "map" :: .word "=" :: .word "BTreeMap" :: .word "::" ::
      .word "new" :: .group .parenthesis [] :: .word ";" :: rest => readStatements rest
  | _ => none

/-- The implementation of a record: one documented method. -/
def readIntoMap : List Token → Option (List Insertion)
  | .word "#" :: .group .bracket _ :: method =>
      (readMethod "into_map" method).bind fun (body, rest) =>
        if rest.isEmpty then readMapBody body else none
  | _ => none

def readRecords : List Token → Option (List ParamRecord)
  | [] => some []
  | .word "#" :: .group .bracket _ ::
      .word "#" :: .group .bracket [.word "derive", .group .parenthesis derives] ::
      .word "pub" :: .word "struct" :: .word name :: .group .brace fields ::
      .word "impl" :: .word owner :: .group .brace implementation :: rest =>
        if owner = name then
          (readAll readField fields).bind fun fields =>
            (readIntoMap implementation).bind fun insertions =>
              (readRecords rest).map
                (⟨bareName name, (pieces derives).map print, fields, insertions⟩ :: ·)
        else none
  | _ => none

/-- Reads the records of a module after the import of the map. -/
def readParams : List Token → Option (List ParamRecord)
  | .word "use" :: .word "std" :: .word "::" :: .word "collections" :: .word "::" ::
      .word "BTreeMap" :: .word ";" :: records => readRecords records
  | _ => none

/-! ## Names -/

/-- What is written for the name tells the name, and divides no list. -/
structure Legible (name : String) : Prop where
  bare : bareName (identifierText name) = name
  noComma : isComma (.word (identifierText name)) = false

theorem bareName_raw (name : String) : bareName ("r#" ++ name) = name := by
  have letters : ("r#" ++ name).toList = 'r' :: '#' :: name.toList := by
    rw [String.toList_append]
    rfl
  rw [bareName, letters]
  exact String.ofList_toList

theorem isComma_word {text : String} (different : text ≠ ",") : isComma (.word text) = false :=
  decide_eq_false different

theorem Spelled.legible {name : String} (spelled : Spelled identifierAlphabet name) :
    Legible name := by
  obtain ⟨first, rest, letters, starts, continues⟩ := spelled
  by_cases keyword : name ∈ keywords
  · have raw : identifierText name = "r#" ++ name := if_pos keyword
    constructor
    case bare => rw [raw, bareName_raw]
    case noComma =>
      rw [raw]
      apply isComma_word
      intro comma
      have written := congrArg String.toList comma
      rw [String.toList_append] at written
      exact absurd (List.cons.inj written).1 (by decide)
  · have same : identifierText name = name := if_neg keyword
    constructor
    case bare =>
      rw [same, bareName, letters]
      split
      case h_1 raw =>
        obtain ⟨_, rfl⟩ := List.cons.inj raw
        cases continues '#' List.mem_cons_self
      case h_2 => rfl
    case noComma =>
      rw [same]
      apply isComma_word
      intro comma
      rw [comma] at letters
      obtain ⟨rfl, _⟩ := List.cons.inj letters
      cases starts

/-! ## Fields -/

section Fields

variable {settings : Settings} {field : Field}

def optionsOf (options : SerializationOptions) : List FieldOption :=
  options.rename.toList.map .rename ++
    if options.optional then [.default, .skipIf "Option::is_none"] else []

def recordFieldOf (settings : Settings) (field : Field) : RecordField where
  name := field.name
  options := if settings.deriveSerialization then optionsOf field.serialization else []
  need := field.need

def optionTokens : FieldOption → List Token
  | .rename key => words "rename =" ++ [literal key]
  | .default => words "default"
  | .skipIf test => words "skip_serializing_if =" ++ [literal test]

theorem whole_optionTokens (option : FieldOption) : Whole (optionTokens option) := by
  have endsInLiteral : ∀ {start : List Token} (content : String),
      (∀ token ∈ start, isComma token = false) → Whole (start ++ [literal content]) := by
    intro start content noComma
    refine ⟨by simp, ?_⟩
    intro token member
    rcases List.mem_append.mp member with inStart | isLiteral
    · exact noComma token inStart
    · rw [List.mem_singleton.mp isLiteral]
      exact isComma_literal content
  cases option with
  | rename key => exact endsInLiteral key (by decide)
  | default => exact ⟨by decide, by decide⟩
  | skipIf test => exact endsInLiteral test (by decide)

theorem readOption_optionTokens (option : FieldOption) :
    readOption (optionTokens option) = some option := by
  cases option with
  | default => rfl
  | rename key =>
      have opened : readOption (optionTokens (.rename key)) =
          (readLiteral (literal key)).map .rename := rfl
      rw [opened, readLiteral_literal]
      rfl
  | skipIf test =>
      have opened : readOption (optionTokens (.skipIf test)) =
          (readLiteral (literal test)).map .skipIf := rfl
      rw [opened, readLiteral_literal]
      rfl

theorem serializationAttribute_eq (options : SerializationOptions) :
    serializationAttribute options =
      if (optionsOf options).isEmpty then []
      else attributed
        [.word "serde", parens (separated ((optionsOf options).map optionTokens))] := by
  obtain ⟨rename, optional⟩ := options
  cases rename <;> cases optional <;> rfl

theorem readType_fieldType (need : Need) : readType (fieldType need) = some need := by
  cases need <;> rfl

theorem readField_attributed {options : List FieldOption} {identifier : String} {need : Need} :
    readField (attributed [.word "serde", parens (separated (options.map optionTokens))] ++
      .word "pub" :: .word identifier :: .word ":" :: fieldType need) =
        some ⟨bareName identifier, options, need⟩ := by
  have optionsRead : readAll readOption (separated (options.map optionTokens)) = some options := by
    have read : readAll readOption (separated (options.map optionTokens)) =
        some (options.map id) :=
      readAll_separated (fun option _ => whole_optionTokens option)
        fun option _ => readOption_optionTokens option
    rwa [List.map_id] at read
  have opened : readField (attributed
      [.word "serde", parens (separated (options.map optionTokens))] ++
        .word "pub" :: .word identifier :: .word ":" :: fieldType need) =
      (readAll readOption (separated (options.map optionTokens))).bind fun options =>
        (readType (fieldType need)).map fun need => ⟨bareName identifier, options, need⟩ := rfl
  rw [opened, optionsRead, readType_fieldType]
  rfl

theorem readField_plain {identifier : String} {need : Need} :
    readField (.word "pub" :: .word identifier :: .word ":" :: fieldType need) =
      some ⟨bareName identifier, [], need⟩ := by
  have opened : readField (.word "pub" :: .word identifier :: .word ":" :: fieldType need) =
      (readType (fieldType need)).map fun need => ⟨bareName identifier, [], need⟩ := rfl
  rw [opened, readType_fieldType]
  rfl

theorem fieldTokens_eq (settings : Settings) (field : Field) :
    fieldTokens settings field =
      (if (recordFieldOf settings field).options.isEmpty then []
        else attributed [.word "serde",
          parens (separated ((recordFieldOf settings field).options.map optionTokens))]) ++
        .word "pub" :: .word (identifierText field.name) :: .word ":" :: fieldType field.need := by
  rw [fieldTokens, recordFieldOf]
  cases settings.deriveSerialization with
  | false => rfl
  | true =>
      simp only [if_true, serializationAttribute_eq, List.append_assoc]
      rfl

theorem readField_fieldTokens (legible : Legible field.name) :
    readField (fieldTokens settings field) = some (recordFieldOf settings field) := by
  rw [fieldTokens_eq]
  split
  case isTrue none =>
    -- Without options there is no attribute, so a reader starts at the word pub.
    rw [List.nil_append, readField_plain, legible.bare, ← List.isEmpty_iff.mp none]
    rfl
  case isFalse =>
    rw [readField_attributed, legible.bare]
    rfl

theorem whole_fieldTokens (legible : Legible field.name) : Whole (fieldTokens settings field) := by
  have noComma : ∀ token ∈ fieldType field.need, isComma token = false := by
    cases field.need <;> decide
  rw [fieldTokens_eq]
  constructor
  case present => simp
  case noComma =>
    intro token member
    rcases List.mem_append.mp member with inAttribute | inField
    · split at inAttribute
      case isTrue => cases inAttribute
      case isFalse =>
        simp only [attributed, List.mem_cons, List.not_mem_nil, or_false] at inAttribute
        rcases inAttribute with rfl | rfl <;> rfl
    · simp only [List.mem_cons] at inField
      rcases inField with rfl | rfl | rfl | inType
      · rfl
      · exact legible.noComma
      · rfl
      · exact noComma token inType

end Fields

/-! ## Statements -/

section Statements

variable {field : Field} {fields : List Field}

def insertionOf (field : Field) : Insertion where
  key := field.param
  field := field.name
  guarded := field.need = .optional

theorem readArguments_eq (key : String) (value : List Token) :
    readArguments ([literal key] ++ words ". to_string" ++ [parens []] ++ words "," ++ value) =
      some (key, value) := by
  have opened : readArguments
      ([literal key] ++ words ". to_string" ++ [parens []] ++ words "," ++ value) =
        (readLiteral (literal key)).map (·, value) := rfl
  rw [opened, readLiteral_literal]
  rfl

theorem readGuarded_insertion (key : String) :
    readGuarded (insertion key (words "value")) = some key := by
  have opened : readGuarded (insertion key (words "value")) =
      (readArguments ([literal key] ++ words ". to_string" ++ [parens []] ++ words "," ++
        words "value")).bind fun (key, value) =>
          match value with
          | [.word "value"] => some key
          | _ => none := rfl
  rw [opened, readArguments_eq]
  rfl

theorem readStatements_fieldInsertion (legible : Legible field.name) (rest : List Token) :
    readStatements (fieldInsertion field ++ rest) =
      (readStatements rest).map (insertionOf field :: ·) := by
  obtain ⟨param, name, need⟩ := field
  cases need with
  | required =>
      have opened : readStatements (fieldInsertion ⟨param, name, .required⟩ ++ rest) =
          (readArguments ([literal param] ++ words ". to_string" ++ [parens []] ++ words "," ++
            [.word "self", .word ".", .word (identifierText name)])).bind fun (key, value) =>
              (readOwnField value).bind fun field =>
                (readStatements rest).map (⟨key, field, false⟩ :: ·) := rfl
      have own : readOwnField [.word "self", .word ".", .word (identifierText name)] =
          some name := congrArg some legible.bare
      rw [opened, readArguments_eq]
      simp only [Option.bind_some, own]
      rfl
  | optional =>
      have opened : readStatements (fieldInsertion ⟨param, name, .optional⟩ ++ rest) =
          (readGuarded (insertion param (words "value"))).bind fun key =>
            (readStatements rest).map (⟨key, bareName (identifierText name), true⟩ :: ·) := rfl
      rw [opened, readGuarded_insertion, legible.bare]
      rfl

theorem readStatements_eq (legible : ∀ field ∈ fields, Legible field.name) :
    readStatements (fields.flatMap fieldInsertion ++ words "map") =
      some (fields.map insertionOf) := by
  induction fields with
  | nil => rfl
  | cons first rest ih =>
      rw [List.forall_mem_cons] at legible
      rw [List.flatMap_cons, List.append_assoc, readStatements_fieldInsertion legible.1,
        ih legible.2]
      rfl

theorem readMapBody_mapBody (legible : ∀ field ∈ fields, Legible field.name) :
    readMapBody (mapBody fields) = some (fields.map insertionOf) := by
  cases fields with
  | nil => rfl
  | cons first rest =>
      have opened : readMapBody (mapBody (first :: rest)) =
          readStatements ((first :: rest).flatMap fieldInsertion ++ words "map") := rfl
      rw [opened, readStatements_eq legible]

end Statements

/-! ## Whole records -/

section Records

variable {settings : Settings} {item : Item} {items : List Item}

def derivesOf (settings : Settings) : List String :=
  ["Debug", "Clone", "Default", "PartialEq", "Eq"] ++
    if settings.deriveSerialization then ["serde :: Serialize", "serde :: Deserialize"] else []

def paramRecordOf (settings : Settings) (item : Item) : ParamRecord where
  name := item.recordName
  derives := derivesOf settings
  fields := item.fields.map (recordFieldOf settings)
  insertions := item.fields.map insertionOf

def recordImplementation (fields : List Field) : List Token :=
  fixedDocumentation "Params keyed by their pattern names, ready for path building" ++
    words "pub fn into_map" ++ [parens (words "self")] ++
    words "-> BTreeMap < String , String >" ++ [braces (mapBody fields)]

theorem readIntoMap_recordImplementation {fields : List Field}
    (legible : ∀ field ∈ fields, Legible field.name) :
    readIntoMap (recordImplementation fields) = some (fields.map insertionOf) := by
  have opened : readIntoMap (recordImplementation fields) = readMapBody (mapBody fields) := rfl
  rw [opened, readMapBody_mapBody legible]

def deriveTokens (settings : Settings) : List (List Token) :=
  [words "Debug", words "Clone", words "Default", words "PartialEq", words "Eq"] ++
    if settings.deriveSerialization then [words "serde :: Serialize", words "serde :: Deserialize"]
    else []

theorem map_print_deriveTokens (settings : Settings) :
    (pieces (separated (deriveTokens settings))).map print = derivesOf settings := by
  rw [deriveTokens, derivesOf]
  cases settings.deriveSerialization <;> decide +kernel

theorem recordTokens_append (settings : Settings) (item : Item) (rest : List Token) :
    ∃ documented, recordTokens settings item ++ rest =
      .word "#" :: .group .bracket documented ::
      .word "#" :: .group .bracket
        [.word "derive", .group .parenthesis (separated (deriveTokens settings))] ::
      .word "pub" :: .word "struct" :: .word (identifierText item.recordName) ::
      .group .brace (separated (item.fields.map (fieldTokens settings))) ::
      .word "impl" :: .word (identifierText item.recordName) ::
      .group .brace (recordImplementation item.fields) :: rest :=
  ⟨_, rfl⟩

theorem readRecords_recordTokens (recordLegible : Legible item.recordName)
    (fieldsLegible : ∀ field ∈ item.fields, Legible field.name) (rest : List Token) :
    readRecords (recordTokens settings item ++ rest) =
      (readRecords rest).map (paramRecordOf settings item :: ·) := by
  have fieldsRead : readAll readField (separated (item.fields.map (fieldTokens settings))) =
      some (item.fields.map (recordFieldOf settings)) :=
    readAll_separated (fun field member => whole_fieldTokens (fieldsLegible field member))
      fun field member => readField_fieldTokens (fieldsLegible field member)
  obtain ⟨documented, written⟩ := recordTokens_append settings item rest
  rw [written, readRecords, if_pos rfl, fieldsRead, Option.bind_some,
    readIntoMap_recordImplementation fieldsLegible, Option.bind_some, map_print_deriveTokens,
    recordLegible.bare]
  rfl

theorem readParams_paramsTokens (emits : settings.emitParams)
    (recordsLegible : ∀ item ∈ items, Legible item.recordName)
    (fieldsLegible : ∀ item ∈ items, ∀ field ∈ item.fields, Legible field.name) :
    readParams (paramsTokens settings items) = some (items.map (paramRecordOf settings)) := by
  have opened : readParams (paramsTokens settings items) =
      readRecords (items.flatMap (recordTokens settings)) := by
    rw [paramsTokens, if_pos emits]
    rfl
  rw [opened]
  clear opened emits
  induction items with
  | nil => rfl
  | cons first rest ih =>
      rw [List.forall_mem_cons] at recordsLegible fieldsLegible
      rw [List.flatMap_cons, readRecords_recordTokens recordsLegible.1 fieldsLegible.1,
        ih recordsLegible.2 fieldsLegible.2]
      rfl

end Records

end RouteTree.Codegen
