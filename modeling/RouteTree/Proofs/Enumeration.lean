import RouteTree.Proofs.Items
import RouteTree.Proofs.SourceReading

/-!
# The enum of route ids

The enum is read back from its tokens: its variants, the constant that lists
them, and what its methods give for each variant. A path such as `RouteId :: ALL`
means the variant with that name if there is one, and the constant only
otherwise; so the list of all routes is there exactly if no id asks for the
name of the constant.
-/

namespace RouteTree.Codegen

open Token

/-- An enum with an associated constant that lists some variants, and methods that
are told variant by variant. -/
structure Enumeration where
  variants : List String
  constant : String
  /-- The length that the constant is declared with. -/
  length : String
  members : List String
  texts : List (String × String)
  /-- The name that is searched for the variant with a text. -/
  searched : String
  parents : List (String × Option String)
deriving DecidableEq, Repr

/-! ## Reading an enum -/

/-- A variant after its documentation. -/
def readVariant : List Token → Option String
  | [.word "#", .group .bracket _, .word variant] => some variant
  | _ => none

def readPath : List Token → Option String
  | [.word "RouteId", .word "::", .word name] => some name
  | _ => none

def readText : List Token → Option String
  | [token] => readLiteral token
  | _ => none

def readParent : List Token → Option (Option String)
  | [.word "None"] => some none
  | [.word "Some", .group .parenthesis path] => (readPath path).map some
  | _ => none

def readArm {α : Type} (read : List Token → Option α) : List Token → Option (String × α)
  | .word "RouteId" :: .word "::" :: .word variant :: .word "=>" :: result =>
      (read result).map (variant, ·)
  | _ => none

/-- The arms of a body that does nothing but tell variants apart. -/
def readMatch {α : Type} (read : List Token → Option α) :
    List Token → Option (List (String × α))
  | [.word "match", .word "self", .group .brace tokens] => readAll (readArm read) tokens
  | _ => none

/-- The name that is searched for the variant whose text is asked for. -/
def readSearch : List Token → Option String
  | [.word "RouteId", .word "::", .word searched, .word ".", .word "iter", .group .parenthesis [],
      .word ".", .word "copied", .group .parenthesis [], .word ".", .word "find",
      .group .parenthesis [.word "|", .word "route", .word "|", .word "route", .word ".",
        .word "as_str", .group .parenthesis [], .word "==", .word "id"]] => some searched
  | _ => none

/-- The first body in braces and what follows it. -/
def bodyOf : List Token → Option (List Token × List Token)
  | .group .brace body :: rest => some (body, rest)
  | _ :: rest => bodyOf rest
  | [] => none

/-- The body of the method that stands here, if it has the name, and what follows it. -/
def readMethod (name : String) : List Token → Option (List Token × List Token)
  | .word "pub" :: .word "fn" :: .word found :: rest => if found = name then bodyOf rest else none
  | _ => none

/-- The body of an enum's implementation: a constant and three methods. -/
def readImplementation (variants : List String) : List Token → Option Enumeration
  | .word "pub" :: .word "const" :: .word constant :: .word ":" ::
      .group .bracket [.word "RouteId", .word ";", .word length] :: .word "=" ::
      .group .bracket members :: .word ";" :: rest => do
        let members ← readAll readPath members
        let (texts, rest) ← readMethod "as_str" rest
        let texts ← readMatch readText texts
        let (search, rest) ← readMethod "from_id" rest
        let searched ← readSearch search
        let (parents, _) ← readMethod "parent" rest
        let parents ← readMatch readParent parents
        some ⟨variants, constant, length, members, texts, searched, parents⟩
  | _ => none

/-- Reads an enum and its implementation. -/
def readEnumeration : List Token → Option Enumeration
  | [.word "#", .group .bracket _, .word "#", .group .bracket _, .word "pub", .word "enum",
      .word "RouteId", .group .brace variants, .word "impl", .word "RouteId",
      .group .brace body] =>
        (readAll readVariant variants).bind fun variants => readImplementation variants body
  | _ => none

/-! ## Words -/

theorem words_append_space (first second : String) :
    words (first ++ " " ++ second) = words first ++ words second := by
  have letters : (first ++ " " ++ second).toList = first.toList ++ ' ' :: second.toList := by
    simp [String.toList_append]
  rw [words, letters, List.splitOn_append_cons_self, List.map_append]
  rfl

theorem words_eq_singleton {line : String} (noSpace : ' ' ∉ line.toList) :
    words line = [.word line] := by
  rw [words, List.splitOn_eq_singleton noSpace, List.map_singleton, String.ofList_toList]

theorem bodyOf_words (line : String) (rest : List Token) :
    bodyOf (words line ++ rest) = bodyOf rest := by
  rw [words]
  induction line.toList.splitOn ' ' with
  | nil => rfl
  | cons letters others ih =>
      rw [List.map_cons, List.cons_append, bodyOf]
      · exact ih
      · intro body same
        cases same

theorem isComma_literal (content : String) : isComma (literal content) = false := by
  have notComma : String.ofList ('"' :: literalLetters content.toList ++ ['"']) ≠ "," := by
    intro same
    have letters := congrArg String.toList same
    rw [String.toList_ofList] at letters
    exact absurd (List.cons.inj letters).1 (by decide)
  exact decide_eq_false notComma

/-! ## Reading what is written for items -/

/-- The enum for some items. -/
def enumerationOf (items : List Item) : Enumeration where
  variants := items.map Item.variant
  constant := "ALL"
  length := toString items.length ++ "usize"
  members := items.map Item.variant
  texts := items.map fun item => (item.variant, item.id)
  searched := "ALL"
  parents := items.map fun item => (item.variant, item.parentId.bind (variantOf? items))

/-- The name is written without a mark and divides no list. -/
structure Plain (name : String) : Prop where
  text : identifierText name = name
  noComma : name ≠ ","

section Reading

variable {items : List Item} {item : Item} {name : String}

theorem variantPath_eq (plain : Plain name) :
    variantPath name = [.word "RouteId", .word "::", .word name] := by
  have written : variantPath name =
      [.word "RouteId", .word "::", .word (identifierText name)] := rfl
  rw [written, plain.text]

theorem Plain.isComma (plain : Plain name) : isComma (.word name) = false :=
  decide_eq_false plain.noComma

theorem whole_variantPath (plain : Plain name) : Whole (variantPath name) := by
  rw [variantPath_eq plain]
  exact ⟨by simp, by simp [Token.isComma, plain.noComma]⟩

theorem readPath_variantPath (plain : Plain name) : readPath (variantPath name) = some name := by
  rw [variantPath_eq plain]
  rfl

theorem readAll_members (plain : ∀ item ∈ items, Plain item.variant) :
    readAll readPath (separated (items.map fun item => variantPath item.variant)) =
      some (items.map Item.variant) := by
  apply readAll_separated
  · exact fun item member => whole_variantPath (plain item member)
  · exact fun item member => readPath_variantPath (plain item member)

theorem readAll_variants (plain : ∀ item ∈ items, Plain item.variant) :
    readAll readVariant (items.flatMap fun item =>
      documentation (" `" ++ item.id ++ "`") ++ [.word (identifierText item.variant)] ++
        words ",") = some (items.map Item.variant) := by
  have comma : words "," = [.word ","] := rfl
  rw [comma]
  apply readAll_flatMap
  · intro item member
    rw [(plain item member).text]
    refine ⟨by simp, ?_⟩
    simp [documentation, attributed, Token.isComma, brackets, (plain item member).noComma]
  · intro item member
    rw [(plain item member).text]
    rfl

/-- A method is read arm by arm if each result is. -/
theorem readMatch_arms {α : Type} {read : List Token → Option α} {result : Item → List Token}
    {value : Item → α} (plain : ∀ item ∈ items, Plain item.variant)
    (noComma : ∀ item ∈ items, ∀ token ∈ result item, isComma token = false)
    (reads : ∀ item ∈ items, read (result item) = some (value item)) :
    readMatch read (words "match self" ++
      [arms (items.map fun item => (item.variant, result item))]) =
        some (items.map fun item => (item.variant, value item)) := by
  have comma : words "," = [.word ","] := rfl
  have opened : readMatch read
      (words "match self" ++ [arms (items.map fun item => (item.variant, result item))]) =
        readAll (readArm read) (items.flatMap fun item =>
          variantPath item.variant ++ words "=>" ++ result item ++ [.word ","]) := by
    rw [arms, List.flatMap_map, ← comma]
    rfl
  rw [opened]
  apply readAll_flatMap
  · intro item member
    rw [variantPath_eq (plain item member)]
    refine ⟨by simp, ?_⟩
    intro token tokenMember
    have arrow : words "=>" = [.word "=>"] := rfl
    simp only [arrow, List.cons_append, List.nil_append, List.mem_cons] at tokenMember
    rcases tokenMember with rfl | rfl | rfl | rfl | inResult
    · rfl
    · rfl
    · exact (plain item member).isComma
    · rfl
    · exact noComma item member token inResult
  · intro item member
    have written : variantPath item.variant ++ words "=>" ++ result item =
        .word "RouteId" :: .word "::" :: .word item.variant :: .word "=>" :: result item := by
      rw [variantPath_eq (plain item member)]
      rfl
    rw [written, readArm, reads item member]
    rfl

theorem readMethod_methodTokens (methodName line : String) (results : List (String × List Token))
    (rest : List Token) :
    readMethod methodName (methodTokens methodName (words line) results ++ rest) =
      some (words "match self" ++ [arms results], rest) := by
  have opened : methodTokens methodName (words line) results ++ rest =
      .word "pub" :: .word "fn" :: .word methodName :: ([parens (words "self")] ++
        (words "->" ++ (words line ++
          .group .brace (words "match self" ++ [arms results]) :: rest))) := by
    simp only [methodTokens, List.append_assoc]
    rfl
  rw [opened, readMethod, if_pos rfl]
  have skipped : ∀ tokens, bodyOf ([parens (words "self")] ++ tokens) = bodyOf tokens :=
    fun _ => rfl
  rw [skipped, bodyOf_words, bodyOf_words]
  rfl

theorem variantOf?_plain (plain : ∀ item ∈ items, Plain item.variant) {id : String}
    (found : variantOf? items id = some name) : Plain name := by
  obtain ⟨item, search, rfl⟩ := Option.map_eq_some_iff.mp found
  exact plain item (List.mem_of_find?_eq_some search)

theorem readParent_parentTokens (plain : ∀ item ∈ items, Plain item.variant) (item : Item) :
    readParent (parentTokens items item) = some (item.parentId.bind (variantOf? items)) ∧
      ∀ token ∈ parentTokens items item, isComma token = false := by
  rw [parentTokens]
  cases found : item.parentId.bind (variantOf? items) with
  | none => exact ⟨rfl, by decide⟩
  | some parent =>
      obtain ⟨id, _, variantFound⟩ := Option.bind_eq_some_iff.mp found
      have parentPlain := variantOf?_plain plain variantFound
      constructor
      · have opened : readParent (words "Some" ++ [parens (variantPath parent)]) =
            (readPath (variantPath parent)).map some := rfl
        rw [opened, readPath_variantPath parentPlain]
        rfl
      · intro token member
        rcases List.mem_cons.mp member with rfl | member
        · rfl
        · rw [List.mem_singleton.mp member]
          rfl

theorem allTokens_append (items : List Item) (rest : List Token) :
    allTokens items ++ rest = .word "pub" :: .word "const" :: .word "ALL" :: .word ":" ::
      .group .bracket [.word "RouteId", .word ";", .word (toString items.length ++ "usize")] ::
      .word "=" :: .group .bracket (separated (items.map fun item => variantPath item.variant)) ::
      .word ";" :: rest := by
  have noSpace : ' ' ∉ (toString items.length ++ "usize").toList := by
    rw [String.toList_append]
    intro member
    rcases List.mem_append.mp member with inNumber | inUnit
    · exact absurd (isDigit_of_mem_toString inNumber) (by decide)
    · exact absurd inUnit (by decide)
  have divided : words ("RouteId ; " ++ toString items.length ++ "usize") =
      [.word "RouteId", .word ";", .word (toString items.length ++ "usize")] := by
    have spaced : "RouteId ; " ++ toString items.length ++ "usize" =
        "RouteId ;" ++ " " ++ (toString items.length ++ "usize") := by
      rw [← String.append_assoc]
      rfl
    rw [spaced, words_append_space, words_eq_singleton noSpace]
    rfl
  rw [allTokens, divided]
  simp only [List.append_assoc]
  rfl

theorem readSearch_lookupTokens (rest : List Token) :
    ∃ search, readMethod "from_id" (lookupTokens ++ rest) = some (search, rest) ∧
      readSearch search = some "ALL" :=
  ⟨_, rfl, rfl⟩

/-- What is written for items is read back, whatever else the enum can do. -/
theorem readEnumeration_routeIdTokens (plain : ∀ item ∈ items, Plain item.variant)
    (targets : Option (List (String × SortedSet String))) :
    readEnumeration (routeIdTokens items targets) = some (enumerationOf items) := by
  let texts := methodTokens "as_str" (words "& 'static str")
    (items.map fun item => (item.variant, [literal item.id]))
  let parents := methodTokens "parent" (words "Option < RouteId >")
    (items.map fun item => (item.variant, parentTokens items item))
  have opened : readEnumeration (routeIdTokens items targets) =
      (some (items.map Item.variant)).bind fun variants => readImplementation variants
        (allTokens items ++ (texts ++ (lookupTokens ++ (parents ++ targetsTokens targets)))) := by
    rw [← readAll_variants plain]
    simp only [texts, parents, ← List.append_assoc]
    rfl
  obtain ⟨search, searchFound, searchRead⟩ :=
    readSearch_lookupTokens (parents ++ targetsTokens targets)
  have textsRead : readMatch readText (words "match self" ++
      [arms (items.map fun item => (item.variant, [literal item.id]))]) =
        some (items.map fun item => (item.variant, item.id)) :=
    readMatch_arms plain (by simp [isComma_literal]) fun item _ => readLiteral_literal item.id
  have parentsRead : readMatch readParent (words "match self" ++
      [arms (items.map fun item => (item.variant, parentTokens items item))]) =
        some (items.map fun item => (item.variant, item.parentId.bind (variantOf? items))) :=
    readMatch_arms plain (fun item _ => (readParent_parentTokens plain item).2)
      fun item _ => (readParent_parentTokens plain item).1
  rw [opened, Option.bind_some, allTokens_append, readImplementation, readAll_members plain]
  simp only [Option.bind_eq_bind, Option.bind_some, texts, parents, readMethod_methodTokens,
    searchFound, searchRead, textsRead, parentsRead]
  rfl

end Reading

end RouteTree.Codegen
