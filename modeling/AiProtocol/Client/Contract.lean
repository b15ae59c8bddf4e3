import Mathlib.Data.List.Pairwise
import Mathlib.Data.List.Sort
import AiProtocol.Client.Schema
import AiProtocol.Gateway.Sharing

/-!
# The contract of manifests

Three validators of one format: the deserializer with the checks of the gateway, the registration of
the credentials which were resolved, and the published schema.
-/

namespace AiProtocol

/-! ## Reading -/

mutual

/-- The document as Python reads it: the last of several entries of one key is kept. -/
def Json.loads : Json → Json
  | .array items => .array (loadsItems items)
  | .object members => .object (Table.ofEntries (loadsMembers members))
  | value => value
termination_by structural value => value

/-- The items of an array. -/
def loadsItems : List Json → List Json
  | [] => []
  | item :: rest => item.loads :: loadsItems rest
termination_by structural items => items

/-- The members of an object. -/
def loadsMembers : List (String × Json) → List (String × Json)
  | [] => []
  | (key, value) :: rest => (key, value.loads) :: loadsMembers rest
termination_by structural members => members

end

private theorem loadsItems_eq (items : List Json) : loadsItems items = items.map Json.loads := by
  induction items with
  | nil => rfl
  | cons item rest induction => rw [loadsItems, induction, List.map_cons]

private theorem loadsMembers_eq (members : List (String × Json)) :
    loadsMembers members = members.map fun member => (member.1, member.2.loads) := by
  induction members with
  | nil => rfl
  | cons member rest induction => rw [loadsMembers, induction, List.map_cons]

/-- The fields of a struct as a derived deserializer finds them: by name in an object, where unknown
and repeated names are denied, or by position in an array. -/
def Json.fields (names : List String) : Json → Option (List (Option Json))
  | .object members =>
      if (members.all fun member => names.contains member.1) ∧ (members.map Prod.fst).Nodup then
        some (names.map fun name => members.lookup name)
      else
        none
  | .array items =>
      if items.length ≤ names.length then
        some (items.map some ++ List.replicate (names.length - items.length) none)
      else
        none
  | _ => none

/-- The variant of an enumeration, a string or an object with nothing in it. -/
def Json.variant : Json → Option String
  | .string text => some text
  | .object [(text, .null)] => some text
  | _ => none

/-- `ParameterType`. -/
def ParameterType.ofJson (value : Json) : Option ParameterType :=
  match value.variant with
  | some "string" => some .string
  | some "integer" => some .integer
  | _ => none

/-- `ClientClass`. -/
def ClientClass.ofJson (value : Json) : Option ClientClass :=
  match value.variant with
  | some "agent" => some .agent
  | some "interactive" => some .interactive
  | _ => none

/-- `Parameter`. -/
def Parameter.ofJson (value : Json) : Option Parameter :=
  match value.fields ["type", "upstream"] with
  | some [some kind, some upstream] => do
      return { kind := ← ParameterType.ofJson kind, upstream := ← upstream.asStr }
  | _ => none

/-- A map of parameters, in the order of their names. -/
def parametersOfJson (value : Json) :
    Option { parameters : List (String × Parameter) // (parameters.map Prod.fst).Nodup } := do
  let members ← value.asObject
  let entries ← members.mapM fun member => do return (member.1, ← Parameter.ofJson member.2)
  return ⟨(Table.ofEntries entries).insertionSort fun left right => left.1 ≤ right.1,
    ((List.perm_insertionSort _ _).map Prod.fst).nodup_iff.mpr (Table.nodup_ofEntries entries)⟩

/-- `Operation`, of a manifest. -/
def ManifestOperation.ofJson (value : Json) : Option ManifestOperation :=
  match value.fields ["name", "description", "path", "upstream_path", "parameters"] with
  | some [some name, some description, some path, some upstreamPath, some parameters] => do
      let parameters ← parametersOfJson parameters
      return {
        name := ← name.asStr
        description := ← description.asStr
        path := ← path.asStr
        upstreamPath := ← upstreamPath.asStr
        parameters := parameters.1
        parameters_distinct := parameters.2 }
  | _ => none

/-- `Credential`, of a manifest. -/
def ManifestCredential.ofJson (value : Json) : Option ManifestCredential :=
  match value.fields ["token_env", "required", "principal_id", "client_class", "operations",
      "max_outstanding"] with
  | some [some tokenEnv, some required, some principalId, some clientClass, some operations,
      some maxOutstanding] => do
      return {
        tokenEnv := ← tokenEnv.asStr
        required := ← required.asBool
        principalId := ← principalId.asStr
        clientClass := ← ClientClass.ofJson clientClass
        operations := ← (← operations.asArray).mapM Json.asStr
        maxOutstanding := ← maxOutstanding.asU64 }
  | _ => none

/-- `format_version`, with its default. -/
def formatVersionOfJson : Option Json → Option Nat
  | none => some 1
  | some version => version.asU64.filter fun version => version < 2 ^ 32

/-- `Service`, of a manifest. -/
def Manifest.ofJson (value : Json) : Option Manifest :=
  match value.fields ["format_version", "service_id", "operations", "credentials"] with
  | some [formatVersion, some serviceId, some operations, some credentials] => do
      return {
        formatVersion := ← formatVersionOfJson formatVersion
        serviceId := ← serviceId.asStr
        operations := ← (← operations.asArray).mapM ManifestOperation.ofJson
        credentials := ← (← credentials.asArray).mapM ManifestCredential.ofJson }
  | _ => none

/-! ## The published schema -/

namespace Schema

/-- Keywords of an object whose members are listed. -/
def structKeywords (required : List String) (properties : List (String × Json)) :
    List (String × Json) :=
  [("type", .string "object"),
   ("required", .array (required.map .string)),
   ("additionalProperties", .bool false),
   ("properties", .object properties)]

def name : Json :=
  .object [("type", .string "string"), ("pattern", .string namePattern)]

def path : Json :=
  .object [("type", .string "string"), ("pattern", .string pathPattern)]

def parameter : Json :=
  .object (structKeywords ["type", "upstream"]
    [("type", .object [("enum", .array [.string "string", .string "integer"])]),
     ("upstream", name)])

def operation : Json :=
  .object (structKeywords ["name", "description", "path", "upstream_path", "parameters"]
    [("name", name),
     ("description", .object [("type", .string "string")]),
     ("path", path),
     ("upstream_path", path),
     ("parameters", .object
       [("type", .string "object"), ("propertyNames", name),
        ("additionalProperties", parameter)])])

def credential : Json :=
  .object (structKeywords ["token_env", "required", "principal_id", "client_class", "operations",
      "max_outstanding"]
    [("token_env", name),
     ("required", .object [("type", .string "boolean")]),
     ("principal_id", .object [("type", .string "string"), ("minLength", .unsigned 1)]),
     ("client_class", .object [("enum", .array [.string "agent", .string "interactive"])]),
     ("operations", .object [("type", .string "array"), ("items", name)]),
     ("max_outstanding", .object
       [("type", .string "integer"), ("minimum", .unsigned 1), ("maximum", .unsigned 1000)])])

/-- `manifest.schema.json`. -/
def manifest : Json :=
  .object
    ([("$schema", .string "https://json-schema.org/draft/2020-12/schema"),
      ("$id", .string "urn:ai-protocol:manifest:1"),
      ("title", .string "Read-only HTTP adapter manifest v1")] ++
    structKeywords ["service_id", "operations", "credentials"]
      [("format_version", .object [("const", .unsigned 1)]),
       ("service_id", name),
       ("operations", .object
         [("type", .string "array"), ("minItems", .unsigned 1), ("items", operation)]),
       ("credentials", .object
         [("type", .string "array"), ("minItems", .unsigned 1), ("items", credential)])])

variable {integral : String → Option Int}

theorem validates_name {text : String} (valid : identifier text.toList = true) :
    validates integral name (.string text) = true := by
  simp [name, validates, keywords, asserts, hasType, Json.asStr, search, anchored, valid]

private theorem validates_path {text : String} (valid : route text = true) :
    validates integral path (.string text) = true := by
  have other : pathPattern ≠ namePattern := by decide
  simp [path, validates, keywords, asserts, hasType, Json.asStr, search, anchored, other,
    pathMatches_of_route valid]

/-- The members of a struct in an object are what its schema asks for. -/
theorem validates_struct {required : List String} {properties : List (String × Json)}
    {values : List (String × Json)}
    (present : ∀ name ∈ required, (values.lookup name).isSome = true)
    (known : ∀ entry ∈ values, entry.1 ∈ properties.map Prod.fst)
    (valid : ∀ property ∈ properties, ∀ value, values.lookup property.1 = some value →
      validates integral property.2 value = true)
    {front : List (String × Json)}
    (annotated : ∀ member ∈ front, member.1 ∈ ["$schema", "$id", "title"]) :
    validates integral (.object (front ++ structKeywords required properties)) (.object values) =
      true := by
  have declares : declared (front ++ structKeywords required properties) =
      properties.map Prod.fst := by
    have absent : front.lookup "properties" = none := by
      refine Table.lookup_eq_none.mpr fun member => ?_
      obtain ⟨entry, listed, same⟩ := List.mem_map.mp member
      have annotation := annotated entry listed
      rw [same] at annotation
      exact absurd annotation (by decide)
    simp [declared, List.lookup_append, absent, structKeywords, List.lookup_cons, Json.asObject]
  rw [validates_object, List.all_append, Bool.and_eq_true, List.all_eq_true, List.all_eq_true]
  generalize front ++ structKeywords required properties = schema at declares ⊢
  constructor
  · intro member listed
    obtain ⟨keyword, argument⟩ := member
    have annotation := annotated _ listed
    simp only [List.mem_cons, List.not_mem_nil, or_false] at annotation
    rcases annotation with rfl | rfl | rfl <;> rfl
  · simp only [structKeywords, List.mem_cons, List.not_mem_nil, or_false, forall_eq_or_imp,
      forall_eq]
    refine ⟨rfl, ?_, ?_, ?_⟩
    · rw [holds_required]
      exact List.all_eq_true.mpr present
    · rw [holds_closed, declares, List.all_eq_true]
      exact fun entry listed => List.contains_iff_mem.mpr (known entry listed)
    · rw [holds_properties, List.all_eq_true]
      intro property listed
      rw [Json.get_object]
      cases found : values.lookup property.1 with
      | none => rfl
      | some value => exact valid property listed value found

end Schema

/-! ## Structs -/

private theorem loads_object {members : List (String × Json)}
    (distinct : (members.map Prod.fst).Nodup) :
    (Json.object members).loads =
      .object (members.map fun member => (member.1, member.2.loads)) := by
  rw [Json.loads, loadsMembers_eq, Table.ofEntries_eq_self]
  rw [List.map_map]
  exact distinct

theorem fields_object {names : List String} {value : Json} {values : List (Option Json)}
    (object : value.asObject.isSome = true) (read : value.fields names = some values) :
    ∃ members, value = .object members ∧ (members.map Prod.fst).Nodup ∧
      (∀ member ∈ members, member.1 ∈ names) ∧ names.map value.get = values := by
  cases value with
  | object members =>
      rw [Json.fields] at read
      split at read
      · rename_i checked
        exact ⟨members, rfl, checked.2, by simpa using checked.1, Option.some.inj read⟩
      · cases read
  | _ => cases object

theorem validates_fields {integral : String → Option Int} {required : List String}
    {properties : List (String × Json)} {value : Json} {values : List (Option Json)}
    {names : List String} (listed : properties.map Prod.fst = names)
    (object : value.asObject.isSome = true) (read : value.fields names = some values)
    (present : ∀ name ∈ required, (value.get name).isSome = true)
    (valid : ∀ property ∈ properties, ∀ item, value.get property.1 = some item →
      Schema.validates integral property.2 item.loads = true)
    (front : List (String × Json))
    (annotated : ∀ member ∈ front, member.1 ∈ ["$schema", "$id", "title"]) :
    Schema.validates integral (.object (front ++ Schema.structKeywords required properties))
      value.loads = true := by
  subst listed
  obtain ⟨members, rfl, distinct, known, -⟩ := fields_object object read
  rw [loads_object distinct]
  refine Schema.validates_struct (fun name listed => ?_) ?_ (fun property listed item found => ?_)
    annotated
  · rw [Table.lookup_map, Option.isSome_map]
    exact present name listed
  · intro entry listed
    obtain ⟨member, member_mem, rfl⟩ := List.mem_map.mp listed
    exact known member member_mem
  · rw [Table.lookup_map, Option.map_eq_some_iff] at found
    obtain ⟨item, found, rfl⟩ := found
    exact valid property listed item found

/-- A value whose struct is an object, and whose enumeration is a string. -/
def Json.PlainParameter (value : Json) : Prop :=
  value.asObject.isSome = true ∧
    ∀ kind, value.get "type" = some kind → kind.asStr.isSome = true

theorem ParameterType.text_of_ofJson {text : String} {kind : ParameterType}
    (read : ParameterType.ofJson (.string text) = some kind) :
    text = "string" ∨ text = "integer" := by
  unfold ParameterType.ofJson Json.variant at read
  split at read
  · rename_i same
    exact .inl (Option.some.inj same)
  · rename_i same
    exact .inr (Option.some.inj same)
  · cases read

private theorem parameter_contract {integral : String → Option Int} {value : Json}
    {parameter : Parameter}
    (read : Parameter.ofJson value = some parameter) (plain : value.PlainParameter)
    (named : identifier parameter.upstream.toList = true) :
    Schema.validates integral Schema.parameter value.loads = true := by
  unfold Parameter.ofJson at read
  split at read
  · rename_i kind upstream found
    obtain ⟨-, -, -, -, got⟩ := fields_object plain.1 found
    simp only [List.map_cons, List.map_nil, List.cons.injEq, and_true] at got
    simp only [Option.bind_eq_bind, Option.bind_eq_some_iff, Option.pure_def,
      Option.some.injEq] at read
    obtain ⟨type, readType, name, readName, rfl⟩ := read
    obtain ⟨text, rfl⟩ : ∃ text, kind = .string text := by
      have string := plain.2 kind got.1
      cases kind with
      | string text => exact ⟨text, rfl⟩
      | _ => cases string
    obtain rfl : upstream = .string name := by
      cases upstream with
      | string text =>
          cases readName
          rfl
      | _ => cases readName
    refine validates_fields ?_ plain.1 found ?_ ?_ [] (by simp)
    · rfl
    · simp only [List.mem_cons, List.not_mem_nil, or_false, forall_eq_or_imp, forall_eq, got,
        Option.isSome_some, and_self]
    · simp only [List.mem_cons, List.not_mem_nil, or_false, forall_eq_or_imp, forall_eq, got,
        Option.some.injEq, forall_eq']
      refine ⟨?_, Schema.validates_name named⟩
      rcases ParameterType.text_of_ofJson readType with rfl | rfl <;> rfl
  · cases read

theorem mapM_eq_some {Item Value : Type} {body : Item → Option Value} {items : List Item}
    {values : List Value} : items.mapM body = some values ↔
      List.Forall₂ (fun item value => body item = some value) items values := by
  induction items generalizing values with
  | nil => simp [eq_comm]
  | cons item rest induction =>
      rw [List.mapM_cons, List.forall₂_cons_left_iff]
      simp only [Option.bind_eq_bind, Option.bind_eq_some_iff, Option.pure_def, Option.some.injEq,
        ← induction]
      constructor
      · rintro ⟨value, first, later, others, rfl⟩
        exact ⟨value, later, first, others, rfl⟩
      · rintro ⟨value, later, first, others, rfl⟩
        exact ⟨value, first, later, others, rfl⟩

/-- Both readings of one of the members. -/
def ReadTwice (members : List (String × Json)) (loaded : Json) (parameter : Parameter) : Prop :=
  ∃ member ∈ members, loaded = member.2.loads ∧ Parameter.ofJson member.2 = some parameter

private theorem parametersOfJson_read {value : Json}
    {parameters : { parameters : List (String × Parameter) // (parameters.map Prod.fst).Nodup }}
    (read : parametersOfJson value = some parameters) :
    ∃ members table, value = .object members ∧ parameters.1.Perm table ∧
      List.Forall₂ (fun entry entry' => entry.1 = entry'.1 ∧ ReadTwice members entry.2 entry'.2)
        (Table.ofEntries (loadsMembers members)) table := by
  simp only [parametersOfJson, Option.bind_eq_bind, Option.bind_eq_some_iff, Option.pure_def,
    Option.some.injEq] at read
  obtain ⟨members, object, entries, mapped, rfl⟩ := read
  cases value with
  | object values =>
      cases object
      refine ⟨members, _, rfl, List.perm_insertionSort _ _, Table.forall₂_ofEntries ?_⟩
      rw [loadsMembers_eq, List.forall₂_map_left_iff]
      have each := (List.forall₂_and_left _ _).mpr
        ⟨fun member listed => listed, mapM_eq_some.mp mapped⟩
      refine each.imp fun member entry both => ?_
      obtain ⟨listed, parsed⟩ := both
      obtain ⟨parameter, found, ⟨⟩⟩ := Option.bind_eq_some_iff.mp parsed
      exact ⟨rfl, member, listed, rfl, found⟩
  | _ => cases object

/-- A value whose structs are objects, and whose enumerations are strings. -/
def Json.PlainOperation (value : Json) : Prop :=
  value.asObject.isSome = true ∧ ∀ members, value.get "parameters" = some (.object members) →
    ∀ member ∈ members, member.2.PlainParameter

private theorem parameters_contract {integral : String → Option Int} {value : Json}
    {parameters : { parameters : List (String × Parameter) // (parameters.map Prod.fst).Nodup }}
    (read : parametersOfJson value = some parameters)
    (plain : ∀ members, value = .object members → ∀ member ∈ members, member.2.PlainParameter)
    (valid : Manifest.parametersValid [] parameters.1 = true) :
    Schema.validates integral (.object [("type", .string "object"), ("propertyNames", Schema.name),
      ("additionalProperties", Schema.parameter)]) value.loads = true := by
  obtain ⟨members, table, rfl, same, related⟩ := parametersOfJson_read read
  have each (entry) (listed : entry ∈ Table.ofEntries (loadsMembers members)) :
      Schema.validates integral Schema.name (.string entry.1) = true ∧
        Schema.validates integral Schema.parameter entry.2 = true := by
    obtain ⟨entry', listed', key, member, inside, loaded, parsed⟩ :=
      Table.exists_of_forall₂ related listed
    obtain ⟨named, upstream⟩ :=
      (parametersValid_eq_true valid).1 _ (same.mem_iff.mpr listed')
    rw [key, loaded]
    exact ⟨Schema.validates_name named,
      parameter_contract parsed (plain members rfl member inside) upstream⟩
  rw [Json.loads, Schema.validates_object, List.all_eq_true]
  simp only [List.mem_cons, List.not_mem_nil, or_false, forall_eq_or_imp, forall_eq]
  refine ⟨rfl, ?_, ?_⟩
  · simpa [Schema.holds, Schema.keywords, Json.asObject] using fun name item listed =>
      (each (name, item) listed).1
  · have declares : Schema.declared [("type", .string "object"), ("propertyNames", Schema.name),
        ("additionalProperties", Schema.parameter)] = [] := rfl
    simpa [Schema.holds, Schema.keywords, Json.asObject, declares] using fun name item listed =>
      (each (name, item) listed).2

theorem asStr_eq_some {value : Json} {text : String} (read : value.asStr = some text) :
    value = .string text := by
  cases value with
  | string text =>
      cases read
      rfl
  | _ => cases read

private theorem asBool_eq_some {value : Json} {bool : Bool} (read : value.asBool = some bool) :
    value = .bool bool := by
  cases value with
  | bool bool =>
      cases read
      rfl
  | _ => cases read

theorem asArray_eq_some {value : Json} {items : List Json} (read : value.asArray = some items) :
    value = .array items := by
  cases value with
  | array items =>
      cases read
      rfl
  | _ => cases read

private theorem asU64_eq_some {value : Json} {number : Nat} (read : value.asU64 = some number) :
    value = .unsigned number := by
  cases value with
  | unsigned number =>
      cases read
      rfl
  | _ => cases read

private theorem operation_contract {integral : String → Option Int} {value : Json}
    {operation : ManifestOperation} (read : ManifestOperation.ofJson value = some operation)
    (plain : value.PlainOperation) {names paths : List String}
    (valid : Manifest.operationValid names paths operation = true) :
    Schema.validates integral Schema.operation value.loads = true := by
  unfold ManifestOperation.ofJson at read
  split at read
  · rename_i name description path upstreamPath parameters found
    obtain ⟨-, -, -, -, got⟩ := fields_object plain.1 found
    simp only [List.map_cons, List.map_nil, List.cons.injEq, and_true] at got
    simp only [Option.bind_eq_bind, Option.bind_eq_some_iff, Option.pure_def,
      Option.some.injEq] at read
    obtain ⟨map, readMap, name', readName, description', readDescription, path', readPath,
      upstreamPath', readUpstreamPath, rfl⟩ := read
    obtain rfl := asStr_eq_some readName
    obtain rfl := asStr_eq_some readDescription
    obtain rfl := asStr_eq_some readPath
    obtain rfl := asStr_eq_some readUpstreamPath
    simp only [Manifest.operationValid, Bool.and_eq_true] at valid
    obtain ⟨⟨⟨⟨⟨named, -⟩, routed⟩, -⟩, upstream⟩, mapped⟩ := valid
    refine validates_fields ?_ plain.1 found ?_ ?_ [] (by simp)
    · rfl
    · simp only [List.mem_cons, List.not_mem_nil, or_false, forall_eq_or_imp, forall_eq, got,
        Option.isSome_some, and_self]
    · simp only [List.mem_cons, List.not_mem_nil, or_false, forall_eq_or_imp, forall_eq, got,
        Option.some.injEq, forall_eq']
      refine ⟨Schema.validates_name named, rfl, Schema.validates_path ?_,
        Schema.validates_path upstream, parameters_contract readMap ?_ mapped⟩
      · simp only [operationPath, Bool.and_eq_true] at routed
        exact routed.1.1.1.1.1
      · rintro members rfl
        exact plain.2 members got.2.2.2.2
  · cases read

/-- A value whose struct is an object, and whose enumeration is a string. -/
def Json.PlainCredential (value : Json) : Prop :=
  value.asObject.isSome = true ∧
    ∀ clientClass, value.get "client_class" = some clientClass → clientClass.asStr.isSome = true

theorem ClientClass.text_of_ofJson {text : String} {clientClass : ClientClass}
    (read : ClientClass.ofJson (.string text) = some clientClass) :
    text = "agent" ∨ text = "interactive" := by
  unfold ClientClass.ofJson Json.variant at read
  split at read
  · rename_i same
    exact .inl (Option.some.inj same)
  · rename_i same
    exact .inr (Option.some.inj same)
  · cases read

private theorem credential_contract {integral : String → Option Int} {value : Json}
    {credential : ManifestCredential} (read : ManifestCredential.ofJson value = some credential)
    (plain : value.PlainCredential) {names envs : List String}
    (known : ∀ name ∈ names, identifier name.toList = true)
    (valid : Manifest.credentialValid names envs credential = true) :
    Schema.validates integral Schema.credential value.loads = true := by
  unfold ManifestCredential.ofJson at read
  split at read
  · rename_i tokenEnv required principalId clientClass operations maxOutstanding found
    obtain ⟨-, -, -, -, got⟩ := fields_object plain.1 found
    simp only [List.map_cons, List.map_nil, List.cons.injEq, and_true] at got
    simp only [Option.bind_eq_bind, Option.bind_eq_some_iff, Option.pure_def,
      Option.some.injEq] at read
    obtain ⟨tokenEnv', readTokenEnv, required', readRequired, principalId', readPrincipalId,
      clientClass', readClientClass, items, readItems, operations', readOperations,
      maxOutstanding', readMaxOutstanding, rfl⟩ := read
    obtain rfl := asStr_eq_some readTokenEnv
    obtain rfl := asStr_eq_some readPrincipalId
    obtain rfl := asBool_eq_some readRequired
    obtain rfl := asArray_eq_some readItems
    obtain rfl := asU64_eq_some readMaxOutstanding
    obtain ⟨text, rfl⟩ : ∃ text, clientClass = .string text := by
      obtain ⟨text, string⟩ := Option.isSome_iff_exists.mp (plain.2 clientClass got.2.2.2.1)
      exact ⟨text, asStr_eq_some string⟩
    simp only [Manifest.credentialValid, Bool.and_eq_true, decide_eq_true_eq] at valid
    obtain ⟨⟨⟨⟨named, -⟩, owned⟩, least, most⟩, granted⟩ := valid
    refine validates_fields ?_ plain.1 found ?_ ?_ [] (by simp)
    · rfl
    · simp only [List.mem_cons, List.not_mem_nil, or_false, forall_eq_or_imp, forall_eq, got,
        Option.isSome_some, and_self]
    · simp only [List.mem_cons, List.not_mem_nil, or_false, forall_eq_or_imp, forall_eq, got,
        Option.some.injEq, forall_eq']
      refine ⟨Schema.validates_name named, rfl, ?_, ?_, ?_, ?_⟩
      · have nonempty : 1 ≤ principalId'.length := by
          rw [Nat.one_le_iff_ne_zero, ne_eq, String.length_eq_zero_iff]
          exact owned
        simp [Schema.validates, Schema.keywords, Schema.asserts, Schema.hasType, Json.loads,
          Json.asStr, Json.asU64, nonempty]
      · rcases ClientClass.text_of_ofJson readClientClass with rfl | rfl <;> rfl
      · rw [Json.loads, loadsItems_eq]
        have each (item) (listed : item ∈ items.map Json.loads) :
            Schema.validates integral Schema.name item = true := by
          obtain ⟨raw, inside, rfl⟩ := List.mem_map.mp listed
          obtain ⟨name, listed', text⟩ :=
            Table.exists_of_forall₂ (mapM_eq_some.mp readOperations) inside
          obtain rfl := asStr_eq_some text
          have granted := List.all_eq_true.mp granted name listed'
          exact Schema.validates_name (known name (List.contains_iff_mem.mp granted))
        simpa [Schema.validates, Schema.keywords, Schema.asserts, Schema.hasType, Json.asStr,
          Json.asArray] using each
      · simp [Schema.validates, Schema.keywords, Schema.asserts, Schema.hasType, Json.loads,
          Json.asStr, Json.asU64, Json.integer]
        omega
  · cases read

/-- A manifest whose structs are objects, and whose enumerations are strings. -/
structure Json.PlainManifest (document : Json) : Prop where
  /-- The manifest. -/
  object : document.asObject.isSome = true
  /-- Its operations. -/
  operations : ∀ items, document.get "operations" = some (.array items) →
    ∀ item ∈ items, item.PlainOperation
  /-- Its credentials. -/
  credentials : ∀ items, document.get "credentials" = some (.array items) →
    ∀ item ∈ items, item.PlainCredential

theorem validates_items {integral : String → Option Int} {schema : Json} {items : List Json}
    (some : items ≠ [])
    (each : ∀ item ∈ items, Schema.validates integral schema item.loads = true) :
    Schema.validates integral (.object [("type", .string "array"), ("minItems", .unsigned 1),
      ("items", schema)]) (Json.array items).loads = true := by
  have size : 1 ≤ items.length := List.length_pos_of_ne_nil some
  rw [Json.loads, loadsItems_eq]
  simpa [Schema.validates, Schema.keywords, Schema.asserts, Schema.hasType, Json.asStr,
    Json.asArray, Json.asU64, size] using each

/-- An accepted manifest satisfies the published schema. -/
theorem manifest_contract {integral : String → Option Int} {document : Json}
    {manifest parsed : Manifest} (read : Manifest.ofJson document = some manifest)
    (accepted : manifest.parse = .ok parsed) (plain : document.PlainManifest) :
    Schema.validates integral Schema.manifest document.loads = true := by
  obtain ⟨-, named, operationsChecked⟩ := Manifest.parse_eq_ok accepted
  obtain ⟨version, someOperations, someCredentials, checked⟩ := Manifest.parse_checked accepted
  have operationsValid := checkOperations_valid operationsChecked
  have credentialsValid := (checkCredentials_valid checked).1
  have known (name) (listed : name ∈ manifest.operations.map ManifestOperation.name) :
      identifier name.toList = true := by
    obtain ⟨operation, member, rfl⟩ := List.mem_map.mp listed
    obtain ⟨_, _, valid⟩ := operationsValid operation member
    simp only [Manifest.operationValid, Bool.and_eq_true] at valid
    exact valid.1.1.1.1.1
  unfold Manifest.ofJson at read
  split at read
  · rename_i formatVersion serviceId operations credentials found
    obtain ⟨-, -, -, -, got⟩ := fields_object plain.object found
    simp only [List.map_cons, List.map_nil, List.cons.injEq, and_true] at got
    simp only [Option.bind_eq_bind, Option.bind_eq_some_iff, Option.pure_def,
      Option.some.injEq] at read
    obtain ⟨formatVersion', readFormatVersion, serviceId', readServiceId, operationItems,
      readOperationItems, operations', readOperations, credentialItems, readCredentialItems,
      credentials', readCredentials, rfl⟩ := read
    obtain rfl := asStr_eq_some readServiceId
    obtain rfl := asArray_eq_some readOperationItems
    obtain rfl := asArray_eq_some readCredentialItems
    have related := mapM_eq_some.mp readOperations
    have related' := mapM_eq_some.mp readCredentials
    refine validates_fields ?_ plain.object found ?_ ?_
      [("$schema", .string "https://json-schema.org/draft/2020-12/schema"),
        ("$id", .string "urn:ai-protocol:manifest:1"),
        ("title", .string "Read-only HTTP adapter manifest v1")] (by simp)
    · rfl
    · simp only [List.mem_cons, List.not_mem_nil, or_false, forall_eq_or_imp, forall_eq, got,
        Option.isSome_some, and_self]
    · simp only [List.mem_cons, List.not_mem_nil, or_false, forall_eq_or_imp, forall_eq, got,
        Option.some.injEq, forall_eq']
      refine ⟨?_, Schema.validates_name named, ?_, ?_⟩
      · rintro item rfl
        obtain ⟨unsigned, -⟩ := Option.filter_eq_some_iff.mp readFormatVersion
        obtain rfl := asU64_eq_some unsigned
        obtain rfl : formatVersion' = 1 := version
        rfl
      · refine validates_items (fun none => someOperations ?_) fun item member => ?_
        · subst none
          exact List.forall₂_nil_left_iff.mp related
        · obtain ⟨operation, listed, parsed⟩ := Table.exists_of_forall₂ related member
          obtain ⟨names, paths, valid⟩ := operationsValid operation listed
          exact operation_contract parsed (plain.operations _ got.2.2.1 item member) valid
      · refine validates_items (fun none => someCredentials ?_) fun item member => ?_
        · subst none
          exact List.forall₂_nil_left_iff.mp related'
        · obtain ⟨credential, listed, parsed⟩ := Table.exists_of_forall₂ related' member
          obtain ⟨envs, valid⟩ := credentialsValid credential listed
          exact credential_contract parsed (plain.credentials _ got.2.2.2 item member) known valid
  · cases read

/-! ## Resolving tokens -/

/-- The credential of a manifest with its token. -/
def ManifestCredential.credential (credential : ManifestCredential) (token : String) :
    Credential where
  token := token
  principalId := credential.principalId
  clientClass := credential.clientClass
  operations := credential.operations
  maxOutstanding := credential.maxOutstanding

namespace Manifest

/-- `Service::identities`. -/
def identities (read : String → Except VarError String) (manifest : Manifest) :
    Except String Registry :=
  match resolve read manifest.credentials with
  | .error error => .error error
  | .ok credentials =>
      Registry.ofCredentials (manifest.service.map Operation.name) credentials

/-- The credential which is resolved, if its token is read. -/
def resolved (read : String → Except VarError String) (credential : ManifestCredential) :
    Option Credential :=
  match read credential.tokenEnv with
  | .ok token => some (credential.credential token)
  | .error _ => none

/-- What the tokens of a manifest must be. -/
structure Resolvable (read : String → Except VarError String) (manifest : Manifest) : Prop where
  /-- The tokens required are present. -/
  present : ∀ credential ∈ manifest.credentials, credential.required = true →
    read credential.tokenEnv ≠ .error .notPresent
  /-- No token is unreadable. -/
  readable : ∀ credential ∈ manifest.credentials, read credential.tokenEnv ≠ .error .notUnicode
  /-- The tokens are well-formed. -/
  valid : ∀ credential ∈ manifest.credentials, ∀ token, read credential.tokenEnv = .ok token →
    validToken token = true
  /-- No two tokens are equal. -/
  distinct : ∀ left ∈ manifest.credentials, ∀ right ∈ manifest.credentials, ∀ token,
    read left.tokenEnv = .ok token → read right.tokenEnv = .ok token →
      left.tokenEnv = right.tokenEnv
  /-- There is a token. -/
  some : ∃ credential ∈ manifest.credentials, ∃ token, read credential.tokenEnv = .ok token

/-- One credential does not stop the loop. -/
def Passes (read : String → Except VarError String) (credential : ManifestCredential) : Prop :=
  (∃ token, read credential.tokenEnv = .ok token ∧ validToken token = true) ∨
    read credential.tokenEnv = .error .notPresent ∧ credential.required = false

theorem resolve_eq_ok {read : String → Except VarError String}
    {credentials : List ManifestCredential} {tokens : List Credential} :
    resolve read credentials = .ok tokens ↔
      (∀ credential ∈ credentials, Passes read credential) ∧
        tokens = credentials.filterMap (resolved read) := by
  induction credentials generalizing tokens with
  | nil => simp [resolve, eq_comm]
  | cons credential rest induction =>
      simp only [List.mem_cons, forall_eq_or_imp]
      cases found : read credential.tokenEnv with
      | error error =>
          have nothing : resolved read credential = none := by simp [resolved, found]
          rw [List.filterMap_cons_none nothing]
          cases error with
          | notPresent =>
              cases required : credential.required with
              | true => simp [resolve, found, required, Passes]
              | false => simp [resolve, found, required, Passes, induction]
          | notUnicode => simp [resolve, found, Passes]
      | ok token =>
          have something : resolved read credential = .some (credential.credential token) := by
            simp [resolved, found]
          rw [List.filterMap_cons_some something]
          by_cases valid : validToken token = true
          · have later : resolve read (credential :: rest) =
                (resolve read rest).map (credential.credential token :: ·) := by
              simp only [resolve, found, valid, ↓reduceIte]
              rfl
            have passes : Passes read credential := .inl ⟨token, found, valid⟩
            rw [later]
            cases others : resolve read rest with
            | error error =>
                have stopped : ¬∀ credential ∈ rest, Passes read credential := by
                  intro all
                  have resolves : resolve read rest = .ok (rest.filterMap (resolved read)) :=
                    induction.mpr ⟨all, rfl⟩
                  rw [others] at resolves
                  cases resolves
                simp [Except.map, stopped]
            | ok tokens' =>
                obtain ⟨all, rfl⟩ := induction.mp others
                simp only [Except.map, passes, true_and, Except.ok.injEq]
                exact ⟨fun same => ⟨all, same.symm⟩, fun both => both.2.symm⟩
          · simp [resolve, found, Passes, valid]

theorem resolved_eq_some {read : String → Except VarError String}
    {credential : ManifestCredential} {found : Credential} :
    resolved read credential = .some found ↔
      ∃ token, read credential.tokenEnv = .ok token ∧ credential.credential token = found := by
  unfold resolved
  split
  · rename_i token read
    simp [read]
  · rename_i error read
    simp [read]

private theorem nodup_filterMap {Item Key Value : Type} {key : Item → Key}
    {value : Item → Option Value}
    {items : List Item} (distinct : (items.map key).Nodup) :
    (items.filterMap value).Nodup ↔ ∀ left ∈ items, ∀ right ∈ items, ∀ found,
      value left = .some found → value right = .some found → key left = key right := by
  rw [List.Nodup, List.pairwise_filterMap]
  constructor
  · intro pairwise left member right other found known known'
    by_contra different
    have symmetric : Std.Symm fun left right => ∀ found, value left = .some found →
        ∀ found', value right = .some found' → found ≠ found' :=
      ⟨fun left right apart found known found' known' => (apart found' known' found known).symm⟩
    have apart := pairwise.forall member other fun same => different (congrArg key same)
    exact apart found known found known' rfl
  · intro same
    refine (List.pairwise_map.mp distinct).imp_of_mem ?_
    intro left right member other apart found known found' known' equal
    exact apart (same left member right other found known (equal ▸ known'))

theorem passes_iff {read : String → Except VarError String} {credential : ManifestCredential} :
    Passes read credential ↔
      (credential.required = true → read credential.tokenEnv ≠ .error .notPresent) ∧
        read credential.tokenEnv ≠ .error .notUnicode ∧
          ∀ token, read credential.tokenEnv = .ok token → validToken token = true := by
  unfold Passes
  cases read credential.tokenEnv with
  | ok token => simp
  | error error => cases error <;> simp

theorem filterMap_resolved_ne_nil {read : String → Except VarError String}
    {credentials : List ManifestCredential} :
    credentials.filterMap (resolved read) ≠ [] ↔
      ∃ credential ∈ credentials, ∃ token, read credential.tokenEnv = .ok token := by
  constructor
  · intro something
    obtain ⟨first, listed⟩ := List.exists_mem_of_ne_nil _ something
    obtain ⟨credential, member, found⟩ := List.mem_filterMap.mp listed
    obtain ⟨token, known, -⟩ := resolved_eq_some.mp found
    exact ⟨credential, member, token, known⟩
  · rintro ⟨credential, member, token, found⟩
    exact List.ne_nil_of_mem (List.mem_filterMap.mpr
      ⟨credential, member, resolved_eq_some.mpr ⟨token, found, rfl⟩⟩)

theorem nodup_filterMap_resolved {read : String → Except VarError String}
    {credentials : List ManifestCredential}
    (distinct : (credentials.map ManifestCredential.tokenEnv).Nodup) :
    ((credentials.filterMap (resolved read)).map Credential.token).Nodup ↔
      ∀ left ∈ credentials, ∀ right ∈ credentials, ∀ token, read left.tokenEnv = .ok token →
        read right.tokenEnv = .ok token → left.tokenEnv = right.tokenEnv := by
  have tokens : (credentials.filterMap (resolved read)).map Credential.token =
      credentials.filterMap fun credential => (read credential.tokenEnv).toOption := by
    rw [List.map_filterMap]
    refine List.filterMap_congr fun credential member => ?_
    unfold resolved
    cases read credential.tokenEnv <;> rfl
  have read_eq_ok (credential : ManifestCredential) (token : String) :
      (read credential.tokenEnv).toOption = .some token ↔ read credential.tokenEnv = .ok token := by
    cases read credential.tokenEnv <;> simp [Except.toOption]
  rw [tokens, nodup_filterMap distinct]
  simp only [read_eq_ok]

private theorem identities_isOk_iff {read : String → Except VarError String} {manifest : Manifest} :
    (∃ registry, manifest.identities read = .ok registry) ↔
      (∀ credential ∈ manifest.credentials, Passes read credential) ∧
        manifest.credentials.filterMap (resolved read) ≠ [] ∧
          Consistent (manifest.operations.map ManifestOperation.name)
            (manifest.credentials.filterMap (resolved read)) := by
  have names : manifest.service.map Operation.name =
      manifest.operations.map ManifestOperation.name := by
    simp [service, Function.comp_def]
  unfold identities
  rw [names]
  cases tokens : resolve read manifest.credentials with
  | error error =>
      have stopped : ¬∀ credential ∈ manifest.credentials, Passes read credential := by
        intro all
        have resolves := resolve_eq_ok.mpr ⟨all, rfl⟩
        rw [tokens] at resolves
        cases resolves
      simp [stopped]
  | ok credentials =>
      obtain ⟨all, rfl⟩ := resolve_eq_ok.mp tokens
      simp only [Registry.ofCredentials_isOk]
      exact ⟨fun both => ⟨all, both⟩, fun three => three.2⟩

/-- The credentials of an accepted manifest are consistent, if their tokens are well-formed and
distinct. -/
theorem consistent_resolved {read : String → Except VarError String} {manifest parsed : Manifest}
    (accepted : manifest.parse = .ok parsed) (resolvable : manifest.Resolvable read) :
    Consistent (manifest.operations.map ManifestOperation.name)
      (manifest.credentials.filterMap (resolved read)) := by
  obtain ⟨-, -, -, checked⟩ := parse_checked accepted
  obtain ⟨valid, ⟨distinct, -⟩, -, agree⟩ := checkCredentials_valid checked
  refine ⟨?_, (nodup_filterMap_resolved distinct).mpr resolvable.distinct, ?_⟩
  · intro found listed
    obtain ⟨credential, member, known⟩ := List.mem_filterMap.mp listed
    obtain ⟨token, present, rfl⟩ := resolved_eq_some.mp known
    obtain ⟨envs, checked⟩ := valid credential member
    simp only [credentialValid, Bool.and_eq_true, decide_eq_true_eq, List.all_eq_true,
      List.contains_iff_mem] at checked
    exact ⟨resolvable.valid credential member token present, checked.1.1.2, checked.1.2,
      checked.2⟩
  · intro left listed right listed' same
    obtain ⟨credential, member, known⟩ := List.mem_filterMap.mp listed
    obtain ⟨credential', member', known'⟩ := List.mem_filterMap.mp listed'
    obtain ⟨token, -, rfl⟩ := resolved_eq_some.mp known
    obtain ⟨token', -, rfl⟩ := resolved_eq_some.mp known'
    have symmetric : Std.Symm fun left right : ManifestCredential =>
        (left.principalId, left.clientClass) = (right.principalId, right.clientClass) →
          left.maxOutstanding = right.maxOutstanding :=
      ⟨fun left right agrees owner => (agrees owner.symm).symm⟩
    exact agree.forall_of_forall (fun _ _ _ => rfl) member member' same

private theorem identities_isOk {read : String → Except VarError String}
    {manifest parsed : Manifest}
    (accepted : manifest.parse = .ok parsed) :
    (∃ registry, manifest.identities read = .ok registry) ↔ manifest.Resolvable read := by
  obtain ⟨-, -, -, checked⟩ := parse_checked accepted
  obtain ⟨-, ⟨distinct, -⟩, -⟩ := checkCredentials_valid checked
  rw [identities_isOk_iff]
  constructor
  · rintro ⟨passes, something, consistent⟩
    exact ⟨fun credential member => (passes_iff.mp (passes credential member)).1,
      fun credential member => (passes_iff.mp (passes credential member)).2.1,
      fun credential member => (passes_iff.mp (passes credential member)).2.2,
      (nodup_filterMap_resolved distinct).mp consistent.distinct,
      filterMap_resolved_ne_nil.mp something⟩
  · intro resolvable
    exact ⟨fun credential member => passes_iff.mpr ⟨resolvable.present credential member,
        resolvable.readable credential member, resolvable.valid credential member⟩,
      filterMap_resolved_ne_nil.mpr resolvable.some, consistent_resolved accepted resolvable⟩

end Manifest

/-- Manifest acceptance.  Where an accepted manifest is registered, only its tokens can be wrong:
a required token is missing, a token is unreadable or malformed, two are equal, or there is none.
And the document satisfies the published schema, if its structs are objects and its enumerations
strings. -/
theorem manifest_acceptance (integral : String → Option Int) {document : Json}
    {manifest parsed : Manifest} (read : Manifest.ofJson document = some manifest)
    (accepted : manifest.parse = .ok parsed) :
    (∀ resolver, (∃ registry, parsed.identities resolver = .ok registry) ↔
      parsed.Resolvable resolver) ∧
    (document.PlainManifest → Schema.validates integral Schema.manifest document.loads = true) := by
  obtain ⟨rfl, -, -⟩ := Manifest.parse_eq_ok accepted
  exact ⟨fun resolver => Manifest.identities_isOk accepted, manifest_contract read accepted⟩

/-- The document of a manifest. -/
def archiveDocument : Json :=
  .object
    [("service_id", .string "archive"),
     ("operations", .array [.object
       [("name", .string "page"), ("description", .string ""), ("path", .string "/page"),
        ("upstream_path", .string "/pages"),
        ("parameters", .object
          [("number", .object [("type", .string "integer"), ("upstream", .string "n")])])]]),
     ("credentials", .array [.object
       [("token_env", .string "TOKEN"), ("required", .bool true), ("principal_id", .string "owner"),
        ("client_class", .string "agent"), ("operations", .array [.string "page"]),
        ("max_outstanding", .unsigned 2)]])]

private theorem plainManifest_archiveDocument : archiveDocument.PlainManifest where
  object := rfl
  operations := by
    rintro items ⟨⟩ item member
    obtain rfl := List.mem_singleton.mp member
    refine ⟨rfl, ?_⟩
    rintro members ⟨⟩ parameter listed
    obtain rfl := List.mem_singleton.mp listed
    refine ⟨rfl, ?_⟩
    rintro kind ⟨⟩
    rfl
  credentials := by
    rintro items ⟨⟩ item member
    obtain rfl := List.mem_singleton.mp member
    refine ⟨rfl, ?_⟩
    rintro clientClass ⟨⟩
    rfl

private theorem resolvable_archive {manifest : Manifest}
    (read : Manifest.ofJson archiveDocument = some manifest) :
    manifest.Resolvable fun _ => .ok "t" := by
  obtain ⟨credential, only⟩ : ∃ credential : ManifestCredential,
      manifest.credentials = [credential] := by
    obtain rfl := Option.some.inj read
    exact ⟨_, rfl⟩
  constructor <;> rw [only]
  · rintro credential - - ⟨⟩
  · rintro credential - ⟨⟩
  · rintro credential - token ⟨⟩
    decide
  · intro left member right member'
    rw [List.mem_singleton.mp member, List.mem_singleton.mp member']
    exact fun _ _ _ => rfl
  · exact ⟨credential, List.mem_singleton_self credential, "t", rfl⟩

theorem manifest_acceptance_sample : ∃ manifest,
    Manifest.ofJson archiveDocument = some manifest ∧ manifest.parse = .ok manifest ∧
      (∃ registry, manifest.identities (fun _ => .ok "t") = .ok registry) ∧
      Schema.validates (fun _ => none) Schema.manifest archiveDocument.loads = true := by
  obtain ⟨manifest, read, accepted⟩ : ∃ manifest,
      Manifest.ofJson archiveDocument = some manifest ∧ manifest.parse = .ok manifest :=
    ⟨_, rfl, rfl⟩
  obtain ⟨registers, satisfies⟩ := manifest_acceptance (fun _ => none) read accepted
  exact ⟨manifest, read, accepted, (registers _).mpr (resolvable_archive read),
    satisfies plainManifest_archiveDocument⟩

end AiProtocol
