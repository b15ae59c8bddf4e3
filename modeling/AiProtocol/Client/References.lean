import AiProtocol.Client.Policy

/-!
# References of schemas

The client accepts the schema of an operation if the text of every reference begins with `#`.  Such
a reference is resolved against the URI set by the nearest enclosing `$id`, which is looked up among
the resources that known keywords lead to in the document, and fetched if it is not there.
-/

namespace AiProtocol

/-! ## Parts of a document -/

/-- A value inside a document. -/
inductive Json.Part (document : Json) : Json → Prop
  | whole : Part document document
  | member {members : List (String × Json)} {key : String} {item : Json}
      (part : Part document (.object members)) (listed : (key, item) ∈ members) :
      Part document item
  | item {items : List Json} {item : Json} (part : Part document (.array items))
      (listed : item ∈ items) : Part document item

theorem mem_of_get {value item : Json} {key : String} (found : value.get key = some item) :
    ∃ members, value = .object members ∧ (key, item) ∈ members := by
  obtain ⟨members, object, entry⟩ := Option.bind_eq_some_iff.mp found
  cases value with
  | object members' =>
      obtain rfl := Option.some.inj object
      obtain ⟨front, back, split, -⟩ := List.lookup_eq_some_iff.mp entry
      exact ⟨members', rfl, by simp [split]⟩
  | _ => cases object

theorem Json.Part.get {document value item : Json} {key : String} (part : document.Part value)
    (found : value.get key = some item) : document.Part item := by
  obtain ⟨members, rfl, listed⟩ := mem_of_get found
  exact .member part listed

theorem Json.Part.trans {document value inner : Json} (part : document.Part value)
    (inside : value.Part inner) : document.Part inner := by
  induction inside with
  | whole => exact part
  | member _ listed induction => exact .member induction listed
  | item _ listed induction => exact .item induction listed

private theorem checkReferences_part {frames : Nat} {document value : Json}
    (accepted : checkReferences frames document = .ok ()) (part : document.Part value) :
    ∃ frames, checkReferences frames value = .ok () := by
  induction part with
  | whole => exact ⟨frames, accepted⟩
  | member _ listed induction =>
      obtain ⟨frames, checked⟩ := induction
      cases frames with
      | zero => cases checked
      | succ frames =>
          have each := each_eq_ok.mp checked _ listed
          split at each
          · cases each
          · exact ⟨frames, each⟩
  | item _ listed induction =>
      obtain ⟨frames, checked⟩ := induction
      cases frames with
      | zero => cases checked
      | succ frames => exact ⟨frames, each_eq_ok.mp checked _ listed⟩

theorem externalReference_part {frames : Nat} {document value item : Json} {key : String}
    (accepted : checkReferences frames document = .ok ()) (part : document.Part value)
    (found : value.get key = some item) : externalReference key item = false := by
  obtain ⟨members, rfl, listed⟩ := mem_of_get found
  obtain ⟨frames, checked⟩ := checkReferences_part accepted part
  cases frames with
  | zero => cases checked
  | succ frames =>
      have each := each_eq_ok.mp checked _ listed
      split at each
      · cases each
      · rename_i internal
        simpa using internal

/-! ## Subschemas -/

/-- Keywords whose value is a schema. -/
def inValue : List String :=
  ["additionalProperties", "contains", "contentSchema", "else", "if", "items", "not",
    "propertyNames", "then", "unevaluatedItems", "unevaluatedProperties"]

/-- Keywords whose value is an array of schemas. -/
def inSubarray : List String :=
  ["allOf", "anyOf", "oneOf", "prefixItems"]

/-- Keywords whose value is an object of schemas. -/
def inSubvalues : List String :=
  ["$defs", "definitions", "dependentSchemas", "patternProperties", "properties"]

/-- Known keywords which are not evaluated. -/
def unevaluated : List String :=
  ["$defs", "definitions", "contentSchema"]

/-- A schema below a known keyword. -/
inductive Subschema (schema : Json) : String → Json → Prop
  | value {keyword : String} {child : Json} (known : keyword ∈ inValue)
      (found : schema.get keyword = some child) : Subschema schema keyword child
  | array {keyword : String} {items : List Json} {child : Json} (known : keyword ∈ inSubarray)
      (found : schema.get keyword = some (.array items)) (listed : child ∈ items) :
      Subschema schema keyword child
  | values {keyword key : String} {members : List (String × Json)} {child : Json}
      (known : keyword ∈ inSubvalues) (found : schema.get keyword = some (.object members))
      (listed : (key, child) ∈ members) : Subschema schema keyword child

theorem Subschema.part {schema child : Json} {keyword : String}
    (sub : Subschema schema keyword child) : schema.Part child := by
  cases sub with
  | value _ found => exact .get .whole found
  | array _ found listed => exact .item (.get .whole found) listed
  | values _ found listed => exact .member (.get .whole found) listed

/-- A reference of a schema. -/
def Json.Refers (schema reference : Json) : Prop :=
  schema.get "$ref" = some reference ∨ schema.get "$dynamicRef" = some reference

/-! ## Resources -/

section Evaluation

variable (join : String → String → String)

/-- The base URI inside a value. -/
def enter (base : String) (value : Json) : String :=
  match value.get "$id" with
  | some (.string id) => join base id
  | _ => base

/-- The value at a path with its base URI, which the nearest enclosing `$id` sets. -/
def walk (base : String) (value : Json) : List String → Option (String × Json)
  | [] => some (base, value)
  | segment :: path =>
      let item := match value with
        | .object members => members.lookup segment
        | .array items => segment.toNat?.bind fun index => items[index]?
        | _ => none
      item.bind fun item => walk (enter join base item) item path

/-- The schemas with their base URIs which known keywords lead to. -/
inductive Known (schema : Json) : String → Json → Prop
  | root : Known schema (enter join "" schema) schema
  | sub {base keyword : String} {value child : Json} (known : Known schema base value)
      (sub : Subschema value keyword child) : Known schema (enter join base child) child

/-- The resources with their URIs which known keywords lead to. -/
inductive Resource (schema : Json) : String → Json → Prop
  | root : Resource schema (enter join "" schema) schema
  | embedded {base id : String} {value : Json} (known : Known join schema base value)
      (identified : value.get "$id" = some (.string id)) : Resource schema base value

/-- The registry of a document finds its resources, and fetches what it does not find. -/
structure Resources (schema : Json) where
  /-- The resource of a URI. -/
  resource : String → Option Json
  /-- Only resources of the document are found. -/
  found : ∀ uri value, resource uri = some value → Resource join schema uri value
  /-- The URIs of all resources are found. -/
  complete : ∀ uri value, Resource join schema uri value → ∃ value', resource uri = some value'

section Semantics

variable {join} {schema : Json} (resources : Resources join schema)

/-- A reference of a schema leads to another one.  Its fragment is resolved to a path in a resource,
the one of the base URI or, for a dynamic reference, one that evaluation has passed. -/
def LeadsTo (resolve : String → String → String → List String → Prop) (base : String)
    (value : Json) (base' : String) (value' : Json) : Prop :=
  ∃ fragment uri path resource, value.Refers (.string ("#" ++ fragment)) ∧
    resolve base fragment uri path ∧ resources.resource uri = some resource ∧
      walk join uri resource path = some (base', value')

/-- The schemas with their base URIs which the evaluation of an instance can reach. -/
inductive Reaches (resolve : String → String → String → List String → Prop) :
    String → Json → Prop
  | root : Reaches resolve (enter join "" schema) schema
  | apply {base keyword : String} {value child : Json} (reached : Reaches resolve base value)
      (sub : Subschema value keyword child) (evaluated : keyword ∉ unevaluated) :
      Reaches resolve (enter join base child) child
  | refer {base base' : String} {value value' : Json} (reached : Reaches resolve base value)
      (target : LeadsTo resources resolve base value base' value') : Reaches resolve base' value'

/-- The schemas below a schema which is evaluated. -/
inductive Below (join : String → String → String) (base : String) (value : Json) :
    String → Json → Prop
  | refl : Below join base value base value
  | apply {base' keyword : String} {value' child : Json}
      (below : Below join base value base' value') (sub : Subschema value' keyword child)
      (evaluated : keyword ∉ unevaluated) : Below join base value (enter join base' child) child

/-- Every reference that evaluation reaches has the URI of a resource of the document, which is not
fetched. -/
def Internal (resolve : String → String → String → List String → Prop) : Prop :=
  ∀ base value reference, Reaches resources resolve base value → value.Refers reference →
    ∃ fragment resource, reference = .string ("#" ++ fragment) ∧
      resources.resource base = some resource

/-- Where a reference leads to a place that known keywords do not lead to, no `$id` around the
references at and below it sets another base URI than the one of a resource. -/
def Sheltered (resolve : String → String → String → List String → Prop) : Prop :=
  ∀ base value base' value', Reaches resources resolve base value →
    LeadsTo resources resolve base value base' value' → ¬Known join schema base' value' →
      ∀ base'' value'' reference, Below join base' value' base'' value'' →
        value''.Refers reference → ∃ resource, Resource join schema base'' resource

end Semantics

end Evaluation

/-! ## Base URIs -/

section Known

variable {join : String → String → String} {schema : Json}

theorem Known.part {base : String} {value : Json} (known : Known join schema base value) :
    schema.Part value := by
  induction known with
  | root => exact .whole
  | sub _ sub induction => exact induction.trans sub.part

theorem Known.resource {base : String} {value : Json} (known : Known join schema base value) :
    ∃ resource, Resource join schema base resource := by
  induction known with
  | root => exact ⟨schema, .root⟩
  | @sub base keyword value child known sub induction =>
      cases identified : child.get "$id" with
      | none => simpa [enter, identified] using induction
      | some id =>
          cases id with
          | string id => exact ⟨child, .embedded (known.sub sub) identified⟩
          | _ => simpa [enter, identified] using induction

theorem Resource.part {uri : String} {value : Json} (resource : Resource join schema uri value) :
    schema.Part value := by
  cases resource with
  | root => exact .whole
  | embedded known => exact known.part

theorem exists_item_of_walk {base base' segment : String} {value value' : Json}
    {path : List String} (walked : walk join base value (segment :: path) = some (base', value')) :
    ∃ item, value.Part item ∧
      walk join (enter join base item) item path = some (base', value') := by
  obtain ⟨item, found, rest⟩ := Option.bind_eq_some_iff.mp walked
  refine ⟨item, ?_, rest⟩
  split at found
  · exact .get .whole found
  · obtain ⟨index, -, listed⟩ := Option.bind_eq_some_iff.mp found
    exact .item .whole (List.mem_of_getElem? listed)
  · cases found

theorem part_of_walk {base base' : String} {value value' : Json} {path : List String}
    (walked : walk join base value path = some (base', value')) : value.Part value' := by
  induction path generalizing base value with
  | nil =>
      obtain ⟨-, rfl⟩ := Prod.mk.inj (Option.some.inj walked)
      exact .whole
  | cons segment path induction =>
      obtain ⟨item, inside, rest⟩ := exists_item_of_walk walked
      exact inside.trans (induction rest)

private theorem fragment_of_refers {frames : Nat}
    (accepted : checkReferences frames schema = .ok ())
    {value reference : Json} (part : schema.Part value) (refers : value.Refers reference) :
    ∃ fragment, reference = .string ("#" ++ fragment) := by
  have internal : (reference.asStr.any fun text => "#".toList.isPrefixOf text.toList) = true := by
    rcases refers with found | found
    · simpa [externalReference] using externalReference_part accepted part found
    · simpa [externalReference] using externalReference_part accepted part found
  obtain ⟨text, string, begins⟩ := (Option.any_eq_true ..).mp internal
  cases reference with
  | string text' =>
      obtain rfl := Option.some.inj string
      obtain ⟨rest, split⟩ := List.isPrefixOf_iff_prefix.mp begins
      refine ⟨String.ofList rest, congrArg Json.string (String.toList_inj.mp ?_)⟩
      simpa using split.symm
  | _ => cases string

variable {resources : Resources join schema}
  {resolve : String → String → String → List String → Prop}

theorem Reaches.part {base : String} {value : Json}
    (reached : Reaches resources resolve base value) : schema.Part value := by
  induction reached with
  | root => exact .whole
  | apply _ sub _ induction => exact induction.trans sub.part
  | refer _ target _ =>
      obtain ⟨_, _, _, _, -, -, found, walked⟩ := target
      exact (resources.found _ _ found).part.trans (part_of_walk walked)

private theorem Reaches.descend {base base' : String} {value value' : Json}
    (reached : Reaches resources resolve base value) (below : Below join base value base' value') :
    Reaches resources resolve base' value' := by
  induction below with
  | refl => exact reached
  | apply _ sub evaluated induction => exact induction.apply sub evaluated

private theorem Reaches.known_or_below {base : String} {value : Json}
    (reached : Reaches resources resolve base value) :
    Known join schema base value ∨ ∃ base₀ value₀ base₁ value₁,
      Reaches resources resolve base₀ value₀ ∧
        LeadsTo resources resolve base₀ value₀ base₁ value₁ ∧
          ¬Known join schema base₁ value₁ ∧ Below join base₁ value₁ base value := by
  induction reached with
  | root => exact .inl .root
  | apply _ sub evaluated induction =>
      rcases induction with known | ⟨base₀, value₀, base₁, value₁, source, target, stray, below⟩
      · exact .inl (known.sub sub)
      · exact .inr ⟨base₀, value₀, base₁, value₁, source, target, stray, below.apply sub evaluated⟩
  | @refer base base' value value' reached target _ =>
      by_cases known : Known join schema base' value'
      · exact .inl known
      · exact .inr ⟨base, value, base', value', reached, target, known, .refl⟩

/-! ## Documents without identifiers -/

section Idless

variable (idless : ∀ value id, schema.Part value → value.get "$id" ≠ some (.string id))
include idless

theorem enter_of_idless {value : Json} (part : schema.Part value) (base : String) :
    enter join base value = base := by
  unfold enter
  split
  · rename_i id identified
    exact absurd identified (idless value id part)
  · rfl

theorem Known.base_of_idless {base : String} {value : Json}
    (known : Known join schema base value) : base = "" := by
  induction known with
  | root => exact enter_of_idless idless .whole _
  | sub known sub induction =>
      rw [enter_of_idless idless (known.part.trans sub.part), induction]

private theorem walk_of_idless {base base' : String} {value value' : Json} {path : List String}
    (part : schema.Part value) (walked : walk join base value path = some (base', value')) :
    base' = base := by
  induction path generalizing base value with
  | nil => exact (Prod.mk.inj (Option.some.inj walked)).1.symm
  | cons segment path induction =>
      obtain ⟨item, inside, rest⟩ := exists_item_of_walk walked
      have part := part.trans inside
      rw [induction part rest, enter_of_idless idless part]

theorem Resource.base_of_idless {uri : String} {value : Json}
    (resource : Resource join schema uri value) : uri = "" := by
  cases resource with
  | root => exact enter_of_idless idless .whole _
  | embedded known => exact known.base_of_idless idless

private theorem resource_of_idless (join : String → String → String) :
    Resource join schema "" schema :=
  (enter_of_idless idless .whole "" : enter join "" schema = "") ▸ .root

private theorem sheltered_of_idless : Sheltered resources resolve := by
  rintro base value base' value' - target - base'' value'' reference below -
  obtain ⟨_, uri, path, resource, -, -, found, walked⟩ := target
  have registered := resources.found _ _ found
  have unmoved := walk_of_idless idless registered.part walked
  have inside := registered.part.trans (part_of_walk walked)
  have below : base'' = base' ∧ schema.Part value'' := by
    induction below with
    | refl => exact ⟨rfl, inside⟩
    | apply _ sub _ induction =>
        obtain ⟨same, part⟩ := induction
        exact ⟨by rw [enter_of_idless idless (part.trans sub.part), same], part.trans sub.part⟩
  rw [below.1, unmoved, registered.base_of_idless idless]
  exact ⟨schema, resource_of_idless idless join⟩

/-- The registry of a document without `$id`. -/
def Resources.ofIdless (join : String → String → String) : Resources join schema where
  resource uri := if uri = "" then some schema else none
  found uri value found := by
    split at found
    · rename_i root
      subst root
      obtain rfl := Option.some.inj found
      exact resource_of_idless idless join
    · cases found
  complete uri value resource := ⟨schema, if_pos (resource.base_of_idless idless)⟩

end Idless

end Known

def nestedPages : Json :=
  .object [("properties", .object [("next", .object [("$ref", .string "#")])])]

theorem idless_nestedPages (value : Json) (id : String) (part : nestedPages.Part value) :
    value.get "$id" ≠ some (.string id) := by
  have parts : value = nestedPages ∨
      value = .object [("next", .object [("$ref", .string "#")])] ∨
        value = .object [("$ref", .string "#")] ∨ value = .string "#" := by
    induction part with
    | whole => exact .inl rfl
    | member _ listed induction =>
        rcases induction with ⟨⟨⟩⟩ | ⟨⟨⟩⟩ | ⟨⟨⟩⟩ | ⟨⟨⟩⟩ <;>
          obtain ⟨-, rfl⟩ := Prod.mk.inj (List.mem_singleton.mp listed) <;> simp
    | item _ _ induction => rcases induction with ⟨⟨⟩⟩ | ⟨⟨⟩⟩ | ⟨⟨⟩⟩ | ⟨⟨⟩⟩
  rcases parts with rfl | rfl | rfl | rfl <;> rintro ⟨⟩

/-- A schema which leads into a keyword that is not known, below which there is an `$id`. -/
def strayed : Json :=
  .object
    [("$ref", .string "#/x"),
     ("x", .object [("allOf", .array [.object
       [("$id", .string "http://evil/doc"), ("$ref", .string "#/foo")]])])]

/-- An operation with a schema. -/
def operationOf (schema : Json) : Json :=
  .object
    [("name", .string "page"), ("description", .string ""), ("method", .string "POST"),
     ("path", .string "/page"), ("input_schema", schema)]

/-- The join of a URI with an absolute one. -/
def joinAbsolute (_ id : String) : String :=
  id

/-- The fragments of paths whose segments need no escapes. -/
def resolvePointer (base fragment uri : String) (path : List String) : Prop :=
  uri = base ∧ fragment = path.foldr (fun segment rest => "/" ++ segment ++ rest) ""

private theorem not_subschema_strayed {keyword : String} {child : Json} :
    ¬Subschema strayed keyword child := by
  have unknown {keyword : String} {item : Json} (found : strayed.get keyword = some item) :
      keyword = "$ref" ∨ keyword = "x" := by
    obtain ⟨members, ⟨⟩, listed⟩ := mem_of_get found
    rcases List.mem_pair.mp listed with same | same
    · exact .inl (Prod.mk.inj same).1
    · exact .inr (Prod.mk.inj same).1
  rintro (⟨known, found⟩ | ⟨known, found, -⟩ | ⟨known, found, -⟩) <;>
    rcases unknown found with rfl | rfl <;> exact absurd known (by decide)

private theorem known_strayed {base : String} {value : Json}
    (known : Known joinAbsolute strayed base value) : base = "" ∧ value = strayed := by
  induction known with
  | root => exact ⟨rfl, rfl⟩
  | sub _ sub induction =>
      rw [induction.2] at sub
      exact absurd sub not_subschema_strayed

/-- The only resource of the document is the document itself. -/
def strayedResources : Resources joinAbsolute strayed where
  resource uri := if uri = "" then some strayed else none
  found uri value found := by
    split at found
    · rename_i root
      subst root
      obtain rfl := Option.some.inj found
      exact .root
    · cases found
  complete uri value resource := by
    have root : uri = "" := by
      cases resource with
      | root => rfl
      | embedded known => exact (known_strayed known).1
    exact ⟨strayed, if_pos root⟩

end AiProtocol
