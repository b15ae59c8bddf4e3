import AiProtocol.Client.Policy

/-!
# Evaluating schemas

What the validator of the JSON schema library makes of the keywords which the schemas of this
repository use.  The integral value of a number which is not held as unsigned, such as `-1` or
`1.0`, is a parameter.
-/

namespace AiProtocol

namespace Json

/-- The value, if it is a boolean. -/
def asBool : Json → Option Bool
  | .bool value => some value
  | _ => none

/-- The value, if it is a number without a fraction. -/
def integer (integral : String → Option Int) : Json → Option Int
  | .unsigned value => some value
  | .number text => integral text
  | _ => none

end Json

/-! ## Grammars -/

theorem identifier_iff {value : List Char} :
    identifier value = true ↔ value ≠ [] ∧ ∀ char ∈ value, wordChar char = true := by
  simp [identifier, wordChar]

private theorem segments_iff {inside : Bool} {path head : List Char} {tail : List (List Char)}
    (split : path.splitOn '/' = head :: tail) :
    segments inside path = true ↔ (inside = true ∨ head ≠ []) ∧
      (∀ char ∈ head, wordChar char = true) ∧ ∀ piece ∈ tail, identifier piece = true := by
  induction path generalizing inside head tail with
  | nil =>
      obtain ⟨rfl, rfl⟩ : [] = head ∧ [] = tail := by simpa [List.splitOn_nil] using split
      simp [segments]
  | cons char path induction =>
      obtain ⟨next, others, pieces⟩ : ∃ next others, path.splitOn '/' = next :: others :=
        List.exists_cons_of_ne_nil (List.splitOn_ne_nil _ _)
      rw [List.splitOn_cons_eq_if_modifyHead, pieces] at split
      rw [segments]
      by_cases slash : char = '/'
      · obtain ⟨rfl, rfl⟩ : [] = head ∧ next :: others = tail := by simpa [slash] using split
        rw [if_pos slash, Bool.and_eq_true, induction pieces, List.forall_mem_cons, identifier_iff]
        simp [and_assoc]
      · obtain ⟨rfl, rfl⟩ : char :: next = head ∧ others = tail := by simpa [slash] using split
        rw [if_neg slash, Bool.and_eq_true, induction pieces, List.forall_mem_cons]
        simp [and_assoc]

/-- Both sides recognize the same paths. -/
theorem pathMatches_eq_route (path : String) : pathMatches path = route path := by
  cases listed : path.toList with
  | nil => simp only [pathMatches, route, listed]
  | cons char rest =>
      by_cases slash : char = '/'
      · subst slash
        simp only [pathMatches, route, listed]
        obtain ⟨head, tail, pieces⟩ : ∃ head tail, rest.splitOn '/' = head :: tail :=
          List.exists_cons_of_ne_nil (List.splitOn_ne_nil _ _)
        rw [Bool.eq_iff_iff, segments_iff pieces, pieces, List.all_cons, Bool.and_eq_true,
          identifier_iff, List.all_eq_true]
        simp [and_assoc]
      · simp [pathMatches, route, listed, slash]

theorem pathMatches_of_route {path : String} (valid : route path = true) :
    pathMatches path = true := by
  rwa [pathMatches_eq_route]

namespace Schema

/-- `^[A-Za-z0-9_-]+$`. -/
def namePattern : String := "^[A-Za-z0-9_-]+$"

/-- `^/[A-Za-z0-9_-]+(/[A-Za-z0-9_-]+)*$`. -/
def pathPattern : String := "^/[A-Za-z0-9_-]+(/[A-Za-z0-9_-]+)*$"

/-- `$` matches at the end, and before a newline which ends the text. -/
def anchored (whole : List Char → Bool) (text : List Char) : Bool :=
  whole text || text.getLast? = some '\n' && whole text.dropLast

def search (pattern text : String) : Bool :=
  if pattern = namePattern then anchored identifier text.toList
  else if pattern = pathPattern then
    anchored (fun text => pathMatches (String.ofList text)) text.toList
  else false

def hasType (integral : String → Option Int) (type : String) (value : Json) : Bool :=
  match type with
  | "object" => value.asObject.isSome
  | "array" => value.asArray.isSome
  | "string" => value.asStr.isSome
  | "boolean" => value.asBool.isSome
  | "integer" => (value.integer integral).isSome
  | _ => false

/-- `equal`, for the literals of the schemas. -/
def equal (integral : String → Option Int) : Json → Json → Bool
  | .string text, value => value.asStr = some text
  | .unsigned number, value => value.integer integral = some ↑number
  | _, _ => false

/-- The keywords without schemas; keywords without a meaning pass, and so do values of other types.
Only integers are compared with bounds. -/
def asserts (integral : String → Option Int) (keyword : String) (argument value : Json) : Bool :=
  match keyword with
  | "type" => argument.asStr.all fun type => hasType integral type value
  | "const" => equal integral argument value
  | "enum" => argument.asArray.all fun literals => literals.any fun literal =>
      equal integral literal value
  | "pattern" => argument.asStr.all fun pattern => value.asStr.all (search pattern)
  | "minLength" => argument.asU64.all fun least => value.asStr.all fun text => least ≤ text.length
  | "minItems" => argument.asU64.all fun least => value.asArray.all fun items =>
      least ≤ items.length
  | "minimum" => argument.asU64.all fun least => (value.integer integral).all fun number =>
      (least : Int) ≤ number
  | "maximum" => argument.asU64.all fun most => (value.integer integral).all fun number =>
      number ≤ (most : Int)
  | "required" => argument.asArray.all fun names => value.asObject.all fun members =>
      names.all fun name => name.asStr.all fun name => (members.lookup name).isSome
  | _ => true

/-- The names `properties` lists in a schema. -/
def declared (schema : List (String × Json)) : List String :=
  (((schema.lookup "properties").bind Json.asObject).getD []).map Prod.fst

mutual

/-- A value satisfies a schema. -/
def validates (integral : String → Option Int) : Json → Json → Bool
  | .bool passes, _ => passes
  | .object schema, value => keywords integral schema schema value
  | _, _ => true
termination_by structural schema => schema

/-- The keywords of a schema one after another. -/
def keywords (integral : String → Option Int) (schema : List (String × Json)) :
    List (String × Json) → Json → Bool
  | [], _ => true
  | (keyword, argument) :: rest, value =>
      (if keyword = "properties" then
          propertiesOf integral argument value
        else if keyword = "additionalProperties" then
          value.asObject.all fun members => members.all fun member =>
            (declared schema).contains member.1 || validates integral argument member.2
        else if keyword = "propertyNames" then
          value.asObject.all fun members => members.all fun member =>
            validates integral argument (.string member.1)
        else if keyword = "items" then
          value.asArray.all fun items => items.all fun item => validates integral argument item
        else
          asserts integral keyword argument value) &&
      keywords integral schema rest value
termination_by structural rest => rest

/-- The keyword `properties`. -/
def propertiesOf (integral : String → Option Int) : Json → Json → Bool
  | .object schemas, value => properties integral schemas value
  | _, _ => true
termination_by structural argument => argument

/-- The schemas of `properties` one after another. -/
def properties (integral : String → Option Int) : List (String × Json) → Json → Bool
  | [], _ => true
  | (name, schema) :: rest, value =>
      (value.get name).all (fun item => validates integral schema item) &&
        properties integral rest value
termination_by structural rest => rest

end

theorem properties_eq (integral : String → Option Int) (schemas : List (String × Json))
    (value : Json) : properties integral schemas value =
      schemas.all fun entry => (value.get entry.1).all (validates integral entry.2) := by
  induction schemas with
  | nil => rfl
  | cons entry rest induction => rw [properties, induction, List.all_cons]

/-- One keyword of a schema. -/
def holds (integral : String → Option Int) (schema : List (String × Json)) (keyword : String)
    (argument value : Json) : Bool :=
  keywords integral schema [(keyword, argument)] value

theorem validates_object (integral : String → Option Int) (schema : List (String × Json))
    (value : Json) : validates integral (.object schema) value =
      schema.all fun member => holds integral schema member.1 member.2 value := by
  suffices each : ∀ rest : List (String × Json), keywords integral schema rest value =
      rest.all fun member => holds integral schema member.1 member.2 value from each schema
  intro rest
  induction rest with
  | nil => rfl
  | cons member rest induction =>
      obtain ⟨keyword, argument⟩ := member
      rw [List.all_cons, ← induction]
      simp only [holds, keywords, Bool.and_true]

section Keywords

variable (integral : String → Option Int) (schema : List (String × Json))

theorem holds_properties (schemas : List (String × Json)) (value : Json) :
    holds integral schema "properties" (.object schemas) value =
      schemas.all fun entry => (value.get entry.1).all (validates integral entry.2) := by
  simp [holds, keywords, propertiesOf, properties_eq]

theorem holds_required (names : List String) (values : List (String × Json)) :
    holds integral schema "required" (.array (names.map .string)) (.object values) =
      names.all fun name => (values.lookup name).isSome := by
  simp [holds, keywords, asserts, Json.asArray, Json.asObject, Json.asStr, Function.comp_def]

theorem holds_closed (values : List (String × Json)) :
    holds integral schema "additionalProperties" (.bool false) (.object values) =
      values.all fun entry => (declared schema).contains entry.1 := by
  simp [holds, keywords, validates, Json.asObject]

end Keywords

end Schema

end AiProtocol
