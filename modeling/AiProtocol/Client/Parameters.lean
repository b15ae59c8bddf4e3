import Mathlib.Data.List.Nodup
import AiProtocol.Client.Schema
import AiProtocol.Gateway.Consistency

/-!
# Parameters of mapped operations

The schema which is published for an operation and the check of its requests are written
separately, but define the same objects; and the query of a request determines its parameters.
-/

namespace AiProtocol

/-- The text of the value of a parameter. -/
def Parameter.text (parameter : Parameter) (value : Json) : Option String :=
  match parameter.kind with
  | .string => value.asStr
  | .integer => value.asU64.map toString

/-- The value of a parameter with a text. -/
def Parameter.value (parameter : Parameter) (text : String) : Json :=
  match parameter.kind with
  | .string => .string text
  | .integer => .unsigned (Nat.ofDigitChars 10 text.toList 0)

private theorem Parameter.value_of_text {parameter : Parameter} {value : Json} {text : String}
    (known : parameter.text value = some text) : parameter.value text = value := by
  obtain ⟨kind, upstream⟩ := parameter
  cases kind with
  | string =>
      cases value with
      | string text =>
          cases known
          rfl
      | _ => cases known
  | integer =>
      cases value with
      | unsigned number =>
          cases known
          have digits : (toString number).toList = Nat.toDigits 10 number := Nat.toList_repr
          simp only [Parameter.value, digits]
          rw [Nat.ofDigitChars_toDigits (by decide) (by decide)]
      | _ => cases known

private theorem mapM_eq_ok {Item Value Error : Type} {body : Item → Except Error Value}
    {items : List Item} {values : List Value} :
    items.mapM body = .ok values ↔
      List.Forall₂ (fun item value => body item = .ok value) items values := by
  induction items generalizing values with
  | nil => simp [pure, Except.pure, eq_comm]
  | cons item rest induction =>
      rw [List.mapM_cons, List.forall₂_cons_left_iff]
      cases first : body item with
      | error error => simp [bind, Except.bind]
      | ok value =>
          cases others : rest.mapM body with
          | error error => simp [bind, Except.bind, ← induction, others]
          | ok later => simp [bind, Except.bind, pure, Except.pure, ← induction, others, eq_comm]

namespace Operation

private theorem parameterText_eq_ok {values : List (String × Json)} {name : String}
    {parameter : Parameter} {pair : String × String} :
    parameterText values name parameter = .ok pair ↔
      (parameter.upstream, (values.lookup name).bind parameter.text) =
        (pair.1, some pair.2) := by
  obtain ⟨kind, upstream⟩ := parameter
  obtain ⟨key, given⟩ := pair
  cases found : values.lookup name with
  | none => simp [parameterText, found]
  | some value =>
      cases kind with
      | string => cases text : value.asStr <;> simp [parameterText, found, Parameter.text, text]
      | integer => cases text : value.asU64 <;> simp [parameterText, found, Parameter.text, text]

/-- What a request is made of. -/
theorem request_eq_ok {operation : Operation} {params : Json} {request : UpstreamRequest} :
    operation.request params = .ok request ↔
      ∃ values, params = .object values ∧ values.length = operation.parameters.length ∧
        request.path = operation.upstreamPath ∧
        (request.query.map fun pair => (pair.1, some pair.2)) =
          operation.parameters.map fun parameter =>
            (parameter.2.upstream, (values.lookup parameter.1).bind parameter.2.text) := by
  obtain ⟨path, query⟩ := request
  have pairs (values : List (String × Json)) :
      (operation.parameters.mapM fun parameter =>
        parameterText values parameter.1 parameter.2) = .ok query ↔
      (query.map fun pair => (pair.1, some pair.2)) = operation.parameters.map fun parameter =>
        (parameter.2.upstream, (values.lookup parameter.1).bind parameter.2.text) := by
    rw [mapM_eq_ok, eq_comm, ← List.forall₂_eq_eq_eq, List.forall₂_map_left_iff,
      List.forall₂_map_right_iff]
    simp only [parameterText_eq_ok]
  unfold Operation.request
  simp only [← pairs]
  cases params with
  | object values =>
      by_cases size : values.length = operation.parameters.length
      · cases texts : operation.parameters.mapM fun parameter =>
          parameterText values parameter.1 parameter.2 with
        | error error => simp [Json.asObject, Option.filter_some, size, texts]
        | ok pairs => simp [Json.asObject, Option.filter_some, size, texts, eq_comm]
      · simp [Json.asObject, Option.filter_some, size]
  | _ => simp [Json.asObject]

private theorem exists_request {operation : Operation} {params : Json} :
    (∃ request, operation.request params = .ok request) ↔
      ∃ values, params = .object values ∧ values.length = operation.parameters.length ∧
        ∀ parameter ∈ operation.parameters,
          ((values.lookup parameter.1).bind parameter.2.text).isSome = true := by
  simp only [request_eq_ok]
  constructor
  · rintro ⟨request, values, object, size, -, query⟩
    refine ⟨values, object, size, fun parameter member => ?_⟩
    have listed := List.mem_map_of_mem (f := fun parameter : String × Parameter =>
      (parameter.2.upstream, (values.lookup parameter.1).bind parameter.2.text)) member
    rw [← query, List.mem_map] at listed
    obtain ⟨pair, -, same⟩ := listed
    rw [← (Prod.mk.inj same).2]
    rfl
  · rintro ⟨values, object, size, texts⟩
    refine ⟨⟨operation.upstreamPath, operation.parameters.map fun parameter =>
      (parameter.2.upstream, ((values.lookup parameter.1).bind parameter.2.text).getD "")⟩,
      values, object, size, rfl, ?_⟩
    rw [List.map_map]
    refine List.map_congr_left fun parameter member => ?_
    obtain ⟨text, found⟩ := Option.isSome_iff_exists.mp (texts parameter member)
    simp [found]

end Operation

/-! ## The schema -/

namespace Schema

variable (integral : String → Option Int)

private theorem validates_parameter (parameter : Parameter) (value : Json) :
    (parameter.text value).isSome = true ↔
      validates integral parameter.schema value = true ∧
        (parameter.kind = .integer → value.asU64.isSome = true) := by
  obtain ⟨kind, upstream⟩ := parameter
  cases kind with
  | string =>
      simp [Parameter.text, Parameter.schema, validates, keywords, asserts, hasType, Json.asStr]
  | integer =>
      cases value <;> simp [Parameter.text, Parameter.schema, validates, keywords, asserts,
        hasType, Json.asStr, Json.asU64, Json.integer]

private theorem validates_mappedSchema (parameters : List (String × Parameter)) (params : Json) :
    validates integral (Operation.mappedSchema parameters) params = true ↔
      ∃ values, params = .object values ∧
        (∀ parameter ∈ parameters, ∃ value, values.lookup parameter.1 = some value ∧
          validates integral parameter.2.schema value = true) ∧
        ∀ entry ∈ values, entry.1 ∈ parameters.map Prod.fst := by
  cases params with
  | object values =>
      have keywords : validates integral (Operation.mappedSchema parameters) (.object values) =
          true ↔ (∀ parameter ∈ parameters,
            (values.lookup parameter.1).all (validates integral parameter.2.schema) = true) ∧
          (∀ parameter ∈ parameters, (values.lookup parameter.1).isSome = true) ∧
          ∀ entry ∈ values, entry.1 ∈ parameters.map Prod.fst := by
        simp [Operation.mappedSchema, validates, keywords, asserts, hasType, Json.asStr,
          Json.asObject, Json.asArray, propertiesOf, properties_eq, declared, List.lookup_cons]
      rw [keywords]
      constructor
      · rintro ⟨typed, present, known⟩
        refine ⟨values, rfl, fun parameter member => ?_, known⟩
        obtain ⟨value, found⟩ := Option.isSome_iff_exists.mp (present parameter member)
        exact ⟨value, found, by simpa [found] using typed parameter member⟩
      · rintro ⟨_, ⟨⟩, typed, known⟩
        refine ⟨fun parameter member => ?_, fun parameter member => ?_, known⟩
        · obtain ⟨value, found, valid⟩ := typed parameter member
          simpa [found] using valid
        · obtain ⟨value, found, -⟩ := typed parameter member
          simp [found]
  | _ => simp [Operation.mappedSchema, validates, keywords, asserts, hasType, Json.asStr,
      Json.asObject]

end Schema

/-! ## Agreement -/

theorem keys_eq {Value Value' : Type} {values : List (String × Value)}
    {parameters : List (String × Value')} (distinct : (values.map Prod.fst).Nodup)
    (distinct' : (parameters.map Prod.fst).Nodup)
    (present : ∀ parameter ∈ parameters, parameter.1 ∈ values.map Prod.fst) :
    values.length = parameters.length ↔
      ∀ entry ∈ values, entry.1 ∈ parameters.map Prod.fst := by
  have subset : parameters.map Prod.fst ⊆ values.map Prod.fst := by
    intro name member
    obtain ⟨parameter, listed, rfl⟩ := List.mem_map.mp member
    exact present parameter listed
  have fewer := List.subperm_of_subset distinct' subset
  constructor
  · intro size entry member
    have same := fewer.perm_of_length_le (by simp [size])
    exact same.mem_iff.mpr (List.mem_map_of_mem member)
  · intro known
    have subset' : values.map Prod.fst ⊆ parameters.map Prod.fst := by
      intro name member
      obtain ⟨entry, listed, rfl⟩ := List.mem_map.mp member
      exact known entry listed
    have same := (List.subperm_of_subset distinct subset').antisymm fewer
    simpa using same.length_eq

theorem Parameter.text_isSome (integral : String → Option Int) (parameter : Parameter)
    (found : Option Json) :
    (found.bind parameter.text).isSome = true ↔
      (∃ value, found = some value ∧ Schema.validates integral parameter.schema value = true) ∧
        (parameter.kind = .integer → ∃ number, found = some (.unsigned number)) := by
  cases found with
  | none => simp
  | some value =>
      have unsigned : value.asU64.isSome = true ↔ ∃ number, value = .unsigned number := by
        cases value <;> simp [Json.asU64]
      simp [Schema.validates_parameter integral, unsigned]

/-- The schema asks for what the check asks for, but for the range of integers. -/
theorem Operation.exists_request_iff (integral : String → Option Int) {operation : Operation}
    (mapped : operation.native = none) (distinct : (operation.parameters.map Prod.fst).Nodup)
    {params : Json} (keys : ∀ values, params = .object values → (values.map Prod.fst).Nodup) :
    (∃ request, operation.request params = .ok request) ↔
      Schema.validates integral operation.inputSchema params = true ∧
        ∀ parameter ∈ operation.parameters, parameter.2.kind = .integer →
          ∃ number, params.get parameter.1 = some (.unsigned number) := by
  simp only [exists_request, Operation.inputSchema, mapped, Schema.validates_mappedSchema]
  have present {values : List (String × Json)} {name : String} {value : Json}
      (found : values.lookup name = some value) : name ∈ values.map Prod.fst := by
    by_contra absent
    rw [Table.lookup_eq_none.mpr absent] at found
    cases found
  constructor
  · rintro ⟨values, rfl, size, texts⟩
    have each (parameter) (member : parameter ∈ operation.parameters) :=
      (parameter.2.text_isSome integral (values.lookup parameter.1)).mp (texts parameter member)
    refine ⟨⟨values, rfl, fun parameter member => (each parameter member).1, ?_⟩,
      fun parameter member => (each parameter member).2⟩
    refine (keys_eq (keys values rfl) distinct fun parameter member => ?_).mp size
    obtain ⟨⟨value, found, -⟩, -⟩ := each parameter member
    exact present found
  · rintro ⟨⟨values, rfl, valid, known⟩, unsigned⟩
    refine ⟨values, rfl, ?_, fun parameter member => ?_⟩
    · refine (keys_eq (keys values rfl) distinct fun parameter member => ?_).mpr known
      obtain ⟨value, found, -⟩ := valid parameter member
      exact present found
    · exact (parameter.2.text_isSome integral _).mpr
        ⟨valid parameter member, unsigned parameter member⟩

/-- The parameters a query was made of. -/
def Operation.recover (operation : Operation) (query : List (String × String)) :
    List (String × Json) :=
  List.zipWith (fun parameter pair => (parameter.1, parameter.2.value pair.2))
    operation.parameters query

private theorem Operation.recover_eq {operation : Operation} {values : List (String × Json)}
    {query : List (String × String)}
    (texts : (query.map fun pair => (pair.1, some pair.2)) =
      operation.parameters.map fun parameter =>
        (parameter.2.upstream, (values.lookup parameter.1).bind parameter.2.text)) :
    (operation.recover query).map (fun entry => (entry.1, some entry.2)) =
      operation.parameters.map fun parameter => (parameter.1, values.lookup parameter.1) := by
  unfold Operation.recover
  generalize operation.parameters = parameters at texts
  induction parameters generalizing query with
  | nil => simp
  | cons parameter rest induction =>
      cases query with
      | nil => cases texts
      | cons pair query =>
          obtain ⟨first, others⟩ := List.cons.inj texts
          obtain ⟨value, found, text⟩ := Option.bind_eq_some_iff.mp (Prod.mk.inj first).2.symm
          rw [List.zipWith_cons_cons, List.map_cons, List.map_cons, induction others, found,
            Parameter.value_of_text text]

theorem Operation.recover_request {operation : Operation}
    (distinct : (operation.parameters.map Prod.fst).Nodup) {values : List (String × Json)}
    (keys : (values.map Prod.fst).Nodup) {request : UpstreamRequest}
    (accepted : operation.request (.object values) = .ok request) :
    values.Perm (operation.recover request.query) := by
  obtain ⟨_, ⟨⟩, size, -, query⟩ := request_eq_ok.mp accepted
  have recovered := Operation.recover_eq query
  have names : (operation.recover request.query).map Prod.fst =
      operation.parameters.map Prod.fst := by
    simpa [Function.comp_def] using congrArg (List.map Prod.fst) recovered
  have inside (entry) (member : entry ∈ operation.recover request.query) : entry ∈ values := by
    have listed := List.mem_map_of_mem (f := fun entry : String × Json => (entry.1, some entry.2))
      member
    rw [recovered, List.mem_map] at listed
    obtain ⟨parameter, -, same⟩ := listed
    obtain ⟨name, found⟩ := Prod.mk.inj same
    rw [name] at found
    exact (Table.lookup_eq_some keys).mp found
  have nodup : (operation.recover request.query).Nodup := by
    rw [← names] at distinct
    exact List.Nodup.of_map _ distinct
  refine ((List.subperm_of_subset nodup inside).perm_of_length_le ?_).symm
  have length := congrArg List.length names
  rw [List.length_map, List.length_map] at length
  omega

theorem Manifest.parameters_distinct {manifest parsed : Manifest}
    (accepted : manifest.parse = .ok parsed) {operation : Operation}
    (member : operation ∈ parsed.service) : operation.native = none ∧
      (operation.parameters.map Prod.fst).Nodup ∧
        (operation.parameters.map fun parameter => parameter.2.upstream).Nodup := by
  obtain ⟨rfl, -, checked⟩ := parse_eq_ok accepted
  obtain ⟨mapped, listed, rfl⟩ := List.mem_map.mp member
  obtain ⟨_, _, valid⟩ := checkOperations_valid checked mapped listed
  simp only [operationValid, Bool.and_eq_true] at valid
  exact ⟨rfl, mapped.parameters_distinct, (parametersValid_eq_true valid.2).2.1⟩

/-- Parameter mapping.  A request of a mapped operation is accepted exactly if its parameters
satisfy the published schema and their integers are held as unsigned.  Then its query has one pair
for each parameter, under distinct keys, and each pair tells the value of its own parameter only;
the path is fixed; and the query determines the parameters. -/
theorem parameter_mapping (integral : String → Option Int) {manifest parsed : Manifest}
    (accepted : manifest.parse = .ok parsed) {operation : Operation}
    (member : operation ∈ parsed.service) :
    (∀ params : Json, (∀ values, params = .object values → (values.map Prod.fst).Nodup) →
      ((∃ request, operation.request params = .ok request) ↔
        (∃ schema, operation.descriptor.get "input_schema" = some schema ∧
          Schema.validates integral schema params = true) ∧
        ∀ parameter ∈ operation.parameters, parameter.2.kind = .integer →
          ∃ number, params.get parameter.1 = some (.unsigned number))) ∧
    (∀ params request, operation.request params = .ok request →
      request.path = operation.upstreamPath ∧
      (request.query.map Prod.fst).Nodup ∧
      (request.query.map fun pair => (pair.1, some pair.2)) =
        operation.parameters.map fun parameter =>
          (parameter.2.upstream, (params.get parameter.1).bind parameter.2.text)) ∧
    (∀ values request, (values.map Prod.fst).Nodup →
      operation.request (.object values) = .ok request →
        values.Perm (operation.recover request.query)) ∧
    ∀ values values' request request', (values.map Prod.fst).Nodup →
      (values'.map Prod.fst).Nodup → operation.request (.object values) = .ok request →
      operation.request (.object values') = .ok request' → request.query = request'.query →
        values.Perm values' := by
  obtain ⟨mapped, distinct, upstream⟩ := Manifest.parameters_distinct accepted member
  have schema : operation.descriptor.get "input_schema" = some operation.inputSchema := rfl
  refine ⟨fun params keys => ?_, fun params request made => ?_, fun values request keys made =>
    Operation.recover_request distinct keys made, ?_⟩
  · rw [Operation.exists_request_iff integral mapped distinct keys]
    simp [schema]
  · obtain ⟨values, rfl, -, path, query⟩ := Operation.request_eq_ok.mp made
    refine ⟨path, ?_, query⟩
    have keys : request.query.map Prod.fst =
        operation.parameters.map fun parameter => parameter.2.upstream := by
      simpa [Function.comp_def] using congrArg (List.map Prod.fst) query
    rw [keys]
    exact upstream
  · intro values values' request request' keys keys' made made' same
    have recovered := Operation.recover_request distinct keys made
    rw [same] at recovered
    exact recovered.trans (Operation.recover_request distinct keys' made').symm

def archiveManifest : Manifest where
  formatVersion := 1
  serviceId := "archive"
  operations :=
    [{ name := "page", description := "", path := "/page", upstreamPath := "/pages"
       parameters :=
         [("number", { kind := .integer, upstream := "n" }),
          ("title", { kind := .string, upstream := "t" })]
       parameters_distinct := by decide }]
  credentials :=
    [{ tokenEnv := "TOKEN", required := true, principalId := "owner", clientClass := .agent
       operations := ["page"], maxOutstanding := 2 }]

theorem parameter_mapping_sample : ∃ operation ∈ archiveManifest.service, ∃ request,
    operation.request (.object [("title", .string "a"), ("number", .unsigned 7)]) = .ok request ∧
      request.query = [("n", "7"), ("t", "a")] ∧
      [("title", .string "a"), ("number", .unsigned 7)].Perm (operation.recover request.query) := by
  have accepted : archiveManifest.parse = .ok archiveManifest := rfl
  obtain ⟨operation, member, made⟩ : ∃ operation ∈ archiveManifest.service,
      operation.request (.object [("title", .string "a"), ("number", .unsigned 7)]) =
        .ok { path := "/pages", query := [("n", "7"), ("t", "a")] } :=
    ⟨_, List.mem_cons_self, rfl⟩
  obtain ⟨-, -, recovers, -⟩ := parameter_mapping (fun _ => none) accepted member
  exact ⟨operation, member, _, made, rfl, recovers _ _ (by decide) made⟩

end AiProtocol
