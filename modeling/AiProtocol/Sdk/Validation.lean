import AiProtocol.Client.References
import AiProtocol.Client.Schema
import AiProtocol.Library.Descent
import AiProtocol.Sdk.Client

/-!
# Validation of parameters

Before an attempt, the schema of the operation is evaluated on the parameters of the call.  The
keywords of the JSON schema library and its resolution of references are a parameter; an evaluation
makes further evaluations, against the schemas below its keywords and against what its references
name.
-/

namespace AiProtocol

namespace Sdk

/-! ## The validator -/

/-- What a value is evaluated against. -/
inductive Target where
  /-- A schema below a keyword. -/
  | subschema (schema : Json)
  /-- What a reference names. -/
  | reference (text : String)

/-- An evaluation which another one makes. -/
structure Visit (Context : Type) where
  /-- The context in which references are resolved. -/
  context : Context
  /-- The target. -/
  target : Target
  /-- The value. -/
  value : Json

/-- The evaluation of a value against a schema. -/
structure Evaluation (Context : Type) where
  /-- The context. -/
  context : Context
  /-- The schema. -/
  schema : Json
  /-- The value. -/
  value : Json

/-- What an evaluation comes to in which no other exception is raised. -/
inductive Verdict where
  /-- There is no error. -/
  | valid
  /-- `ValidationError`, `SchemaError` or `ValueError`. -/
  | invalid
  /-- `TypeError`. -/
  | typeError
  deriving DecidableEq

/-- `ValueError` and `SchemaError`, which both handlers name. -/
def PyError.named (error : PyError) : Bool :=
  error.isValue || error = .schema

/-- The validator of the JSON schema library.  A context holds the resolver of an evaluation, and
whether its first error ends it. -/
structure JsonSchema (Context : Type) where
  /-- The context in which the evaluation of a schema begins. -/
  initial : Json → Context
  /-- The evaluations which an evaluation makes, with the frames in between. -/
  makes : Evaluation Context → List (Nat × Visit Context)
  /-- `lookup` of the resolver, for references which name a location. -/
  lookup : Context → String → Option (Context × Json)
  /-- An exception of another class which a keyword raises with so many frames left. -/
  raises : Nat → Evaluation Context → Option PyError
  /-- What an evaluation comes to. -/
  verdict : Evaluation Context → Verdict
  /-- The verdict has the other classes. -/
  unnamed : ∀ frames evaluation error, raises frames evaluation = some error →
    PyError.named error = false

/-- `json.dumps` of a value without parts. -/
def dumpsScalar (value : Json) : Except PyError Unit :=
  if value.asInt.all fun number => number.natAbs < 10 ^ 4300 then
    .ok ()
  else
    .error (.value "Exceeds the limit (4300 digits) for integer string conversion")

/-- `json.dumps`, a frame for each array and each object. -/
def dumps : Nat → Json → Except PyError Unit
  | 0, .array _ | 0, .object _ => .error .recursion
  | frames + 1, .array items => each (dumps frames) items
  | frames + 1, .object members => each (fun member => dumps frames member.2) members
  | _, value => dumpsScalar value

/-- The handlers of `AsyncClient.call` and `DispatcherClient.call`. -/
def caught (error : PyError) : Except PyError Bool :=
  if PyError.named error then .ok false else .error error

namespace JsonSchema

variable {Context : Type} (library : JsonSchema Context)

/-- An evaluation which is made; one against a reference without a location raises
`_WrappedReferencingError`. -/
def callee (visit : Visit Context) : Except PyError (Evaluation Context) :=
  match visit.target with
  | .subschema schema => .ok { context := visit.context, schema, value := visit.value }
  | .reference text =>
      match library.lookup visit.context text with
      | none => .error .other
      | some (context, schema) => .ok { context, schema, value := visit.value }

/-- The evaluations as calls of the interpreter. -/
def calls : Descent.Calls (Evaluation Context) PyError where
  makes evaluation := (library.makes evaluation).map fun entry => (entry.1, library.callee entry.2)
  fails := library.raises
  overflow := .recursion

/-- The evaluation of parameters. -/
def start (schema params : Json) : Evaluation Context where
  context := library.initial schema
  schema := schema
  value := params

def validate (frames : Nat) (schema params : Json) : Except PyError Verdict :=
  match library.calls.run frames (library.start schema params) with
  | some error => .error error
  | none => .ok (library.verdict (library.start schema params))

/-- The checks of `AsyncClient.call` on the parameters of an attempt. -/
def validates (frames levels : Nat) (descriptor params : Json) : Except PyError Bool :=
  match descriptor.get "input_schema" with
  | none => .error .other
  | some schema =>
      match library.validate frames schema params with
      | .error error => caught error
      | .ok .valid =>
          match dumps levels params with
          | .error error => caught error
          | .ok () => .ok true
      | .ok .invalid | .ok .typeError => .ok false

/-- The checks of `DispatcherClient.call` on a descriptor and the parameters. -/
def describes (checkSchema : Json → Except PyError Unit) (frames : Nat)
    (descriptor params : Json) : Except PyError Bool :=
  match validateOperation checkSchema frames descriptor with
  | .error error => caught error
  | .ok () =>
      match descriptor.get "input_schema" with
      | none => .error .other
      | some schema =>
          match library.validate frames schema params with
          | .error error => caught error
          | .ok .valid => .ok true
          | .ok .invalid => .ok false
          | .ok .typeError => .error .other

/-- A client with this library. -/
def settings (checkSchema : Json → Except PyError Unit) (dispatcher : Bool)
    (frames levels : Nat) : Settings where
  dispatcher := dispatcher
  checkSchema := checkSchema
  validates := library.validates frames levels

/-- The evaluation of parameters raises nothing which the handlers do not name. -/
structure Evaluates (frames : Nat) (schema params : Json) : Prop where
  /-- Each reference which is evaluated names a location. -/
  resolves : ∀ left evaluation,
    library.calls.Reaches frames (library.start schema params) left evaluation →
      ∀ entry ∈ library.makes evaluation, ∀ text, entry.2.target = .reference text →
        (library.lookup entry.2.context text).isSome = true
  /-- The evaluations within each other fit on the stack. -/
  fits : ∀ left evaluation,
    library.calls.Reaches frames (library.start schema params) left evaluation → 0 < left
  /-- No keyword raises an exception of another class. -/
  quiet : ∀ left evaluation,
    library.calls.Reaches frames (library.start schema params) left evaluation →
      library.raises (left - 1) evaluation = none

/-! ## Outcomes of an evaluation -/

section Outcomes

variable {library} {frames : Nat} {schema params : Json}

theorem exists_callee_iff {visit : Visit Context} :
    (∃ evaluation, library.callee visit = .ok evaluation) ↔
      ∀ text, visit.target = .reference text →
        (library.lookup visit.context text).isSome = true := by
  obtain ⟨context, target, value⟩ := visit
  cases target with
  | subschema schema => simp [callee]
  | reference text =>
      cases found : library.lookup context text with
      | none => simp [callee, found]
      | some location => simp [callee, found]

theorem evaluates_iff : library.Evaluates frames schema params ↔
    library.calls.run frames (library.start schema params) = none := by
  rw [Descent.Calls.run_eq_none_iff]
  constructor
  · intro evaluates left evaluation reached
    refine ⟨evaluates.fits left evaluation reached, ?_, evaluates.quiet left evaluation reached⟩
    intro entry listed
    obtain ⟨entry, made, rfl⟩ := List.mem_map.mp listed
    exact exists_callee_iff.mpr (evaluates.resolves left evaluation reached entry made)
  · intro sound
    refine ⟨fun left evaluation reached entry made => ?_,
      fun left evaluation reached => (sound left evaluation reached).fits,
      fun left evaluation reached => (sound left evaluation reached).quiet⟩
    exact exists_callee_iff.mp
      ((sound left evaluation reached).found _ (List.mem_map_of_mem made))

private theorem named_of_run {error : PyError}
    (raised : library.calls.run frames (library.start schema params) = some error) :
    PyError.named error = false := by
  obtain ⟨left, evaluation, -, raises⟩ := Descent.Calls.exists_raises_of_run raised
  cases raises with
  | overflow => rfl
  | missing made =>
      obtain ⟨⟨cost, context, target, value⟩, -, entry⟩ := List.mem_map.mp made
      have missing : library.callee ⟨context, target, value⟩ = .error error :=
        (Prod.mk.inj entry).2
      unfold callee at missing
      split at missing
      · cases missing
      · split at missing
        · cases missing
          rfl
        · cases missing
  | fails failed => exact library.unnamed _ _ _ failed

theorem validate_cases (library : JsonSchema Context) (frames : Nat) (schema params : Json) :
    library.Evaluates frames schema params ∧
        library.validate frames schema params =
          .ok (library.verdict (library.start schema params)) ∨
      ¬library.Evaluates frames schema params ∧ ∃ error,
        library.validate frames schema params = .error error ∧ caught error = .error error := by
  rw [evaluates_iff, validate]
  cases ends : library.calls.run frames (library.start schema params) with
  | none => exact .inl ⟨rfl, rfl⟩
  | some error => exact .inr ⟨nofun, error, rfl, by simp [caught, named_of_run ends]⟩

private theorem not_evaluates_of_cycle {evaluation : Evaluation Context}
    (leads : Relation.ReflTransGen library.calls.Leads (library.start schema params) evaluation)
    (cycle : Relation.TransGen library.calls.Leads evaluation evaluation) (frames : Nat) :
    ¬library.Evaluates frames schema params := by
  rw [evaluates_iff]
  exact Descent.Calls.run_of_leads_cycle leads cycle frames

end Outcomes

end JsonSchema

/-! ## Encoding -/

theorem dumpsScalar_error {value : Json} {error : PyError}
    (raised : dumpsScalar value = .error error) : PyError.named error = true := by
  rw [dumpsScalar] at raised
  split at raised
  · cases raised
  · cases raised
    rfl

private theorem dumps_error {levels : Nat} {value : Json} {error : PyError}
    (raised : dumps levels value = .error error) :
    error = .recursion ∨ PyError.named error = true := by
  induction levels generalizing value with
  | zero =>
      cases value with
      | array | object => exact .inl (Except.error.inj raised).symm
      | _ => exact .inr (dumpsScalar_error raised)
  | succ levels induction =>
      cases value with
      | array items =>
          obtain ⟨item, -, raised⟩ := exists_of_each raised
          exact induction raised
      | object members =>
          obtain ⟨member, -, raised⟩ := exists_of_each raised
          exact induction raised
      | _ => exact .inr (dumpsScalar_error raised)

private theorem caught_dumps {levels : Nat} {value : Json} {error : PyError}
    (raised : dumps levels value = .error error) :
    (∃ passes, caught error = .ok passes) ↔ error ≠ .recursion := by
  rcases dumps_error raised with rfl | named
  · simp [caught, PyError.named, PyError.isValue]
  · simp only [caught, named, ↓reduceIte, Except.ok.injEq, exists_eq', ne_eq, true_iff]
    rintro rfl
    cases named

/-! ## Accepted operations -/

section Accepted

variable {checkSchema : Json → Except PyError Unit} {frames : Nat}

private theorem validateOperation_of_mem {names : List (Option String)} {operations : List Json}
    (accepted : validateOperations checkSchema frames names operations = .ok ()) {operation : Json}
    (listed : operation ∈ operations) :
    validateOperation checkSchema frames operation = .ok () := by
  induction operations generalizing names with
  | nil => cases listed
  | cons first rest induction =>
      simp only [validateOperations] at accepted
      split at accepted
      · split at accepted <;> cases accepted
      · rename_i valid
        split at accepted
        · cases accepted
        · rcases List.mem_cons.mp listed with rfl | later
          · exact valid
          · exact induction accepted later

private theorem exists_validateOperation {policy operation : Json} {previous : Option Json}
    {operations : List Json} (accepted : validatePolicy checkSchema frames policy previous = .ok ())
    (listing : policy.get "operations" = some (.array operations))
    (listed : operation ∈ operations) :
    ∃ frames, validateOperation checkSchema frames operation = .ok () := by
  cases frames with
  | zero => cases accepted
  | succ frames =>
      rw [validatePolicy] at accepted
      iterate 2 (split at accepted; · cases accepted)
      split at accepted
      · cases accepted
      · rename_i valid
        refine ⟨frames, validateOperation_of_mem valid ?_⟩
        simpa [listing, Json.asArray] using listed

theorem each_cases {Item : Type} {body : Item → Except PyError Unit} {items : List Item}
    (bodies : ∀ item ∈ items, body item = .ok () ∨ body item = .error .recursion) :
    each body items = .ok () ∨ each body items = .error .recursion := by
  induction items with
  | nil => exact .inl rfl
  | cons item rest induction =>
      have others := induction fun other member => bodies other (List.mem_cons_of_mem _ member)
      rcases bodies item List.mem_cons_self with passes | raises
      · simpa [each, passes] using others
      · exact .inr (by simp [each, raises])

private theorem checkReferences_cases {value : Json}
    (accepted : checkReferences frames value = .ok ())
    (fewer : Nat) :
    checkReferences fewer value = .ok () ∨ checkReferences fewer value = .error .recursion := by
  induction fewer generalizing frames value with
  | zero => exact .inr rfl
  | succ fewer induction =>
      cases frames with
      | zero => cases accepted
      | succ frames =>
          cases value with
          | object members =>
              refine each_cases fun member listed => ?_
              have inner := each_eq_ok.mp accepted member listed
              split at inner
              · cases inner
              · rename_i internal
                rw [if_neg internal]
                exact induction inner
          | array items =>
              refine each_cases fun item listed => ?_
              exact induction (each_eq_ok.mp accepted item listed)
          | _ => exact .inl rfl

private theorem validateOperation_cases {operation : Json}
    (accepted : validateOperation checkSchema frames operation = .ok ()) (fewer : Nat) :
    validateOperation checkSchema fewer operation = .ok () ∨
      validateOperation checkSchema fewer operation = .error .recursion := by
  obtain ⟨rest, schema, -, -, checked, again⟩ := exists_schema_of_accepted accepted
  cases fewer with
  | zero => exact .inr rfl
  | succ fewer =>
      rw [again]
      exact checkReferences_cases checked fewer

end Accepted

/-! ## Checks -/

namespace JsonSchema

section Checks

variable {Context : Type} {library : JsonSchema Context} {descriptor schema params : Json}
  (input : descriptor.get "input_schema" = some schema)
include input

theorem exists_validates_iff {frames levels : Nat} :
    (∃ passes, library.validates frames levels descriptor params = .ok passes) ↔
      library.Evaluates frames schema params ∧
        (library.verdict (library.start schema params) = .valid →
          dumps levels params ≠ .error .recursion) := by
  simp only [validates, input]
  rcases validate_cases library frames schema params with
    ⟨evaluates, ends⟩ | ⟨raises, error, ends, leaves⟩
  · simp only [ends, evaluates, true_and]
    cases library.verdict (library.start schema params) with
    | valid =>
        cases encoded : dumps levels params with
        | ok => simp
        | error error => simpa using caught_dumps encoded
    | invalid | typeError => simp
  · simp [ends, leaves, raises]

private theorem verdict_of_validates {frames levels : Nat}
    (passes : library.validates frames levels descriptor params = .ok true) :
    library.verdict (library.start schema params) = .valid := by
  simp only [validates, input] at passes
  rcases validate_cases library frames schema params with
    ⟨-, ends⟩ | ⟨-, error, ends, leaves⟩
  · rw [ends] at passes
    cases verdict : library.verdict (library.start schema params) with
    | valid => rfl
    | invalid | typeError =>
        rw [verdict] at passes
        cases passes
  · rw [ends] at passes
    cases leaves.symm.trans passes

private theorem exists_describes_iff {checkSchema : Json → Except PyError Unit} {frames stack : Nat}
    (accepted : validateOperation checkSchema frames descriptor = .ok ())
    (valid : library.verdict (library.start schema params) = .valid) :
    (∃ passes, library.describes checkSchema stack descriptor params = .ok passes) ↔
      validateOperation checkSchema stack descriptor = .ok () ∧
        library.Evaluates stack schema params := by
  rcases validateOperation_cases accepted stack with again | overflows
  · simp only [describes, input, again, true_and]
    rcases validate_cases library stack schema params with
      ⟨evaluates, ends⟩ | ⟨raises, error, ends, leaves⟩
    · simp [ends, valid, evaluates]
    · simp [ends, leaves, raises]
  · simp [describes, overflows, caught, PyError.named, PyError.isValue]

end Checks

end JsonSchema

/-- The attempt of a client which does not check parameters. -/
def proceed (settings : Settings) (client : Client) (call : Call) (surroundings : Surroundings)
    (descriptor : Json) : Segment :=
  attempt { settings with validates := fun _ _ => .ok true } client call surroundings descriptor

/-- `call` raises `OperationError` with `invalid_parameters` and `not_started`. -/
def refuse (settings : Settings) (client : Client) (call : Call) (surroundings : Surroundings) :
    Segment :=
  leave settings client call surroundings.left
    (.ended (.operationError "invalid_parameters" "not_started" none (some call.attempts)))

/-- The checks of an attempt end in one of two ways: the parameters are valid and the attempt
proceeds, or `call` refuses them. -/
def Settles (settings : Settings) (client : Client) (call : Call) (descriptor : Json)
    (valid : Prop) : Prop :=
  ∀ surroundings,
    valid ∧ attempt settings client call surroundings descriptor =
      proceed settings client call surroundings descriptor ∨
    attempt settings client call surroundings descriptor =
      refuse settings client call surroundings

theorem leave_point (settings : Settings) (client : Client) (call : Call) (left : Nat)
    (ending : Ending) : (leave settings client call left (.ended ending)).call.point =
      if settings.dispatcher = false ∧ client.locked = true then .lockLeave (.ended ending)
      else .done ending := by
  unfold leave
  split
  · rename_i dispatched
    simp [dispatched, Call.conclude, Call.suspend]
  · rename_i direct
    split
    · rename_i locked
      simp [direct, locked, Call.suspend]
    · rename_i unlocked
      simp [unlocked, settle, Call.conclude, Call.suspend]

private theorem proceed_point (settings : Settings) (client : Client) (call : Call)
    (descriptor : Json)
    (left : Nat) :
    (proceed settings client call { left, prelude := .connects } descriptor).call.point =
      if settings.dispatcher then .connecting else .sending := by
  cases dispatched : settings.dispatcher <;> simp [proceed, attempt, dispatched, Call.suspend]

theorem attempt_raises {settings : Settings} {client : Client} {call : Call} {descriptor : Json}
    {error : PyError} (raised : settings.validates descriptor call.params = .error error)
    (surroundings : Surroundings) : attempt settings client call surroundings descriptor =
      leave settings client call surroundings.left (.ended (.raised error)) := by
  simp only [attempt, raised]

theorem attempt_ne {settings : Settings} (client : Client) {call : Call} {descriptor : Json}
    {error : PyError} (raised : settings.validates descriptor call.params = .error error)
    (left : Nat) :
    attempt settings client call { left, prelude := .connects } descriptor ≠
        proceed settings client call { left, prelude := .connects } descriptor ∧
      attempt settings client call { left, prelude := .connects } descriptor ≠
        refuse settings client call { left, prelude := .connects } := by
  rw [attempt_raises raised]
  constructor
  · intro same
    have point := congrArg (fun segment : Segment => segment.call.point) same
    simp only [leave_point, proceed_point] at point
    split at point <;> split at point <;> cases point
  · intro same
    have point := congrArg (fun segment : Segment => segment.call.point) same
    simp only [refuse, leave_point] at point
    split at point <;> cases point

private theorem settles_iff {settings : Settings} {client : Client} {call : Call}
    {descriptor : Json}
    {valid : Prop} (sound : settings.validates descriptor call.params = .ok true → valid) :
    Settles settings client call descriptor valid ↔
      ∃ passes, settings.validates descriptor call.params = .ok passes := by
  constructor
  · intro settles
    cases checked : settings.validates descriptor call.params with
    | ok passes => exact ⟨passes, rfl⟩
    | error error =>
        have distinct := attempt_ne client checked 0
        rcases settles { left := 0, prelude := .connects } with ⟨-, proceeds⟩ | refused
        · exact absurd proceeds distinct.1
        · exact absurd refused distinct.2
  · rintro ⟨passes, checked⟩ surroundings
    cases passes with
    | false => exact .inr (by simp only [attempt, checked]; rfl)
    | true => exact .inl ⟨sound checked, by simp only [proceed, attempt, checked]; rfl⟩

private theorem attempt_cyclic {Context : Type} (library : JsonSchema Context)
    {descriptor schema : Json}
    (input : descriptor.get "input_schema" = some schema)
    (checkSchema : Json → Except PyError Unit) (dispatcher : Bool) (stack levels : Nat)
    (client : Client) (call : Call) (surroundings : Surroundings) {evaluation : Evaluation Context}
    (leads : Relation.ReflTransGen library.calls.Leads (library.start schema call.params)
      evaluation)
    (cycle : Relation.TransGen library.calls.Leads evaluation evaluation) :
    ∃ error, attempt (library.settings checkSchema dispatcher stack levels) client call surroundings
        descriptor =
      leave (library.settings checkSchema dispatcher stack levels) client call surroundings.left
        (.ended (.raised error)) := by
  cases checked : library.validates stack levels descriptor call.params with
  | ok passes =>
      have returns := (JsonSchema.exists_validates_iff input).mp ⟨passes, checked⟩
      exact absurd returns.1 (JsonSchema.not_evaluates_of_cycle leads cycle stack)
  | error error => exact ⟨error, attempt_raises checked surroundings⟩

/-- The checks of an attempt end in one of the two ways exactly if each reference that is evaluated
names a location, the evaluations within each other and valid parameters fit on the stack, and no
keyword raises an exception of another class.  The checks of a dispatcher client return exactly if
the same holds on its stack. -/
theorem total_validation {checkSchema : Json → Except PyError Unit} {frames : Nat}
    {policy operation : Json} {previous : Option Json} {operations : List Json}
    (accepted : validatePolicy checkSchema frames policy previous = .ok ())
    (listing : policy.get "operations" = some (.array operations))
    (listed : operation ∈ operations) :
    ∃ schema, operation.get "input_schema" = some schema ∧
      ∀ (Context : Type) (library : JsonSchema Context) (call : Call),
        (∀ (dispatcher : Bool) (stack levels : Nat) (client : Client),
          Settles (library.settings checkSchema dispatcher stack levels) client call operation
              (library.verdict (library.start schema call.params) = .valid) ↔
            library.Evaluates stack schema call.params ∧
              (library.verdict (library.start schema call.params) = .valid →
                dumps levels call.params ≠ .error .recursion)) ∧
        ∀ stack, library.verdict (library.start schema call.params) = .valid →
          ((∃ passes, library.describes checkSchema stack operation call.params = .ok passes) ↔
            validateOperation checkSchema stack operation = .ok () ∧
              library.Evaluates stack schema call.params) := by
  obtain ⟨frames, valid⟩ := exists_validateOperation accepted listing listed
  obtain ⟨_, schema, -, input, -, -⟩ := exists_schema_of_accepted valid
  refine ⟨schema, input, fun Context library call => ⟨?_, ?_⟩⟩
  · intro dispatcher stack levels client
    rw [settles_iff fun passes => JsonSchema.verdict_of_validates input passes]
    exact JsonSchema.exists_validates_iff input
  · intro stack passes
    exact JsonSchema.exists_describes_iff input valid passes

/-! ## A small library -/

/-- The location of a reference to the document or to one of its members. -/
def locate (document : Json) (text : String) : Option Json :=
  match text.toList with
  | ['#'] => some document
  | '#' :: '/' :: key => document.get (String.ofList key)
  | _ => none

/-- The text of `$ref`. -/
def reference (schema : Json) : Option String :=
  (schema.get "$ref").bind Json.asStr

/-- A library for schemas with `$ref` at their top. -/
def topLevel : JsonSchema Json where
  initial schema := schema
  makes evaluation := (reference evaluation.schema).toList.map fun text =>
    (3, { context := evaluation.context, target := .reference text, value := evaluation.value })
  lookup document text := (locate document text).map fun schema => (document, schema)
  raises _ _ := none
  verdict evaluation :=
    let referred := (reference evaluation.schema).bind (locate evaluation.context)
    if (evaluation.schema :: referred.toList).all fun schema =>
        Schema.validates String.toInt? schema evaluation.value then
      .valid
    else
      .invalid
  unnamed := nofun

/-- A policy for an operation with a schema. -/
def policyOf (schema : Json) : Json :=
  .object
    [("version", .unsigned 3), ("principal_id", .string "owner"), ("client_class", .string "agent"),
     ("policy_revision", .unsigned 1), ("refresh_after_ms", .unsigned 1000),
     ("outstanding", .unsigned 0),
     ("limits", .object [("scope", .string "principal"), ("max_outstanding", .unsigned 2)]),
     ("operations", .array [operationOf schema])]

/-- A schema with a reference. -/
def referring (text : String) : Json :=
  .object [("$ref", .string text), ("page", .object [("type", .string "object")])]

def paging : Call :=
  .new "page" (.object []) 100

/-- A client whose first policy lists it. -/
def paged (schema : Json) : Client where
  policy := some (policyOf schema)
  active := 1
  ready := true
  closed := false
  locked := false

/-- The settings of the client, with frames for evaluations and levels for encoding. -/
def checking (stack levels : Nat) : Settings :=
  topLevel.settings (fun _ => .ok ()) false stack levels

/-- A reference to a member of the document. -/
theorem total_validation_page :
    Settles (checking 100 100) (paged (referring "#/page")) paging
      (operationOf (referring "#/page"))
      (topLevel.verdict (topLevel.start (referring "#/page") paging.params) = .valid) := by
  have accepted : validatePolicy (fun _ => .ok ()) 100 (policyOf (referring "#/page")) none =
      .ok () := rfl
  obtain ⟨schema, input, settles⟩ := total_validation accepted rfl List.mem_cons_self
  obtain rfl : referring "#/page" = schema := Option.some.inj input
  have evaluates : topLevel.Evaluates 100 (referring "#/page") paging.params := by
    rw [JsonSchema.evaluates_iff]
    refine Descent.Calls.run_succ_eq_none.mpr ⟨fun entry made => ?_, rfl⟩
    obtain rfl := List.mem_singleton.mp made
    exact ⟨_, rfl, Descent.Calls.run_succ_eq_none.mpr ⟨nofun, rfl⟩⟩
  exact ((settles Json topLevel paging).1 false 100 100 (paged (referring "#/page"))).mpr
    ⟨evaluates, fun _ => by decide⟩

/-- References to nowhere, and to the document itself. -/
theorem total_validation_nowhere :
    (validatePolicy (fun _ => .ok ()) 100 (policyOf (referring "#/nowhere")) none = .ok () ∧
      (policyOf (referring "#/nowhere")).get "operations" =
        some (.array [operationOf (referring "#/nowhere")]) ∧
      ¬Settles (checking 100 100) (paged (referring "#/nowhere")) paging
        (operationOf (referring "#/nowhere"))
        (topLevel.verdict (topLevel.start (referring "#/nowhere") paging.params) = .valid) ∧
      ∀ surroundings, (attempt (checking 100 100) (paged (referring "#/nowhere")) paging
        surroundings (operationOf (referring "#/nowhere"))).call.point = .done (.raised .other)) ∧
    validatePolicy (fun _ => .ok ()) 100 (policyOf (referring "#")) none = .ok () ∧
      (policyOf (referring "#")).get "operations" = some (.array [operationOf (referring "#")]) ∧
      ∀ stack levels surroundings, ∃ error, (attempt (checking stack levels) (paged (referring "#"))
        paging surroundings (operationOf (referring "#"))).call.point = .done (.raised error) := by
  have ends : topLevel.calls.run 100 (topLevel.start (referring "#/nowhere") paging.params) =
      some .other := by
    rw [Descent.Calls.run]
    rfl
  have raised : (checking 100 100).validates (operationOf (referring "#/nowhere")) paging.params =
      .error .other := by
    have input : (operationOf (referring "#/nowhere")).get "input_schema" =
        some (referring "#/nowhere") := rfl
    simp only [checking, JsonSchema.settings, JsonSchema.validates, JsonSchema.validate, input,
      ends]
    rfl
  refine ⟨⟨rfl, rfl, fun settles => ?_, fun surroundings => ?_⟩, rfl, rfl, ?_⟩
  · have distinct := attempt_ne (paged (referring "#/nowhere")) raised 0
    rcases settles { left := 0, prelude := .connects } with ⟨-, proceeds⟩ | refused
    · exact distinct.1 proceeds
    · exact distinct.2 refused
  · rw [attempt_raises raised, leave_point]
    rfl
  · intro stack levels surroundings
    have input : (operationOf (referring "#")).get "input_schema" = some (referring "#") := rfl
    have again : topLevel.calls.Leads (topLevel.start (referring "#") paging.params)
        (topLevel.start (referring "#") paging.params) := ⟨3, List.mem_singleton.mpr rfl⟩
    obtain ⟨error, leaves⟩ := attempt_cyclic topLevel input (fun _ => .ok ()) false stack levels
      (paged (referring "#")) paging surroundings .refl (.single again)
    exact ⟨error, by rw [checking, leaves, leave_point]; rfl⟩

end Sdk

end AiProtocol
