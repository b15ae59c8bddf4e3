import Mathlib.Algebra.Group.Nat.Defs
import Mathlib.Data.List.Basic
import AiProtocol.Gateway.Discovery
import AiProtocol.Dispatcher.Gate

/-!
# How clients read a policy

The checks of the Python client, the two JSON schemas and the deserializer of the Rust client.
Calls have a number of frames left on the stack of the interpreter, below which they raise
`RecursionError`. The checker of the JSON schema library is a parameter.
-/

namespace AiProtocol

/-- The classes of exceptions a handler can tell apart. -/
inductive PyError where
  /-- `httpx.HTTPError`. -/
  | http
  /-- `ValueError`. -/
  | value (message : String)
  /-- `ProtocolError`, which is a `ValueError`. -/
  | protocol (message : String)
  /-- `jsonschema.SchemaError`. -/
  | schema
  /-- `TimeoutError`. -/
  | timeout
  /-- `asyncio.CancelledError`. -/
  | cancelled
  /-- `RecursionError`. -/
  | recursion
  /-- Any other class. -/
  | other
  deriving DecidableEq, Repr

/-- `isinstance(error, ValueError)`. -/
def PyError.isValue : PyError → Bool
  | .value _ | .protocol _ => true
  | _ => false

namespace Json

/-- The value, if its type is `int`. -/
def asInt : Json → Option Int
  | .unsigned value => some value
  | .number text => text.toInt?
  | _ => none

/-- The items, if the value is a list. -/
def asArray : Json → Option (List Json)
  | .array items => some items
  | _ => none

/-- A string with at least one character. -/
def nonempty (value : Json) : Bool :=
  value.asStr.any fun text => text ≠ ""

/-- An integer within bounds. -/
def within (value : Json) (least most : Int) : Bool :=
  value.asInt.any fun number => least ≤ number && number ≤ most

/-- An integer above a bound. -/
def atLeast (value : Json) (least : Int) : Bool :=
  value.asInt.any fun number => least ≤ number

end Json

/-- A loop whose body may raise. -/
def each {Item : Type} (body : Item → Except PyError Unit) : List Item → Except PyError Unit
  | [] => .ok ()
  | item :: rest =>
      match body item with
      | .error error => .error error
      | .ok () => each body rest

theorem each_eq_ok {Item : Type} {body : Item → Except PyError Unit} {items : List Item} :
    each body items = .ok () ↔ ∀ item ∈ items, body item = .ok () := by
  induction items with
  | nil => simp [each]
  | cons item rest induction =>
      cases passed : body item with
      | error error => simp [each, passed]
      | ok => simp [each, passed, induction]

/-! ## The Python client -/

/-- `[A-Za-z0-9_-]`. -/
def wordChar (char : Char) : Bool :=
  char.isAlphanum || char = '_' || char = '-'

/-- The rest of a path, after a slash or inside a segment. -/
def segments : Bool → List Char → Bool
  | inside, [] => inside
  | inside, char :: rest =>
      if char = '/' then inside && segments false rest else wordChar char && segments true rest

/-- `re.fullmatch(r"/[A-Za-z0-9_-]+(?:/[A-Za-z0-9_-]+)*", path)`. -/
def pathMatches (path : String) : Bool :=
  match path.toList with
  | '/' :: rest => segments false rest
  | _ => false

/-- A member of a schema which may refer to another document. -/
def externalReference (key : String) (item : Json) : Bool :=
  (key = "$ref" || key = "$dynamicRef") &&
    !item.asStr.any fun text => "#".toList.isPrefixOf text.toList

def checkReferences : Nat → Json → Except PyError Unit
  | 0, _ => .error .recursion
  | frames + 1, .object members =>
      each (fun member =>
        if externalReference member.1 member.2 then
          .error (.value "External schema references are not supported")
        else
          checkReferences frames member.2) members
  | frames + 1, .array items => each (checkReferences frames) items
  | _ + 1, _ => .ok ()

/-- `copy.deepcopy`, two frames for each level of nesting; the copy is equal to the original. -/
def deepcopy : Nat → Json → Except PyError Unit
  | 0, _ => .error .recursion
  | 1, _ => .error .recursion
  | frames + 2, .object members => each (fun member => deepcopy frames member.2) members
  | frames + 2, .array items => each (deepcopy frames) items
  | _ + 2, _ => .ok ()

section Validation

variable (checkSchema : Json → Except PyError Unit)

def validateOperation : Nat → Json → Except PyError Unit
  | 0, _ => .error .recursion
  | frames + 1, operation =>
      if operation.asObject.isNone then
        .error (.value "Invalid operation descriptor")
      else if !(operation.get "name").any Json.nonempty then
        .error (.value "Invalid operation name")
      else if !((operation.get "description").bind Json.asStr).isSome then
        .error (.value "Invalid operation description")
      else if (operation.get "method").bind Json.asStr ≠ some "POST" then
        .error (.value "This client currently supports only POST")
      else if !((operation.get "path").bind Json.asStr).any pathMatches then
        .error (.value "Unsupported operation path")
      else
        match (operation.get "input_schema").filter fun schema => schema.asObject.isSome with
        | none => .error (.value "Invalid operation schema")
        | some schema =>
            match checkReferences frames schema with
            | .error error => .error error
            | .ok () => checkSchema schema

/-- The loop of `validate_policy` over the operations, with the names it has seen. -/
def validateOperations (frames : Nat) : List (Option String) → List Json → Except PyError Unit
  | _, [] => .ok ()
  | names, operation :: rest =>
      match validateOperation checkSchema frames operation with
      | .error error =>
          if error.isValue || error = .schema then
            .error (.protocol "Invalid operation descriptor")
          else
            .error error
      | .ok () =>
          let name := (operation.get "name").bind Json.asStr
          if names.contains name then
            .error (.protocol "Duplicate operation name")
          else
            validateOperations frames (name :: names) rest

/-- The first condition of `validate_policy`. -/
def policyFields (policy : Json) : Bool :=
  let limits := policy.get "limits"
  (policy.get "version").any (fun version => version.asInt = some 3) &&
    (policy.get "principal_id").any Json.nonempty &&
    ((policy.get "client_class").bind Json.asStr).any
      (fun text => text = "agent" || text = "interactive") &&
    limits.any (fun limits => (limits.get "scope").bind Json.asStr = some "principal") &&
    limits.any (fun limits => (limits.get "max_outstanding").any fun maximum =>
      maximum.within 1 1000) &&
    (policy.get "policy_revision").any (fun revision => revision.atLeast 1) &&
    (policy.get "refresh_after_ms").any (fun delay => delay.within 100 60000) &&
    (policy.get "outstanding").any (fun outstanding => outstanding.atLeast 0) &&
    ((policy.get "operations").bind Json.asArray).isSome &&
    (policy.get "service_id").all Json.nonempty

/-- The ceiling of a policy. -/
def Json.ceiling (policy : Json) : Option Int :=
  ((policy.get "limits").bind fun limits => limits.get "max_outstanding").bind Json.asInt

/-- The revision of a policy. -/
def Json.revision (policy : Json) : Option Int :=
  (policy.get "policy_revision").bind Json.asInt

/-- The last condition of `validate_policy`, on policies whose fields were checked. -/
def continues (policy previous : Json) : Bool :=
  ["principal_id", "client_class", "service_id"].all
      (fun key => (policy.get key).bind Json.asStr = (previous.get key).bind Json.asStr) &&
    previous.revision.getD 0 ≤ policy.revision.getD 0 &&
    (policy.revision ≠ previous.revision || policy.ceiling = previous.ceiling)

/-- `validate_policy`; a policy it returns is a copy of its argument. -/
def validatePolicy : Nat → Json → Option Json → Except PyError Unit
  | 0, _, _ => .error .recursion
  | frames + 1, policy, previous =>
      if policy.asObject.isNone then
        .error (.protocol "Invalid policy object")
      else if !policyFields policy then
        .error (.protocol "Invalid or unsupported adaptive policy")
      else
        match validateOperations checkSchema frames []
            (((policy.get "operations").bind Json.asArray).getD []) with
        | .error error => .error error
        | .ok () =>
            if previous.any fun previous => !continues policy previous then
              .error (.protocol "Policy identity or revision changed inconsistently")
            else
              deepcopy frames policy

end Validation

/-! ## The schemas -/

/-- A member which may be absent. -/
def optional (value : Json) (key : String) (check : Json → Bool) : Bool :=
  (value.get key).all check

/-- Members which may not be absent. -/
def required (value : Json) (keys : List String) : Bool :=
  value.asObject.isSome && keys.all fun key => (value.get key).isSome

/-- `operation.schema.json`. -/
def operationSchema (operation : Json) : Bool :=
  required operation ["name", "description", "method", "path", "input_schema"] &&
    optional operation "name" (fun name => name.asStr.any fun text =>
      !text.toList.isEmpty && text.toList.all wordChar) &&
    optional operation "description" (fun description => description.asStr.isSome) &&
    optional operation "method" (fun method => method.asStr = some "POST") &&
    optional operation "path" (fun path => path.asStr.any pathMatches) &&
    optional operation "input_schema" fun schema => schema.asObject.isSome

/-- `policy.schema.json`; integers are written without a fraction. -/
def policySchema (policy : Json) : Bool :=
  required policy ["version", "principal_id", "client_class", "policy_revision",
      "refresh_after_ms", "outstanding", "limits", "queue", "operations"] &&
    optional policy "version" (fun version => version.asInt = some 3) &&
    optional policy "service_id" (fun id => id.asStr.any fun text =>
      !text.toList.isEmpty && text.toList.all wordChar) &&
    optional policy "principal_id" Json.nonempty &&
    optional policy "client_class" (fun text =>
      text.asStr = some "agent" || text.asStr = some "interactive") &&
    optional policy "policy_revision" (fun revision => revision.atLeast 1) &&
    optional policy "refresh_after_ms" (fun delay => delay.within 100 60000) &&
    optional policy "outstanding" (fun outstanding => outstanding.atLeast 0) &&
    optional policy "limits" (fun limits => required limits ["scope", "max_outstanding"] &&
      optional limits "scope" (fun scope => scope.asStr = some "principal") &&
      optional limits "max_outstanding" fun maximum => maximum.within 1 1000) &&
    optional policy "queue" (fun queue => required queue ["max_wait_ms"] &&
      optional queue "max_wait_ms" fun wait => wait.within 1 3600000) &&
    optional policy "operations" fun operations =>
      operations.asArray.any fun items => items.all operationSchema

/-! ## The Rust client -/

namespace Dispatcher

/-- `Limits`, as the deserializer reads it. -/
def Limits.ofJson (value : Json) : Option Limits := do
  let scope ← (value.get "scope").bind Json.asStr
  let maxOutstanding ← (value.get "max_outstanding").bind Json.asU64
  return { scope, maxOutstanding }

/-- `Policy`, as the deserializer reads it. -/
def Policy.ofJson (value : Json) : Option Policy := do
  let version ← ((value.get "version").bind Json.asU64).filter fun version => version < 2 ^ 32
  let principalId ← (value.get "principal_id").bind Json.asStr
  let clientClass ← (value.get "client_class").bind Json.asStr
  let policyRevision ← (value.get "policy_revision").bind Json.asU64
  let refreshAfterMs ← (value.get "refresh_after_ms").bind Json.asU64
  let outstanding ← (value.get "outstanding").bind Json.asU64
  let limits ← (value.get "limits").bind Limits.ofJson
  return { version, principalId, clientClass, policyRevision, refreshAfterMs, outstanding, limits }

/-- A gate with the policies it applied so far. -/
inductive Applied : List Json → Gate → Prop
  | new : Applied [] .default
  | apply {policies : List Json} {gate gate' : Gate} {policy : Json} {decoded : Policy}
      (applied : Applied policies gate) (read : Policy.ofJson policy = some decoded)
      (accepted : gate.apply decoded = .ok gate') : Applied (policies ++ [policy]) gate'
  | pause {policies : List Json} {gate : Gate} (applied : Applied policies gate) :
      Applied policies gate.pause
  | stop {policies : List Json} {gate : Gate} (applied : Applied policies gate) :
      Applied policies gate.stop
  | acquire {policies : List Json} {gate gate' : Gate} (applied : Applied policies gate)
      (acquired : gate.acquire = some (.ok gate')) : Applied policies gate'
  | release {policies : List Json} {gate : Gate} (applied : Applied policies gate) :
      Applied policies gate.release

/-- A gate knows the last policy it applied. -/
def Gate.Knows (gate : Gate) : Option Json → Prop
  | none => gate.principal = none ∧ gate.revision = 0
  | some policy => ∃ decoded, Policy.ofJson policy = some decoded ∧
      gate.principal = some decoded.principalId ∧ gate.revision = decoded.policyRevision ∧
        gate.maximum = decoded.limits.maxOutstanding

theorem Applied.knows {policies : List Json} {gate : Gate} (applied : Applied policies gate) :
    gate.Knows policies.getLast? := by
  induction applied with
  | new => exact ⟨rfl, rfl⟩
  | apply applied read accepted knows =>
      rw [List.getLast?_concat]
      refine ⟨_, read, ?_⟩
      unfold Gate.apply at accepted
      split at accepted
      · cases accepted
      · split at accepted
        · cases accepted
        · cases accepted
          exact ⟨rfl, rfl, rfl⟩
  | acquire applied acquired knows =>
      obtain ⟨-, rfl⟩ := Gate.acquire_eq_ok acquired
      exact knows
  | pause applied knows | stop applied knows | release applied knows => exact knows

end Dispatcher

/-! ## Nesting -/

namespace Json

/-- A value is nested in at most so many levels. -/
def nested : Nat → Json → Bool
  | 0, _ => false
  | levels + 1, .object members => members.all fun member => nested levels member.2
  | levels + 1, .array items => items.all (nested levels)
  | _ + 1, _ => true

theorem nested_mono {fewer more : Nat} {value : Json} (nested : value.nested fewer = true)
    (le : fewer ≤ more) : value.nested more = true := by
  induction fewer generalizing more value with
  | zero => simp [Json.nested] at nested
  | succ fewer induction =>
      obtain ⟨more, rfl⟩ : ∃ rest, more = rest + 1 := ⟨more - 1, by omega⟩
      cases value with
      | object members =>
          simp only [Json.nested, List.all_eq_true] at nested ⊢
          intro member listed
          exact induction (nested member listed) (by omega)
      | array items =>
          simp only [Json.nested, List.all_eq_true] at nested ⊢
          intro item listed
          exact induction (nested item listed) (by omega)
      | _ => rfl

end Json

theorem each_recursion {Item : Type} {body : Item → Except PyError Unit} {fits : Item → Bool}
    {items : List Item}
    (bodies : ∀ item ∈ items, body item = if fits item then .ok () else .error .recursion) :
    each body items = if items.all fits then .ok () else .error .recursion := by
  induction items with
  | nil => rfl
  | cons item rest induction =>
      have first := bodies item List.mem_cons_self
      have others := induction fun other member => bodies other (List.mem_cons_of_mem _ member)
      cases fitting : fits item with
      | true => simp [each, first, fitting, others]
      | false => simp [each, first, fitting]

/-- Copying fails exactly where the stack ends. -/
theorem deepcopy_eq (frames : Nat) (value : Json) :
    deepcopy frames value =
      if value.nested (frames / 2) then .ok () else .error .recursion := by
  induction frames using Nat.strong_induction_on generalizing value with
  | _ frames induction =>
      match frames with
      | 0 => cases value <;> rfl
      | 1 => cases value <;> rfl
      | frames + 2 =>
          have half : (frames + 2) / 2 = frames / 2 + 1 := by omega
          rw [half]
          cases value with
          | object members =>
              exact each_recursion fun member _ => induction frames (by omega) member.2
          | array items => exact each_recursion fun item _ => induction frames (by omega) item
          | _ => rfl

/-- A loop raises what its body raises. -/
theorem exists_of_each {Item : Type} {body : Item → Except PyError Unit} {items : List Item}
    {error : PyError} (raised : each body items = .error error) :
    ∃ item ∈ items, body item = .error error := by
  induction items with
  | nil => cases raised
  | cons item rest induction =>
      cases first : body item with
      | error early =>
          simp only [each, first] at raised
          exact ⟨item, List.mem_cons_self, first.trans raised⟩
      | ok =>
          simp only [each, first] at raised
          obtain ⟨later, member, found⟩ := induction raised
          exact ⟨later, List.mem_cons_of_mem _ member, found⟩

theorem Json.nested_get {levels : Nat} {value item : Json} {key : String}
    (nested : value.nested levels = true) (found : value.get key = some item) :
    item.nested (levels - 1) = true := by
  cases value with
  | object members =>
      obtain ⟨front, back, split, -⟩ := List.lookup_eq_some_iff.mp found
      cases levels with
      | zero => simp [Json.nested] at nested
      | succ levels =>
          simp only [Json.nested, List.all_eq_true] at nested
          exact nested (key, item) (by simp [split])
  | _ => cases found

theorem Json.nested_item {levels : Nat} {items : List Json} {item : Json}
    (nested : (Json.array items).nested levels = true) (member : item ∈ items) :
    item.nested (levels - 1) = true := by
  cases levels with
  | zero => simp [Json.nested] at nested
  | succ levels =>
      simp only [Json.nested, List.all_eq_true] at nested
      exact nested item member

private theorem checkReferences_shallow {frames : Nat} {value : Json} {error : PyError}
    (shallow : value.nested frames = true) (raised : checkReferences frames value = .error error) :
    error.isValue = true := by
  induction frames generalizing value with
  | zero => simp [Json.nested] at shallow
  | succ frames induction =>
      cases value with
      | object members =>
          simp only [Json.nested, List.all_eq_true] at shallow
          obtain ⟨member, listed, failed⟩ := exists_of_each raised
          split at failed
          · cases failed
            rfl
          · exact induction (shallow member listed) failed
      | array items =>
          simp only [Json.nested, List.all_eq_true] at shallow
          obtain ⟨item, listed, failed⟩ := exists_of_each raised
          exact induction (shallow item listed) failed
      | _ => cases raised

/-- The schema of an accepted operation.  On another stack, only the check of its references may
end otherwise. -/
theorem exists_schema_of_accepted {checkSchema : Json → Except PyError Unit} {frames : Nat}
    {operation : Json} (accepted : validateOperation checkSchema frames operation = .ok ()) :
    ∃ rest schema, frames = rest + 1 ∧ operation.get "input_schema" = some schema ∧
      checkReferences rest schema = .ok () ∧
        ∀ other, validateOperation checkSchema (other + 1) operation =
          checkReferences other schema := by
  cases frames with
  | zero => cases accepted
  | succ frames =>
      rw [validateOperation] at accepted
      split at accepted
      · cases accepted
      rename_i isObject
      split at accepted
      · cases accepted
      rename_i named
      split at accepted
      · cases accepted
      rename_i described
      split at accepted
      · cases accepted
      rename_i posts
      split at accepted
      · cases accepted
      rename_i routed
      split at accepted
      · cases accepted
      rename_i schema found
      split at accepted
      · cases accepted
      rename_i checked
      refine ⟨frames, schema, rfl, (Option.filter_eq_some_iff.mp found).1, checked,
        fun other => ?_⟩
      rw [validateOperation, if_neg isObject, if_neg named, if_neg described, if_neg posts,
        if_neg routed]
      simp only [found]
      cases again : checkReferences other schema with
      | error error => rfl
      | ok => exact accepted

section Shallow

variable {checkSchema : Json → Except PyError Unit}
  (documented : ∀ schema error, checkSchema schema = .error error →
    error.isValue = true ∨ error = .schema)
include documented

private theorem validateOperation_shallow {frames : Nat} {operation : Json} {error : PyError}
    (shallow : operation.nested frames = true)
    (raised : validateOperation checkSchema frames operation = .error error) :
    error.isValue = true ∨ error = .schema := by
  cases frames with
  | zero => simp [Json.nested] at shallow
  | succ frames =>
      simp only [validateOperation] at raised
      iterate 5
        split at raised
        · exact .inl (by cases raised; rfl)
      split at raised
      · exact .inl (by cases raised; rfl)
      · rename_i schema found
        obtain ⟨member, -⟩ := Option.filter_eq_some_iff.mp found
        split at raised
        · rename_i failed
          cases raised
          exact .inl (checkReferences_shallow (Json.nested_get shallow member) failed)
        · exact documented _ _ raised

private theorem validateOperations_shallow {frames : Nat} {names : List (Option String)}
    {operations : List Json} {error : PyError}
    (shallow : ∀ operation ∈ operations, operation.nested frames = true)
    (raised : validateOperations checkSchema frames names operations = .error error) :
    error.isValue = true := by
  induction operations generalizing names with
  | nil => cases raised
  | cons operation rest induction =>
      simp only [validateOperations] at raised
      split at raised
      · rename_i early failed
        rw [if_pos] at raised
        · cases raised
          rfl
        · simpa using validateOperation_shallow documented (shallow operation List.mem_cons_self)
            failed
      · split at raised
        · cases raised
          rfl
        · exact induction (fun later member => shallow later (List.mem_cons_of_mem _ member)) raised

/-- A policy which is not too deep for the stack is refused with a `ValueError` only. -/
theorem validatePolicy_shallow {frames : Nat} {policy : Json} {previous : Option Json}
    {error : PyError} (shallow : policy.nested ((frames - 1) / 2) = true)
    (raised : validatePolicy checkSchema frames policy previous = .error error) :
    error.isValue = true := by
  cases frames with
  | zero => simp [Json.nested] at shallow
  | succ frames =>
      rw [Nat.add_sub_cancel] at shallow
      simp only [validatePolicy] at raised
      split at raised
      · cases raised
        rfl
      · split at raised
        · cases raised
          rfl
        · split at raised
          · rename_i failed
            cases raised
            apply validateOperations_shallow documented _ failed
            intro operation member
            cases found : policy.get "operations" with
            | none => simp [found] at member
            | some operations =>
                have inner := Json.nested_get shallow found
                cases operations with
                | array items =>
                    have listed : operation ∈ items := by simpa [found, Json.asArray] using member
                    exact Json.nested_mono (Json.nested_item inner listed) (by omega)
                | _ => simp [found, Json.asArray] at member
          · split at raised
            · cases raised
              rfl
            · rw [deepcopy_eq, if_pos shallow] at raised
              cases raised

end Shallow

end AiProtocol
