import AiProtocol.Client.Schema
import AiProtocol.Dispatcher.Routes
import AiProtocol.Gateway.Consistency
import AiProtocol.Library.Grammar

/-!
# Paths

Three readers of one grammar: the gateway and the dispatcher strip a slash and split, the Python
client matches a regular expression.
-/

namespace AiProtocol

/-! ## Characters -/

/-- Letters, digits, `_` and `-`. -/
def PathLetter (char : Char) : Prop :=
  ('A' ≤ char ∧ char ≤ 'Z') ∨ ('a' ≤ char ∧ char ≤ 'z') ∨ ('0' ≤ char ∧ char ≤ '9') ∨
    char = '_' ∨ char = '-'

theorem wordChar_iff {char : Char} : wordChar char = true ↔ PathLetter char := by
  have alphanum : char.isAlphanum = (decide (char.val ≥ 'A'.val ∧ char.val ≤ 'Z'.val) ||
      (char.val ≥ 'a'.val && char.val ≤ 'z'.val) ||
        (char.val ≥ '0'.val && char.val ≤ '9'.val)) := rfl
  simp only [wordChar, alphanum, PathLetter, Bool.or_eq_true, Bool.and_eq_true, decide_eq_true_eq,
    Char.le_def]
  tauto

theorem PathLetter.ascii {char : Char} (letter : PathLetter char) : char.toNat < 128 := by
  simp only [PathLetter, Char.le_def, UInt32.le_iff_toNat_le] at letter
  rcases letter with ⟨-, last⟩ | ⟨-, last⟩ | ⟨-, last⟩ | rfl | rfl
  · exact Nat.lt_of_le_of_lt last (by decide)
  · exact Nat.lt_of_le_of_lt last (by decide)
  · exact Nat.lt_of_le_of_lt last (by decide)
  · decide
  · decide

/-- The test of the gateway and the dispatcher on a byte. -/
def safeByte (byte : UInt8) : Bool :=
  (65 ≤ byte.toNat && byte.toNat ≤ 90) || (97 ≤ byte.toNat && byte.toNat ≤ 122) ||
    (48 ≤ byte.toNat && byte.toNat ≤ 57) || byte = 95 || byte = 45

theorem safeByte_ofNat {number : Nat} (small : number < 256) :
    safeByte (UInt8.ofNat number) = true ↔ (65 ≤ number ∧ number ≤ 90) ∨
      (97 ≤ number ∧ number ≤ 122) ∨ (48 ≤ number ∧ number ≤ 57) ∨ number = 95 ∨ number = 45 := by
  have same : (UInt8.ofNat number).toNat = number := UInt8.toNat_ofNat_of_lt' small
  simp only [safeByte, Bool.or_eq_true, Bool.and_eq_true, decide_eq_true_eq, ← UInt8.toNat_inj,
    same, or_assoc]
  exact Iff.rfl

private theorem safeByte_utf8 (char : Char) :
    (String.utf8EncodeChar char).all safeByte = wordChar char := by
  rw [Bool.eq_iff_iff, wordChar_iff]
  have foreign : ∀ first : Nat, 128 ≤ first → first < 256 → ∀ rest, 128 ≤ char.val.toNat →
      ((UInt8.ofNat first :: rest).all safeByte = true ↔ PathLetter char) := by
    intro first high small rest outside
    rw [List.all_cons, Bool.and_eq_true, safeByte_ofNat small]
    refine iff_of_false (by omega) fun letter => ?_
    exact absurd letter.ascii (Nat.not_lt.mpr outside)
  unfold String.utf8EncodeChar
  dsimp only
  split
  · rename_i ascii
    rw [List.all_cons, List.all_nil, Bool.and_true, safeByte_ofNat (by omega)]
    simp only [PathLetter, Char.le_def, UInt32.le_iff_toNat_le, Char.ext_iff, ← UInt32.toNat_inj]
    exact Iff.rfl
  · split
    · exact foreign _ (by omega) (by omega) _ (by omega)
    · split
      · exact foreign _ (by omega) (by omega) _ (by omega)
      · exact foreign _ (by omega) (by omega) _ (by omega)

/-- The characters from one to another. -/
def charRange (first last : Char) : List Char :=
  (List.range' first.toNat (last.toNat + 1 - first.toNat)).map Char.ofNat

theorem mem_charRange (first last : Char) {char : Char} (plane : last.toNat < 0xd800) :
    char ∈ charRange first last ↔ first ≤ char ∧ char ≤ last := by
  simp only [charRange, List.mem_map, List.mem_range'_1, Char.le_def, UInt32.le_iff_toNat_le]
  constructor
  · rintro ⟨number, between, rfl⟩
    have small : number < 0xd800 := by omega
    have same : (Char.ofNat number).toNat = number := by
      rw [Char.ofNat, dif_pos (.inl small)]
      rfl
    simp only [Char.toNat] at between same
    omega
  · intro between
    refine ⟨char.toNat, ?_, Char.ofNat_toNat char⟩
    simp only [Char.toNat]
    omega

/-- `[A-Za-z0-9_-]`. -/
def wordLetters : List Char :=
  charRange 'A' 'Z' ++ charRange 'a' 'z' ++ charRange '0' '9' ++ ['_', '-']

private theorem mem_wordLetters {char : Char} : char ∈ wordLetters ↔ PathLetter char := by
  simp only [wordLetters, List.mem_append, mem_charRange 'A' 'Z' (by decide),
    mem_charRange 'a' 'z' (by decide), mem_charRange '0' '9' (by decide), PathLetter,
    List.mem_cons, List.not_mem_nil, or_false, or_assoc]

/-- `/[A-Za-z0-9_-]+(?:/[A-Za-z0-9_-]+)*`. -/
def pathExpression : RegularExpression Char :=
  .char '/' * Grammar.oneOrMore (Grammar.oneOf wordLetters) *
    .star (.char '/' * Grammar.oneOrMore (Grammar.oneOf wordLetters))

/-! ## The grammar -/

/-- The path consists of these components. -/
def HasComponents (path : String) (components : List (List Char)) : Prop :=
  Grammar.Separates '/' PathLetter components path.toList

/-- The path consists of non-empty components, each after a slash. -/
def Grammatical (path : String) : Prop :=
  ∃ components, HasComponents path components

private theorem slash_not_letter : ¬PathLetter '/' := by
  rw [← wordChar_iff]
  decide

private theorem identifier_iff_letters {value : List Char} :
    identifier value = true ↔ value ≠ [] ∧ ∀ char ∈ value, PathLetter char := by
  simp only [identifier_iff, wordChar_iff]

private theorem safeComponent_eq_identifier (value : List Char) :
    Dispatcher.safeComponent value = identifier value := by
  simp [Dispatcher.safeComponent, identifier, Bool.or_assoc]

/-- The test of both on the bytes of a text. -/
def safeBytes (component : List Char) : Bool :=
  !component.isEmpty && (component.flatMap String.utf8EncodeChar).all safeByte

private theorem identifier_eq_safeBytes (component : List Char) :
    identifier component = safeBytes component := by
  rw [safeBytes, List.all_flatMap, funext safeByte_utf8]
  rfl

theorem route_iff {path : String} : route path = true ↔ Grammatical path := by
  rw [Grammatical]
  simp only [HasComponents, Grammar.separates_iff_splitOn slash_not_letter,
    ← identifier_iff_letters]
  unfold route
  split
  · rename_i rest listed
    simp [listed]
  · rename_i other
    simp only [Bool.false_eq_true, false_iff]
    rintro ⟨rest, listed, -⟩
    exact other rest listed

theorem safePath_iff {operation : Dispatcher.OperationRoute} :
    operation.safePath = true ↔ Grammatical operation.path := by
  have same : operation.safePath = route operation.path := by
    unfold Dispatcher.OperationRoute.safePath
    rw [funext safeComponent_eq_identifier]
    rfl
  rw [same, route_iff]

theorem matches_pathExpression {path : String} :
    path.toList ∈ pathExpression.matches' ↔ Grammatical path := by
  have same : (PathLetter : Char → Prop) = (· ∈ wordLetters) :=
    funext fun char => propext mem_wordLetters.symm
  unfold Grammatical HasComponents
  rw [same, Grammar.separates_iff_matches]
  exact Iff.rfl

private theorem pathMatches_iff {path : String} :
    pathMatches path = true ↔ path.toList ∈ pathExpression.matches' := by
  rw [pathMatches_eq_route, route_iff, matches_pathExpression]

/-- The routes a host keeps for itself. -/
def reservedPaths : List String :=
  ["/healthz", "/readyz", "/agent-policy", "/admin"]

private theorem operationPath_iff {path : String} :
    operationPath path = true ↔ Grammatical path ∧ path ∉ reservedPaths ∧
      ¬"/admin/".toList <+: path.toList := by
  simp only [operationPath, Bool.and_eq_true, decide_eq_true_eq, Bool.not_eq_true',
    ← Bool.not_eq_true, List.isPrefixOf_iff_prefix, route_iff, reservedPaths, List.mem_cons,
    List.not_mem_nil, or_false, not_or, and_assoc]

/-- A component is not empty, is no dot segment and has no character which a URL treats apart. -/
def PlainComponent (component : List Char) : Prop :=
  component ≠ [] ∧ component ≠ ['.'] ∧ component ≠ ['.', '.'] ∧
    ∀ char ∈ component, char.toNat < 128 ∧ char ∉ ['/', '.', '%', '?', '#']

private theorem special_not_letter : ∀ char ∈ ['/', '.', '%', '?', '#'], ¬PathLetter char := by
  intro char special
  rw [← wordChar_iff]
  simp only [List.mem_cons, List.not_mem_nil, or_false] at special
  rcases special with rfl | rfl | rfl | rfl | rfl <;> decide

private theorem plain_of_letters {component : List Char} (nonempty : component ≠ [])
    (letters : ∀ char ∈ component, PathLetter char) : PlainComponent component := by
  have ordinary : ∀ char ∈ component, char ∉ ['/', '.', '%', '?', '#'] :=
    fun char member special => special_not_letter char special (letters char member)
  refine ⟨nonempty, ?_, ?_, fun char member => ⟨(letters char member).ascii, ordinary char member⟩⟩
  · rintro rfl
    exact ordinary '.' (by simp) (by simp)
  · rintro rfl
    exact ordinary '.' (by simp) (by simp)

/-- One path grammar.  The gateway and the dispatcher, byte by byte, and the expression of the
Python client accept the same paths, a slash and non-empty components over letters, digits, `_` and
`-`, separated by slashes; an operation may have each of them but the reserved ones and those under
`/admin`; so whatever a gateway publishes both clients accept, and nothing in an accepted path is
empty, a dot segment, encoded, a query or outside of ASCII. -/
theorem path_grammar :
    (∀ component, identifier component = safeBytes component ∧
      Dispatcher.safeComponent component = safeBytes component) ∧
    (∀ path, route path = true ↔ Grammatical path) ∧
    (∀ operation : Dispatcher.OperationRoute,
      operation.safePath = true ↔ Grammatical operation.path) ∧
    (∀ path, path.toList ∈ pathExpression.matches' ↔ Grammatical path) ∧
    (∀ path, pathMatches path = true ↔ path.toList ∈ pathExpression.matches') ∧
    (∀ path, operationPath path = true ↔ Grammatical path ∧ path ∉ reservedPaths ∧
      ¬"/admin/".toList <+: path.toList) ∧
    (∀ deployment : Deployment, deployment.Accepted → ∀ operation ∈ deployment.service.operations,
      pathMatches operation.path = true ∧ ∀ published : Dispatcher.OperationRoute,
        published.path = operation.path → published.safePath = true) ∧
    ∀ path components, HasComponents path components →
      ∀ component ∈ components, PlainComponent component := by
  refine ⟨?_, fun _ => route_iff, fun _ => safePath_iff, fun _ => matches_pathExpression,
    fun _ => pathMatches_iff, fun _ => operationPath_iff, ?_, ?_⟩
  · intro component
    rw [safeComponent_eq_identifier, identifier_eq_safeBytes]
    exact ⟨rfl, rfl⟩
  · intro deployment accepted operation member
    have valid := accepted.wellFormed.operations.routed operation member
    have grammatical := (operationPath_iff.mp valid).1
    refine ⟨pathMatches_iff.mpr (matches_pathExpression.mpr grammatical), ?_⟩
    intro published same
    rw [safePath_iff, same]
    exact grammatical
  · intro path components whole component member
    obtain ⟨nonempty, letters⟩ := whole.valid component member
    exact plain_of_letters nonempty letters

end AiProtocol
