import Mathlib.Data.List.TakeWhile
import AiProtocol.Client.Policy
import AiProtocol.Library.Url

/-!
# Origins of the Python client

The client accepts an origin by the parts of its URL, and makes the URLs of its requests from the
text of the origin.  Delimiters with nothing after them and a slash before removed characters stay
in this text, although the parts do not show them.
-/

namespace AiProtocol

/-! ## `urllib.parse` -/

/-- A character which `urlsplit` strips from the front. -/
def isControlOrSpace (char : Char) : Bool :=
  char ≤ ' '

/-- A tab or the end of a line, which `urlsplit` removes everywhere. -/
def isUnsafe (char : Char) : Bool :=
  char = '\t' || char = '\r' || char = '\n'

/-- The characters of a URL which `urlsplit` reads. -/
def sanitize (url : List Char) : List Char :=
  (url.dropWhile isControlOrSpace).filter fun char => !isUnsafe char

/-- `SplitResult`. -/
structure SplitResult where
  /-- Scheme in lower case, empty unless it is given. -/
  scheme : List Char
  /-- Authority, empty unless it is given. -/
  netloc : List Char
  /-- Path. -/
  path : List Char
  /-- Query, empty unless it is given. -/
  query : List Char
  /-- Fragment, empty unless it is given. -/
  fragment : List Char
  deriving DecidableEq

namespace SplitResult

/-- `hostname`, empty unless it is given. -/
def hostname (url : SplitResult) : List Char :=
  Url.hostName (Url.splitUser url.netloc).2

def username (url : SplitResult) : Option (List Char) :=
  (Url.splitUser url.netloc).1.map fun user => (Url.cut ':' user).1

def password (url : SplitResult) : Option (List Char) :=
  (Url.splitUser url.netloc).1.bind fun user => (Url.cut ':' user).2

end SplitResult

section Origins

variable (validNetloc : List Char → Bool)

/-- `urlsplit`.  The checks of brackets and of the normal form of an authority are a parameter. -/
def urlsplit (url : List Char) : Except PyError SplitResult :=
  let parts := Url.split (sanitize url)
  let netloc := parts.authority.getD []
  if validNetloc netloc then
    .ok
      { scheme := (parts.scheme.getD []).map Char.toLower
        netloc
        path := parts.path
        query := parts.query.getD []
        fragment := parts.fragment.getD [] }
  else
    .error (.value "netloc contains invalid characters")

def rstrip (text : List Char) : List Char :=
  text.rdropWhile (· = '/')

def validateOrigin (origin : List Char) : Except PyError (List Char) :=
  match urlsplit validNetloc origin with
  | .error error => .error error
  | .ok url =>
      if (url.scheme ≠ "http".toList ∧ url.scheme ≠ "https".toList)
        ∨ url.hostname = []
        ∨ url.username ≠ none
        ∨ url.password ≠ none
        ∨ (url.path ≠ [] ∧ url.path ≠ ['/'])
        ∨ url.query ≠ []
        ∨ url.fragment ≠ [] then
        .error (.value "Service URL must be an HTTP(S) origin without credentials or a path")
      else
        .ok (rstrip origin)

/-- The URL `_request` makes of the origin given to the constructor. -/
def requestOf (origin path : List Char) : List Char :=
  rstrip origin ++ path

inductive RequestPath (checkSchema : Json → Except PyError Unit) : String → Prop
  | policy : RequestPath checkSchema "/agent-policy"
  | operation {frames : Nat} {operation : Json} {path : String}
      (valid : validateOperation checkSchema frames operation = .ok ())
      (named : operation.get "path" = some (.string path)) : RequestPath checkSchema path

/-- The URL of a request has the scheme and the authority of the origin, the path of the request,
and nothing else. -/
def Composes (origin url path : List Char) : Prop :=
  ∃ whole request, urlsplit validNetloc origin = .ok whole ∧
    urlsplit validNetloc url = .ok request ∧ request.scheme = whole.scheme ∧
      request.netloc = whole.netloc ∧ request.path = path ∧ request.query = [] ∧
        request.fragment = []

end Origins

/-- No delimiter of a query or a fragment, and no tab or end of a line after a slash at the end. -/
structure Plain (origin : List Char) : Prop where
  /-- No query is begun. -/
  query : '?' ∉ origin
  /-- No fragment is begun. -/
  fragment : '#' ∉ origin
  /-- The last slash can be stripped. -/
  ending : ∀ front removed, origin = front ++ '/' :: removed →
    (∀ char ∈ removed, isUnsafe char = true) → removed = []

/-! ## Removed characters -/

private theorem isUnsafe_isControlOrSpace {char : Char} (removed : isUnsafe char = true) :
    isControlOrSpace char = true := by
  simp only [isUnsafe, Bool.or_eq_true, decide_eq_true_eq] at removed
  rcases removed with (rfl | rfl) | rfl <;> decide

theorem sanitize_append (front rest : List Char) (slash : rest.head? = some '/') :
    sanitize (front ++ rest) = sanitize front ++ rest.filter fun char => !isUnsafe char := by
  have kept : rest.dropWhile isControlOrSpace = rest := by
    cases rest with
    | nil => rfl
    | cons first rest =>
        obtain rfl : first = '/' := by simpa using slash
        exact List.dropWhile_cons_of_neg (by decide)
  unfold sanitize
  rw [List.dropWhile_append, kept]
  split
  · rename_i empty
    rw [List.isEmpty_iff.mp empty]
    rfl
  · exact List.filter_append ..

theorem mem_sanitize {char : Char} {url : List Char} (member : char ∈ url)
    (visible : isControlOrSpace char = false) : char ∈ sanitize url := by
  have kept : isUnsafe char = false := by
    by_contra removed
    simp [isUnsafe_isControlOrSpace (by simpa using removed)] at visible
  rw [← List.takeWhile_append_dropWhile (p := isControlOrSpace) (l := url)] at member
  rcases List.mem_append.mp member with stripped | later
  · simp [List.mem_takeWhile_imp stripped] at visible
  · exact List.mem_filter.mpr ⟨later, by simp [kept]⟩

private theorem sanitize_eq_concat {url front : List Char} (read : sanitize url = front ++ ['/']) :
    ∃ front' removed, url = front' ++ '/' :: removed ∧
      ∀ char ∈ removed, isUnsafe char = true := by
  obtain ⟨earlier, later, split, -, last⟩ := List.filter_eq_append_iff.mp read
  obtain ⟨between, removed, rfl, -, -, nothing⟩ := List.filter_eq_cons_iff.mp last
  refine ⟨url.takeWhile isControlOrSpace ++ earlier ++ between, removed, ?_, ?_⟩
  · rw [List.append_assoc, List.append_assoc, ← split, List.takeWhile_append_dropWhile]
  · intro char member
    simpa using List.filter_eq_nil_iff.mp nothing char member

private theorem char_of_segments {inside : Bool} {path : List Char}
    (valid : segments inside path = true)
    {char : Char} (member : char ∈ path) : char = '/' ∨ wordChar char = true := by
  induction path generalizing inside with
  | nil => cases member
  | cons first rest induction =>
      rw [segments] at valid
      split at valid
      · rename_i slash
        rcases List.mem_cons.mp member with rfl | later
        · exact .inl slash
        · exact induction (Bool.and_eq_true_iff.mp valid).2 later
      · rcases List.mem_cons.mp member with rfl | later
        · exact .inr (Bool.and_eq_true_iff.mp valid).1
        · exact induction (Bool.and_eq_true_iff.mp valid).2 later

theorem filter_path {path : String} (valid : pathMatches path = true) :
    path.toList.head? = some '/' ∧
      (path.toList.filter fun char => !isUnsafe char) = path.toList ∧
        '?' ∉ path.toList ∧ '#' ∉ path.toList := by
  unfold pathMatches at valid
  split at valid
  · rename_i rest listed
    rw [listed]
    have only (char : Char) (member : char ∈ '/' :: rest) : char = '/' ∨ wordChar char = true := by
      rcases List.mem_cons.mp member with rfl | later
      · exact .inl rfl
      · exact char_of_segments valid later
    refine ⟨rfl, List.filter_eq_self.mpr fun char member => ?_,
      fun member => absurd (only _ member) (by decide),
      fun member => absurd (only _ member) (by decide)⟩
    by_contra removed
    simp only [Bool.not_eq_true, Bool.not_eq_false', isUnsafe, Bool.or_eq_true,
      decide_eq_true_eq] at removed
    rcases removed with (rfl | rfl) | rfl <;> exact absurd (only _ member) (by decide)
  · cases valid

private theorem pathMatches_requestPath {checkSchema : Json → Except PyError Unit} {path : String}
    (requested : RequestPath checkSchema path) : pathMatches path = true := by
  cases requested with
  | policy => rfl
  | operation valid named =>
      rename_i frames operation
      cases frames with
      | zero => cases valid
      | succ frames =>
          rw [validateOperation] at valid
          iterate 4 (split at valid; · cases valid)
          split at valid
          · cases valid
          · rename_i matched
            simpa [named, Json.asStr] using matched

/-! ## Accepted origins -/

theorem rstrip_slashes (origin : List Char) : ∃ slashes, origin = rstrip origin ++ slashes ∧
    (∀ char ∈ slashes, char = '/') ∧ sanitize origin = sanitize (rstrip origin) ++ slashes := by
  obtain ⟨slashes, whole, all⟩ : ∃ slashes, origin = rstrip origin ++ slashes ∧
      ∀ char ∈ slashes, char = '/' :=
    ⟨origin.rtakeWhile (· = '/'), (List.rdropWhile_append_rtakeWhile ..).symm,
      fun char member => by simpa using List.mem_rtakeWhile_imp member⟩
  refine ⟨slashes, whole, all, ?_⟩
  cases slashes with
  | nil =>
      rw [List.append_nil] at whole
      rw [List.append_nil, ← whole]
  | cons first rest =>
      have kept : ((first :: rest).filter fun char => !isUnsafe char) = first :: rest :=
        List.filter_eq_self.mpr fun char member => by rw [all char member]; rfl
      have slash : (first :: rest).head? = some '/' := by simp [all first List.mem_cons_self]
      rw [← kept, ← sanitize_append _ _ slash, ← whole]

private theorem getLast_slashes (front : List Char) {slashes : List Char}
    (all : ∀ char ∈ slashes, char = '/') : (front ++ '/' :: slashes).getLast? = some '/' := by
  rcases List.eq_nil_or_concat' slashes with rfl | ⟨more, last, rfl⟩
  · exact List.getLast?_concat
  · rw [all last (by simp), ← List.cons_append, ← List.append_assoc, List.getLast?_concat]

theorem rstrip_append {text slashes : List Char} (last : text.getLast? ≠ some '/')
    (all : ∀ char ∈ slashes, char = '/') : rstrip (text ++ slashes) = text := by
  have kept : rstrip text = text := by
    refine List.rdropWhile_eq_self_iff.mpr fun some slash => last ?_
    rw [List.getLast?_eq_some_getLast some]
    simpa using slash
  have stripped : rstrip (text ++ slashes) = rstrip text := by
    unfold rstrip List.rdropWhile
    rw [List.reverse_append, List.dropWhile_append_of_pos (by simpa using all)]
  rw [stripped, kept]

private theorem getLast_rstrip (text : List Char) : (rstrip text).getLast? ≠ some '/' := by
  intro slash
  have some : rstrip text ≠ [] := by
    intro empty
    simp [empty] at slash
  rw [List.getLast?_eq_some_getLast some, Option.some.injEq] at slash
  exact List.rdropWhile_last_not _ _ some (decide_eq_true slash)

/-- The parts of an accepted origin. -/
theorem validateOrigin_eq_ok {validNetloc : List Char → Bool} {origin returned : List Char}
    (accepted : validateOrigin validNetloc origin = .ok returned) :
    returned = rstrip origin ∧ ∃ scheme authority path query fragment,
      Url.split (sanitize origin) = ⟨some scheme, some authority, path, query, fragment⟩ ∧
        authority ≠ [] ∧ validNetloc authority = true ∧ (path = [] ∨ path = ['/']) ∧
          query.getD [] = [] ∧ fragment.getD [] = [] := by
  unfold validateOrigin urlsplit at accepted
  rcases parts : Url.split (sanitize origin) with ⟨scheme, authority, path, query, fragment⟩
  simp only [parts] at accepted
  split at accepted
  · cases accepted
  · rename_i valid read
    split at read
    · rename_i allowed
      obtain rfl := Except.ok.inj read
      split at accepted
      · cases accepted
      · rename_i checked
        simp only [not_or, not_and_or, not_not, ne_eq] at checked
        obtain ⟨schemed, hosted, -, -, root, empty, empty'⟩ := checked
        obtain rfl := Except.ok.inj accepted
        cases scheme with
        | none => simp at schemed
        | some scheme =>
            cases authority with
            | none => exact absurd rfl hosted
            | some authority =>
                have nonempty : authority ≠ [] := by
                  rintro rfl
                  exact hosted rfl
                exact ⟨rfl, scheme, authority, path, query, fragment, rfl, nonempty, allowed,
                  root, empty, empty'⟩
    · cases read

theorem urlsplit_of_parts {validNetloc : List Char → Bool} {url scheme authority path : List Char}
    {query fragment : Option (List Char)}
    (parts : Url.split (sanitize url) = ⟨some scheme, some authority, path, query, fragment⟩)
    (valid : validNetloc authority = true) :
    urlsplit validNetloc url = .ok
      { scheme := scheme.map Char.toLower
        netloc := authority
        path
        query := query.getD []
        fragment := fragment.getD [] } := by
  simp [urlsplit, parts, valid]

section Accepted

variable {origin scheme authority path : List Char} {query fragment : Option (List Char)}
variable (parts : Url.split (sanitize origin) =
  ⟨some scheme, some authority, path, query, fragment⟩)
variable (nonempty : authority ≠ []) (root : path = [] ∨ path = ['/'])

include parts nonempty root in
/-- A plain origin is read without its slash once it is stripped. -/
theorem split_rstrip (plain : Plain origin) :
    Url.split (sanitize (rstrip origin)) = ⟨some scheme, some authority, [], none, none⟩ := by
  obtain ⟨whole, grammar⟩ := Url.split_eq.mp parts
  have read (char : Char) (member : char ∈ sanitize origin) : char ∈ origin :=
    (List.dropWhile_sublist _).subset (List.mem_of_mem_filter member)
  have queryless : query = none := by
    cases query with
    | none => rfl
    | some query => exact absurd (read '?' (by simp [whole, Url.compose, Url.after])) plain.query
  have unmarked : fragment = none := by
    cases fragment with
    | none => rfl
    | some fragment =>
        exact absurd (read '#' (by simp [whole, Url.compose, Url.after])) plain.fragment
  subst queryless unmarked
  obtain ⟨slashes, stripped, all, rest⟩ := rstrip_slashes origin
  have trimmed := Url.split_trim parts root nonempty
  have last : (sanitize (rstrip origin)).getLast? ≠ some '/' := by
    intro slash
    obtain ⟨front, ending⟩ := List.getLast?_eq_some_iff.mp slash
    obtain ⟨before, removed, dangling, unread⟩ := sanitize_eq_concat ending
    rcases List.eq_nil_or_concat' slashes with rfl | ⟨more, final, rfl⟩
    · -- nothing was stripped, so the slash is followed by removed characters
      rw [List.append_nil] at stripped
      obtain rfl := plain.ending before removed (stripped.trans dangling) unread
      exact getLast_rstrip origin (dangling ▸ List.getLast?_concat)
    · -- a slash was stripped after another one, so the path has two
      have twice : Url.compose scheme authority path none none =
          (front ++ '/' :: more) ++ ['/'] := by
        rw [← whole, rest, ending, all final (by simp)]
        simp
      have origin := Url.getLast_origin scheme grammar.authority nonempty
      rcases root with rfl | rfl
      · exact origin (by rw [twice, List.getLast?_concat])
      · have base : Url.compose scheme authority [] none none = front ++ '/' :: more := by
          refine (List.append_left_inj ['/']).mp ?_
          rw [← twice]
          simp [Url.compose, Url.after]
        refine origin ?_
        rw [base, getLast_slashes front fun char member => all char (by simp [member])]
  rw [rest] at trimmed
  exact (rstrip_append last all) ▸ trimmed

theorem sanitize_rstrip (last : (sanitize origin).getLast? ≠ some '/') :
    sanitize (rstrip origin) = sanitize origin := by
  obtain ⟨slashes, -, all, rest⟩ := rstrip_slashes origin
  rcases List.eq_nil_or_concat' slashes with rfl | ⟨more, final, rfl⟩
  · rw [rest, List.append_nil]
  · rw [rest, all final (by simp), ← List.append_assoc, List.getLast?_concat] at last
    exact absurd rfl last

variable {request : List Char}

include parts in
private theorem split_fragment (marked : fragment = some []) :
    Url.split (sanitize (rstrip origin) ++ request) =
      ⟨some scheme, some authority, path, query, some request⟩ := by
  subst marked
  obtain ⟨whole, grammar⟩ := Url.split_eq.mp parts
  have ending : sanitize origin = Url.compose scheme authority path query none ++ ['#'] := by
    simp [whole, Url.compose, Url.after]
  rw [sanitize_rstrip (by simp [ending]), ending]
  exact Url.split_eq.mpr ⟨by simp [Url.compose, Url.after], grammar⟩

include parts in
private theorem split_query (begun : query = some []) (unmarked : fragment = none)
    (simple : '#' ∉ request) :
    Url.split (sanitize (rstrip origin) ++ request) =
      ⟨some scheme, some authority, path, some request, none⟩ := by
  subst begun unmarked
  obtain ⟨whole, grammar⟩ := Url.split_eq.mp parts
  have ending : sanitize origin = Url.compose scheme authority path none none ++ ['?'] := by
    simp [whole, Url.compose, Url.after]
  rw [sanitize_rstrip (by simp [ending]), ending]
  refine Url.split_eq.mpr ⟨by simp [Url.compose, Url.after], grammar.scheme, grammar.authority,
    grammar.rooted, grammar.path, ?_⟩
  rintro _ ⟨⟩
  exact simple

include parts nonempty root in
/-- A slash which could not be stripped is read in front of the path of a request. -/
theorem split_dangling (queryless : query = none) (unmarked : fragment = none)
    (simple : '?' ∉ request ∧ '#' ∉ request) {front removed : List Char}
    (dangling : origin = front ++ '/' :: removed)
    (unread : ∀ char ∈ removed, isUnsafe char = true) (left : removed ≠ []) :
    Url.split (sanitize (rstrip origin) ++ request) =
      ⟨some scheme, some authority, '/' :: request, none, none⟩ := by
  subst queryless unmarked
  obtain ⟨whole, grammar⟩ := Url.split_eq.mp parts
  have last : origin.getLast? ≠ some '/' := by
    obtain ⟨more, last, rfl⟩ := (List.eq_nil_or_concat' removed).resolve_left left
    rw [dangling, ← List.cons_append, ← List.append_assoc, List.getLast?_concat, Ne,
      Option.some.injEq]
    rintro rfl
    exact absurd (unread '/' (by simp)) (by decide)
  have stripped : rstrip (origin ++ []) = origin := rstrip_append last (by simp)
  rw [List.append_nil] at stripped
  have ending : sanitize origin = sanitize front ++ ['/'] := by
    rw [dangling, sanitize_append _ _ rfl, List.filter_cons_of_pos (by decide),
      List.filter_eq_nil_iff.mpr (by simpa using unread)]
  have slash : path = ['/'] := by
    refine root.resolve_left ?_
    rintro rfl
    exact Url.getLast_origin scheme grammar.authority nonempty
      (by rw [← whole, ending, List.getLast?_concat])
  subst slash
  rw [stripped, whole]
  refine Url.split_eq.mpr ⟨by simp [Url.compose, Url.after], grammar.scheme, grammar.authority,
    .inr rfl, ?_, grammar.query⟩
  simpa using simple

end Accepted

/-! ## Requests -/

private theorem sanitize_request (text : List Char) {path : String}
    (valid : pathMatches path = true) :
    sanitize (text ++ path.toList) = sanitize text ++ path.toList := by
  obtain ⟨slash, kept, -⟩ := filter_path valid
  rw [sanitize_append _ _ slash, kept]

/-- The request of an accepted origin goes where it should exactly if the origin is plain. -/
theorem composes_iff {validNetloc : List Char → Bool} {origin returned : List Char}
    (accepted : validateOrigin validNetloc origin = .ok returned) {path : String}
    (valid : pathMatches path = true) :
    Composes validNetloc origin (returned ++ path.toList) path.toList ↔ Plain origin := by
  obtain ⟨rfl, scheme, authority, path', query, fragment, parts, nonempty, allowed, root, empty,
    empty'⟩ := validateOrigin_eq_ok accepted
  obtain ⟨slash, -, simple⟩ := filter_path valid
  have some : path.toList ≠ [] := by
    intro none
    simp [none] at slash
  have whole := urlsplit_of_parts parts allowed
  have read := sanitize_request (rstrip origin) valid
  constructor
  · rintro ⟨_, request, -, composed, -, -, routed, unqueried, unmarked⟩
    have parsed {scheme authority path'' : List Char} {query fragment : Option (List Char)}
        (allowed : validNetloc authority = true)
        (parts : Url.split (sanitize (rstrip origin) ++ path.toList) =
          ⟨Option.some scheme, Option.some authority, path'', query, fragment⟩) :
        request.path = path'' ∧ request.query = query.getD [] ∧
          request.fragment = fragment.getD [] := by
      rw [← read] at parts
      obtain rfl := Except.ok.inj (composed.symm.trans (urlsplit_of_parts parts allowed))
      exact ⟨rfl, rfl, rfl⟩
    have fragmentless : fragment = none := by
      cases fragment with
      | none => rfl
      | some text =>
          obtain rfl : text = [] := empty'
          obtain ⟨-, -, marked⟩ := parsed allowed (split_fragment parts rfl)
          exact absurd (marked.symm.trans unmarked) some
    have queryless : query = none := by
      cases query with
      | none => rfl
      | some text =>
          obtain rfl : text = [] := empty
          obtain ⟨-, queried, -⟩ := parsed allowed (split_query parts rfl fragmentless simple.2)
          exact absurd (queried.symm.trans unqueried) some
    obtain ⟨text, grammar⟩ := Url.split_eq.mp parts
    have absent := Url.delimiter_of_grammar grammar
    rw [queryless, fragmentless] at text
    refine ⟨fun member => absent.1 ?_, fun member => absent.2 ?_, ?_⟩
    · exact text ▸ mem_sanitize member (by decide)
    · exact text ▸ mem_sanitize member (by decide)
    · intro front removed dangling unread
      by_contra left
      obtain ⟨doubled, -⟩ := parsed allowed (split_dangling parts nonempty root queryless
        fragmentless simple dangling unread left)
      exact absurd (doubled.symm.trans routed) (List.cons_ne_self _ _)
  · intro plain
    have request := Url.split_append (split_rstrip parts nonempty root plain) slash simple
    rw [← read] at request
    exact ⟨_, _, whole, urlsplit_of_parts request allowed, rfl, rfl, rfl, rfl, rfl⟩

/-- Origins and paths compose, exactly if the origin is plain: it has no delimiter of a query or a
fragment, and no tab or end of a line after a slash at its end. -/
theorem origin_composition (checkSchema : Json → Except PyError Unit)
    (validNetloc : List Char → Bool) {origin returned : List Char}
    (accepted : validateOrigin validNetloc origin = .ok returned) {path : String}
    (requested : RequestPath checkSchema path) :
    requestOf returned path.toList = returned ++ path.toList ∧
      (Composes validNetloc origin (requestOf returned path.toList) path.toList ↔
        Plain origin) := by
  have unchanged : requestOf returned path.toList = returned ++ path.toList := by
    obtain ⟨rfl, -⟩ := validateOrigin_eq_ok accepted
    unfold requestOf rstrip
    rw [List.rdropWhile_idempotent]
  rw [unchanged]
  exact ⟨rfl, composes_iff accepted (pathMatches_requestPath requested)⟩

theorem origin_composition_sample :
    Composes (fun _ => true) "http://host/".toList
      (requestOf "http://host".toList "/agent-policy".toList) "/agent-policy".toList := by
  have accepted : validateOrigin (fun _ => true) "http://host/".toList =
      .ok "http://host".toList := rfl
  obtain ⟨-, composes⟩ := origin_composition (fun _ => .ok ()) _ accepted .policy
  refine composes.mpr ⟨by decide, by decide, fun front removed text unread => ?_⟩
  rcases List.eq_nil_or_concat' removed with none | ⟨more, last, rfl⟩
  · exact none
  · have slash : some '/' = (front ++ '/' :: (more ++ [last])).getLast? :=
      congrArg List.getLast? text
    rw [← List.cons_append, ← List.append_assoc, List.getLast?_concat] at slash
    obtain rfl := Option.some.inj slash
    exact absurd (unread '/' (by simp)) (by decide)

theorem origin_composition_query :
    validateOrigin (fun _ => true) "http://host?".toList = .ok "http://host?".toList ∧
      ¬Composes (fun _ => true) "http://host?".toList
        (requestOf "http://host?".toList "/agent-policy".toList) "/agent-policy".toList := by
  have accepted : validateOrigin (fun _ => true) "http://host?".toList =
      .ok "http://host?".toList := rfl
  have valid : pathMatches "/agent-policy" = true := rfl
  exact ⟨accepted, fun composes =>
    absurd ((composes_iff accepted valid).mp composes).query (by decide)⟩

end AiProtocol
