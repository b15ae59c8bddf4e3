import Mathlib.Data.List.Basic
import Mathlib.Data.List.DropRight
import Mathlib.Data.List.TakeWhile

/-!
# Parts of a URL

A URL is split from left to right into its scheme, its authority, its path, its query and its
fragment.  The split of a URL with a scheme and an authority is the only way to compose its text of
such parts.
-/

namespace Url

/-! ## Delimiters -/

/-- The text before a delimiter, and the text after it, if there is one. -/
def cut (delimiter : Char) : List Char → List Char × Option (List Char)
  | [] => ([], none)
  | char :: rest =>
      if char = delimiter then ([], some rest)
      else (char :: (cut delimiter rest).1, (cut delimiter rest).2)

/-- An optional part after its delimiter. -/
def after (delimiter : Char) : Option (List Char) → List Char
  | none => []
  | some text => delimiter :: text

theorem cut_eq {delimiter : Char} {text before : List Char} {rest : Option (List Char)} :
    cut delimiter text = (before, rest) ↔
      text = before ++ after delimiter rest ∧ delimiter ∉ before := by
  induction text generalizing before rest with
  | nil => cases rest <;> cases before <;> simp [cut, after, eq_comm]
  | cons char text induction =>
      rw [cut]
      split
      · rename_i same
        subst same
        cases before with
        | nil => cases rest <;> simp [after, eq_comm]
        | cons first before => simp +contextual [eq_comm]
      · rename_i other
        have continues : cut delimiter text = ((cut delimiter text).1, (cut delimiter text).2) :=
          rfl
        obtain ⟨whole, absent⟩ := induction.mp continues
        cases before with
        | nil => cases rest <;> simp [after, other]
        | cons first before =>
            rw [Prod.mk.injEq, List.cons.injEq, List.cons_append, List.cons.injEq, List.mem_cons,
              not_or]
            constructor
            · rintro ⟨⟨rfl, rfl⟩, rfl⟩
              exact ⟨⟨rfl, whole⟩, Ne.symm other, absent⟩
            · rintro ⟨⟨rfl, same⟩, -, absent⟩
              have found := induction.mpr ⟨same, absent⟩
              exact ⟨⟨rfl, by rw [found]⟩, by rw [found]⟩

/-! ## Parts -/

/-- The parts of a URL. -/
structure Parts where
  /-- Scheme. -/
  scheme : Option (List Char)
  /-- Authority. -/
  authority : Option (List Char)
  /-- Path. -/
  path : List Char
  /-- Query. -/
  query : Option (List Char)
  /-- Fragment. -/
  fragment : Option (List Char)
  deriving DecidableEq

/-- A scheme begins with a letter. -/
def isScheme : List Char → Bool
  | [] => false
  | first :: rest =>
      first.isAlpha && rest.all fun char => char.isAlphanum || "+-.".toList.contains char

/-- The scheme, and the text after it. -/
def splitScheme (text : List Char) : Option (List Char) × List Char :=
  match cut ':' text with
  | (scheme, some rest) => if isScheme scheme then (some scheme, rest) else (none, text)
  | (_, none) => (none, text)

/-- A character which ends an authority. -/
def endsAuthority (char : Char) : Bool :=
  char = '/' || char = '?' || char = '#'

/-- The authority, and the text after it. -/
def splitAuthority : List Char → Option (List Char) × List Char
  | '/' :: '/' :: text =>
      (some (text.takeWhile fun char => !endsAuthority char),
        text.dropWhile fun char => !endsAuthority char)
  | text => (none, text)

/-- The path, the query and the fragment. -/
def splitPath (text : List Char) : List Char × Option (List Char) × Option (List Char) :=
  let (text, fragment) := cut '#' text
  let (path, query) := cut '?' text
  (path, query, fragment)

/-- Split a URL. -/
def split (text : List Char) : Parts :=
  let (scheme, text) := splitScheme text
  let (authority, text) := splitAuthority text
  let (path, query, fragment) := splitPath text
  { scheme, authority, path, query, fragment }

/-- The text of a URL. -/
def compose (scheme authority path : List Char) (query fragment : Option (List Char)) :
    List Char :=
  scheme ++ ':' :: '/' :: '/' :: authority ++ path ++ after '?' query ++ after '#' fragment

/-- The grammar of the parts of a URL. -/
structure Grammar (scheme authority path : List Char) (query : Option (List Char)) : Prop where
  /-- The scheme. -/
  scheme : isScheme scheme = true
  /-- The authority ends where another part begins. -/
  authority : ∀ char ∈ authority, endsAuthority char = false
  /-- The path begins with a slash, or is empty. -/
  rooted : path = [] ∨ path.head? = some '/'
  /-- The path ends where the query begins. -/
  path : '?' ∉ path ∧ '#' ∉ path
  /-- The query ends where the fragment begins. -/
  query : ∀ text, query = some text → '#' ∉ text

theorem char_of_isScheme {scheme : List Char} (valid : isScheme scheme = true) {char : Char}
    (member : char ∈ scheme) : (char.isAlphanum || "+-.".toList.contains char) = true := by
  cases scheme with
  | nil => cases member
  | cons first rest =>
      simp only [isScheme, Bool.and_eq_true, List.all_eq_true] at valid
      rcases List.mem_cons.mp member with rfl | later
      · simp [Char.isAlphanum, valid.1]
      · exact valid.2 char later

theorem colon_of_isScheme {scheme : List Char} (valid : isScheme scheme = true) :
    ':' ∉ scheme :=
  fun member => absurd (char_of_isScheme valid member) (by decide)

theorem splitScheme_eq {text scheme rest : List Char} :
    splitScheme text = (some scheme, rest) ↔
      text = scheme ++ ':' :: rest ∧ isScheme scheme = true := by
  unfold splitScheme
  constructor
  · intro found
    split at found
    · rename_i scheme' rest' cut
      split at found
      · rename_i valid
        obtain ⟨rfl, rfl⟩ : scheme' = scheme ∧ rest' = rest := by simpa using found
        exact ⟨(cut_eq.mp cut).1, valid⟩
      · simp at found
    · simp at found
  · rintro ⟨rfl, valid⟩
    have found : cut ':' (scheme ++ ':' :: rest) = (scheme, some rest) :=
      cut_eq.mpr ⟨rfl, colon_of_isScheme valid⟩
    rw [found]
    simp [valid]

theorem splitAuthority_eq {text authority rest : List Char} :
    splitAuthority text = (some authority, rest) ↔
      text = '/' :: '/' :: authority ++ rest ∧
        (∀ char ∈ authority, endsAuthority char = false) ∧
          ∀ char, rest.head? = some char → endsAuthority char = true := by
  unfold splitAuthority
  split
  · rename_i text
    rw [Prod.mk.injEq, Option.some.injEq]
    constructor
    · rintro ⟨rfl, rfl⟩
      refine ⟨by simp, fun char member => by simpa using List.mem_takeWhile_imp member, ?_⟩
      intro char first
      have ends := List.head?_dropWhile_not (fun char => !endsAuthority char) text
      rw [first] at ends
      simpa using ends
    · rintro ⟨whole, authorized, ends⟩
      obtain rfl : text = authority ++ rest := by simpa using whole
      have stops : rest.takeWhile (fun char => !endsAuthority char) = [] ∧
          rest.dropWhile (fun char => !endsAuthority char) = rest := by
        cases rest with
        | nil => simp
        | cons char rest => simp [ends char rfl]
      rw [List.takeWhile_append_of_pos (by simpa using authorized),
        List.dropWhile_append_of_pos (by simpa using authorized), stops.1, stops.2]
      simp
  · rename_i text other
    constructor
    · simp
    · rintro ⟨rfl, -⟩
      exact absurd rfl (other _)

theorem hash_after {query : Option (List Char)} :
    '#' ∉ after '?' query ↔ ∀ text, query = some text → '#' ∉ text := by
  cases query <;> simp [after]

theorem splitPath_eq {text path : List Char} {query fragment : Option (List Char)} :
    splitPath text = (path, query, fragment) ↔
      text = path ++ after '?' query ++ after '#' fragment ∧
        ('?' ∉ path ∧ '#' ∉ path) ∧ ∀ text, query = some text → '#' ∉ text := by
  rw [← hash_after]
  unfold splitPath
  rcases outer : cut '#' text with ⟨front, fragment'⟩
  rcases inner : cut '?' front with ⟨path', query'⟩
  obtain ⟨rfl, hashless⟩ := cut_eq.mp outer
  obtain ⟨rfl, queryless⟩ := cut_eq.mp inner
  rw [List.mem_append, not_or] at hashless
  simp only [inner]
  constructor
  · rintro ⟨⟩
    exact ⟨rfl, ⟨queryless, hashless.1⟩, hashless.2⟩
  · rintro ⟨same, ⟨queryless', hashless'⟩, hashless''⟩
    have whole := cut_eq.mpr ⟨same, by rw [List.mem_append, not_or]; exact ⟨hashless', hashless''⟩⟩
    obtain ⟨joined, rfl⟩ := Prod.mk.inj (outer.symm.trans whole)
    have part := cut_eq.mpr ⟨joined, queryless'⟩
    obtain ⟨rfl, rfl⟩ := Prod.mk.inj (inner.symm.trans part)
    rfl

/-- A URL with a scheme and an authority is split into the parts its text is composed of. -/
theorem split_eq {text scheme authority path : List Char} {query fragment : Option (List Char)} :
    split text = ⟨some scheme, some authority, path, query, fragment⟩ ↔
      text = compose scheme authority path query fragment ∧
        Grammar scheme authority path query := by
  constructor
  · intro found
    unfold split at found
    rcases schemed : splitScheme text with ⟨scheme', text'⟩
    rcases authorized : splitAuthority text' with ⟨authority', text''⟩
    rcases ending : splitPath text'' with ⟨path', query', fragment'⟩
    simp only [schemed, authorized, ending, Parts.mk.injEq] at found
    obtain ⟨rfl, rfl, rfl, rfl, rfl⟩ := found
    obtain ⟨rfl, valid⟩ := splitScheme_eq.mp schemed
    obtain ⟨rfl, free, ends⟩ := splitAuthority_eq.mp authorized
    obtain ⟨rfl, simple, query⟩ := splitPath_eq.mp ending
    refine ⟨by simp [compose], valid, free, ?_, simple, query⟩
    cases path' with
    | nil => exact .inl rfl
    | cons first path =>
        have ends : endsAuthority first = true := ends first rfl
        refine .inr ?_
        simp only [List.mem_cons, not_or] at simple
        simpa [endsAuthority, Ne.symm simple.1.1, Ne.symm simple.2.1] using ends
  · rintro ⟨rfl, grammar⟩
    have ending : splitPath (path ++ after '?' query ++ after '#' fragment) =
        (path, query, fragment) := splitPath_eq.mpr ⟨rfl, grammar.path, grammar.query⟩
    have ends : ∀ char, (path ++ after '?' query ++ after '#' fragment).head? = some char →
        endsAuthority char = true := by
      intro char first
      rcases grammar.rooted with rfl | rooted
      · cases query <;> cases fragment <;> simp [after] at first <;> subst first <;> decide
      · have slash : (path ++ after '?' query ++ after '#' fragment).head? = some '/' := by
          simp [List.head?_append, rooted]
        obtain rfl : '/' = char := Option.some.inj (slash.symm.trans first)
        decide
    have authorized := splitAuthority_eq.mpr ⟨rfl, grammar.authority, ends⟩
    have schemed : splitScheme (compose scheme authority path query fragment) =
        (some scheme, '/' :: '/' :: authority ++ (path ++ after '?' query ++ after '#' fragment)) :=
      splitScheme_eq.mpr ⟨by simp [compose], grammar.scheme⟩
    simp only [split, schemed, authorized, ending]

/-! ## Authorities -/

/-- The user information of an authority, and its host with its port. -/
def splitUser (authority : List Char) : Option (List Char) × List Char :=
  match cut '@' authority.reverse with
  | (host, some user) => (some user.reverse, host.reverse)
  | (_, none) => (none, authority)

/-- The host without its port. -/
def hostName (host : List Char) : List Char :=
  match cut '[' host with
  | (_, some bracketed) => (cut ']' bracketed).1
  | (_, none) => (cut ':' host).1

namespace Parts

/-- The host, if it is given. -/
def host (parts : Parts) : Option (List Char) :=
  (parts.authority.map fun authority => hostName (splitUser authority).2).filter (· ≠ [])

/-- The user name, empty unless it is given. -/
def username (parts : Parts) : List Char :=
  ((parts.authority.bind fun authority => (splitUser authority).1).map fun user =>
    (cut ':' user).1).getD []

def password (parts : Parts) : Option (List Char) :=
  (parts.authority.bind fun authority => (splitUser authority).1).bind fun user => (cut ':' user).2

end Parts

/-! ## Segments -/

/-- A character of a path is a separator or a character of a segment. -/
theorem mem_splitOn {separator char : Char} {path : List Char} (member : char ∈ path) :
    char = separator ∨ ∃ segment ∈ path.splitOn separator, char ∈ segment := by
  induction path with
  | nil => simp at member
  | cons first rest induction =>
      obtain ⟨segment, others, pieces⟩ : ∃ segment others,
          rest.splitOn separator = segment :: others :=
        List.exists_cons_of_ne_nil (List.splitOn_ne_nil _ _)
      rw [List.splitOn_cons_eq_if_modifyHead, pieces]
      rw [pieces] at induction
      by_cases same : first = separator
      · rcases List.mem_cons.mp member with rfl | later
        · exact .inl same
        · simpa [same] using induction later
      · rcases List.mem_cons.mp member with rfl | later
        · simp [same]
        · refine (induction later).imp_right ?_
          rintro ⟨piece, listed, inside⟩
          rcases List.mem_cons.mp listed with rfl | other
          · exact ⟨first :: piece, by simp [same], List.mem_cons_of_mem _ inside⟩
          · exact ⟨piece, by simp [same, other], inside⟩

/-! ## Origins -/

theorem split_append {origin scheme authority path : List Char}
    (parts : split origin = ⟨some scheme, some authority, [], none, none⟩)
    (rooted : path.head? = some '/') (simple : '?' ∉ path ∧ '#' ∉ path) :
    split (origin ++ path) = ⟨some scheme, some authority, path, none, none⟩ := by
  obtain ⟨rfl, grammar⟩ := split_eq.mp parts
  refine split_eq.mpr ⟨by simp [compose, after], ?_⟩
  exact ⟨grammar.scheme, grammar.authority, .inr rooted, simple, by simp⟩

theorem delimiter_of_grammar {scheme authority path : List Char} {query : Option (List Char)}
    (grammar : Grammar scheme authority path query) :
    '?' ∉ compose scheme authority path none none ∧
      '#' ∉ compose scheme authority path none none := by
  have schemed {char : Char} (member : char ∈ scheme) := char_of_isScheme grammar.scheme member
  have authorized {char : Char} (member : char ∈ authority) := grammar.authority char member
  simp only [compose, after, List.append_nil, List.mem_append, List.mem_cons, not_or]
  exact ⟨⟨⟨fun member => absurd (schemed member) (by decide), by decide, by decide, by decide,
      fun member => absurd (authorized member) (by decide)⟩, grammar.path.1⟩,
    ⟨fun member => absurd (schemed member) (by decide), by decide, by decide, by decide,
      fun member => absurd (authorized member) (by decide)⟩, grammar.path.2⟩

theorem getLast_origin (scheme : List Char) {authority : List Char}
    (free : ∀ char ∈ authority, endsAuthority char = false) (nonempty : authority ≠ []) :
    (compose scheme authority [] none none).getLast? ≠ some '/' := by
  obtain ⟨front, last, rfl⟩ := (List.eq_nil_or_concat' authority).resolve_left nonempty
  have origin : compose scheme (front ++ [last]) [] none none =
      (scheme ++ ':' :: '/' :: '/' :: front) ++ [last] := by
    simp [compose, after]
  rw [origin, List.getLast?_concat, Ne, Option.some.injEq]
  rintro rfl
  exact absurd (free '/' (by simp)) (by decide)

/-- The URL of a root without its slash is an origin. -/
theorem split_trim {text scheme authority path : List Char}
    (parts : split text = ⟨some scheme, some authority, path, none, none⟩)
    (root : path = [] ∨ path = ['/']) (nonempty : authority ≠ []) :
    split (text.rdropWhile (· = '/')) = ⟨some scheme, some authority, [], none, none⟩ := by
  obtain ⟨rfl, grammar⟩ := split_eq.mp parts
  refine split_eq.mpr ⟨?_, grammar.scheme, grammar.authority, .inl rfl, by simp, by simp⟩
  have last := getLast_origin scheme grammar.authority nonempty
  have trimmed : (compose scheme authority [] none none).rdropWhile (· = '/') =
      compose scheme authority [] none none := by
    refine List.rdropWhile_eq_self_iff.mpr fun some slash => last ?_
    rw [List.getLast?_eq_some_getLast some]
    simpa using slash
  rcases root with rfl | rfl
  · exact trimmed
  · have slash : compose scheme authority ['/'] none none =
        compose scheme authority [] none none ++ ['/'] := by
      simp [compose, after]
    rw [slash, List.rdropWhile_concat_pos _ _ _ (by simp), trimmed]

end Url
