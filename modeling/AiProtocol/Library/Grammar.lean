import Mathlib.Computability.RegularExpressions

/-!
# Separated words

Texts of non-empty words over an alphabet, each after a separator, and the two ways to recognize
them: to strip the first separator and split the rest, and to match a regular expression.
-/

namespace Grammar

variable {Letter : Type*}

/-- The text consists of these words, each after a separator. -/
structure Separates (separator : Letter) (alphabet : Letter → Prop) (words : List (List Letter))
    (text : List Letter) : Prop where
  /-- There is a word. -/
  nonempty : words ≠ []
  /-- The words are non-empty and over the alphabet. -/
  valid : ∀ word ∈ words, word ≠ [] ∧ ∀ letter ∈ word, alphabet letter
  /-- The text. -/
  joined : text = words.flatMap (separator :: ·)

/-! ## Splitting -/

theorem flatMap_cons_eq_intercalate (separator : Letter) {words : List (List Letter)}
    (nonempty : words ≠ []) :
    words.flatMap (separator :: ·) = separator :: [separator].intercalate words := by
  induction words with
  | nil => exact absurd rfl nonempty
  | cons word words induction =>
      cases words with
      | nil => simp
      | cons next words =>
          rw [List.flatMap_cons, induction (List.cons_ne_nil _ _), List.intercalate_cons_cons]
          simp

section Splitting

variable [DecidableEq Letter] {separator : Letter} {alphabet : Letter → Prop}

/-- The words are what splitting finds after the first separator. -/
theorem Separates.splitOn {words : List (List Letter)} {rest : List Letter}
    (outside : ¬alphabet separator)
    (separates : Separates separator alphabet words (separator :: rest)) :
    rest.splitOn separator = words := by
  have joined := separates.joined
  rw [flatMap_cons_eq_intercalate separator separates.nonempty] at joined
  rw [(List.cons.inj joined).2]
  refine List.splitOn_intercalate separator ?_ separates.nonempty
  intro word member occurs
  exact outside ((separates.valid word member).2 separator occurs)

theorem separates_splitOn {rest : List Letter}
    (valid : ∀ word ∈ rest.splitOn separator, word ≠ [] ∧ ∀ letter ∈ word, alphabet letter) :
    Separates separator alphabet (rest.splitOn separator) (separator :: rest) where
  nonempty := List.splitOn_ne_nil _ _
  valid := valid
  joined := by
    rw [flatMap_cons_eq_intercalate separator (List.splitOn_ne_nil _ _), List.intercalate_splitOn]

/-- A text is made of separated words exactly if it begins with a separator and splitting the rest
finds words only. -/
theorem separates_iff_splitOn (outside : ¬alphabet separator) {text : List Letter} :
    (∃ words, Separates separator alphabet words text) ↔ ∃ rest, text = separator :: rest ∧
      ∀ word ∈ rest.splitOn separator, word ≠ [] ∧ ∀ letter ∈ word, alphabet letter := by
  constructor
  · rintro ⟨words, separates⟩
    have joined := separates.joined
    rw [flatMap_cons_eq_intercalate separator separates.nonempty] at joined
    refine ⟨_, joined, ?_⟩
    rw [joined] at separates
    rw [separates.splitOn outside]
    exact separates.valid
  · rintro ⟨rest, rfl, valid⟩
    exact ⟨_, separates_splitOn valid⟩

end Splitting

theorem Separates.letters {separator letter : Letter} {alphabet : Letter → Prop}
    {words : List (List Letter)} {text : List Letter}
    (separates : Separates separator alphabet words text) (member : letter ∈ text) :
    letter = separator ∨ alphabet letter := by
  rw [separates.joined] at member
  obtain ⟨word, listed, occurs⟩ := List.mem_flatMap.mp member
  rcases List.mem_cons.mp occurs with same | inside
  · exact .inl same
  · exact .inr ((separates.valid word listed).2 letter inside)

/-! ## Regular expressions -/

open RegularExpression

/-- A character class. -/
def oneOf : List Letter → RegularExpression Letter
  | [] => 0
  | letter :: letters => char letter + oneOf letters

def oneOrMore (expression : RegularExpression Letter) : RegularExpression Letter :=
  expression * star expression

theorem mem_oneOf {letters text : List Letter} :
    text ∈ (oneOf letters).matches' ↔ ∃ letter ∈ letters, text = [letter] := by
  induction letters with
  | nil => simp [oneOf, matches'_zero, Language.notMem_zero]
  | cons letter letters induction =>
      rw [oneOf, matches'_add, Language.mem_add, induction, matches'_char, List.exists_mem_cons_iff]
      exact Iff.rfl

theorem mem_oneOrMore {expression : RegularExpression Letter} {text : List Letter} :
    text ∈ (oneOrMore expression).matches' ↔ ∃ parts : List (List Letter), parts ≠ [] ∧
      text = parts.flatten ∧ ∀ part ∈ parts, part ∈ expression.matches' := by
  rw [oneOrMore, matches'_mul, matches'_star, Language.mem_mul]
  constructor
  · rintro ⟨first, matched, others, repeated, rfl⟩
    obtain ⟨parts, rfl, all⟩ := Language.mem_kstar.mp repeated
    refine ⟨first :: parts, List.cons_ne_nil _ _, rfl, ?_⟩
    simpa using ⟨matched, all⟩
  · rintro ⟨parts, nonempty, rfl, all⟩
    obtain ⟨first, others, rfl⟩ := List.exists_cons_of_ne_nil nonempty
    rw [List.forall_mem_cons] at all
    exact ⟨first, all.1, others.flatten, Language.join_mem_kstar all.2, rfl⟩

theorem mem_oneOrMore_oneOf {letters text : List Letter} :
    text ∈ (oneOrMore (oneOf letters)).matches' ↔
      text ≠ [] ∧ ∀ letter ∈ text, letter ∈ letters := by
  rw [mem_oneOrMore]
  constructor
  · rintro ⟨parts, nonempty, rfl, all⟩
    obtain ⟨first, others, rfl⟩ := List.exists_cons_of_ne_nil nonempty
    constructor
    · obtain ⟨letter, -, single⟩ := mem_oneOf.mp (all first List.mem_cons_self)
      simp [single]
    · intro letter member
      obtain ⟨part, listed, occurs⟩ := List.mem_flatten.mp member
      obtain ⟨other, known, single⟩ := mem_oneOf.mp (all part listed)
      rw [single, List.mem_singleton] at occurs
      exact occurs ▸ known
  · rintro ⟨nonempty, known⟩
    refine ⟨text.map fun letter => [letter], by simpa using nonempty, ?_, ?_⟩
    · rw [← List.flatMap_def, List.flatMap_singleton']
    · intro part listed
      obtain ⟨letter, member, rfl⟩ := List.mem_map.mp listed
      exact mem_oneOf.mpr ⟨letter, known letter member, rfl⟩

/-- One separator and one word. -/
def segment (separator : Letter) (letters : List Letter) : RegularExpression Letter :=
  char separator * oneOrMore (oneOf letters)

theorem mem_segment {separator : Letter} {letters text : List Letter} :
    text ∈ (segment separator letters).matches' ↔ ∃ word, text = separator :: word ∧ word ≠ [] ∧
      ∀ letter ∈ word, letter ∈ letters := by
  rw [segment, matches'_mul, Language.mem_mul, matches'_char]
  constructor
  · rintro ⟨_, rfl, word, matched, rfl⟩
    exact ⟨word, rfl, mem_oneOrMore_oneOf.mp matched⟩
  · rintro ⟨word, rfl, valid⟩
    exact ⟨[separator], rfl, word, mem_oneOrMore_oneOf.mpr valid, rfl⟩

/-- One or more segments are separated words. -/
theorem separates_iff_matches {separator : Letter} {letters text : List Letter} :
    (∃ words, Separates separator (· ∈ letters) words text) ↔
      text ∈ (oneOrMore (segment separator letters)).matches' := by
  rw [mem_oneOrMore]
  constructor
  · rintro ⟨words, separates⟩
    refine ⟨words.map (separator :: ·), by simpa using separates.nonempty, ?_, ?_⟩
    · rw [separates.joined, List.flatMap]
    · intro part listed
      obtain ⟨word, member, rfl⟩ := List.mem_map.mp listed
      exact mem_segment.mpr ⟨word, rfl, separates.valid word member⟩
  · rintro ⟨parts, nonempty, rfl, all⟩
    have tails : parts = (parts.map List.tail).map (separator :: ·) := by
      rw [List.map_map]
      refine (List.map_id _).symm.trans (List.map_congr_left fun part listed => ?_)
      obtain ⟨word, rfl, -⟩ := mem_segment.mp (all part listed)
      rfl
    refine ⟨parts.map List.tail, by simpa using nonempty, ?_, ?_⟩
    · intro word listed
      obtain ⟨part, member, rfl⟩ := List.mem_map.mp listed
      obtain ⟨word, rfl, valid⟩ := mem_segment.mp (all part member)
      exact valid
    · rw [List.flatMap, ← tails]

end Grammar
