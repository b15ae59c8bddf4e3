import Mathlib.Data.List.Basic
import Mathlib.Data.List.Forall2
import Mathlib.Data.List.Induction
import Mathlib.Data.Set.Insert

/-!
# Tables

Lists of entries whose keys are distinct.  Looking up a key finds its entry wherever it stands, so
the order of the entries does not matter.  Inserting an entry replaces the entry of its key, and a
table made of entries keeps the last one of every key.  A table into which only agreeing entries
are inserted holds all of them, and there is one exactly if they are a function.
-/

namespace Table

theorem exists_of_forall₂ {Item Value : Type*} {Related : Item → Value → Prop} {items : List Item}
    {values : List Value} (related : List.Forall₂ Related items values) {item : Item}
    (member : item ∈ items) : ∃ value ∈ values, Related item value := by
  induction related with
  | nil => cases member
  | cons first rest induction =>
      rcases List.mem_cons.mp member with rfl | later
      · exact ⟨_, List.mem_cons_self, first⟩
      · obtain ⟨value, listed, related⟩ := induction later
        exact ⟨value, List.mem_cons_of_mem _ listed, related⟩

variable {Key Value : Type*} [BEq Key]

theorem lookup_map {Value' : Type*} (entries : List (Key × Value)) (change : Value → Value')
    (key : Key) : (entries.map fun entry => (entry.1, change entry.2)).lookup key =
      (entries.lookup key).map change := by
  induction entries with
  | nil => rfl
  | cons entry rest induction =>
      rw [List.map_cons, List.lookup_cons, List.lookup_cons, induction]
      split <;> rfl

section Lawful

variable [LawfulBEq Key]

/-- With distinct keys, the entry found is the entry of the key. -/
theorem lookup_eq_some {entries : List (Key × Value)} (distinct : (entries.map Prod.fst).Nodup)
    {key : Key} {value : Value} :
    entries.lookup key = some value ↔ (key, value) ∈ entries := by
  induction entries with
  | nil => simp
  | cons entry rest induction =>
      obtain ⟨first, found⟩ := entry
      rw [List.map_cons, List.nodup_cons] at distinct
      rw [List.lookup_cons, List.mem_cons]
      by_cases same : key = first
      · subst same
        have absent : (key, value) ∉ rest := fun later =>
          distinct.1 (List.mem_map.mpr ⟨_, later, rfl⟩)
        simp [absent, eq_comm]
      · have other : (key == first) = false := beq_false_of_ne same
        simp [other, same, induction distinct.2]

/-- Only keys without an entry are not found. -/
theorem lookup_eq_none {entries : List (Key × Value)} {key : Key} :
    entries.lookup key = none ↔ key ∉ entries.map Prod.fst := by
  rw [List.lookup_eq_none_iff]
  constructor
  · intro absent member
    obtain ⟨entry, listed, rfl⟩ := List.mem_map.mp member
    simpa using absent entry listed
  · intro absent entry listed
    exact bne_iff_ne.mpr (ne_of_mem_of_not_mem (List.mem_map_of_mem listed) absent).symm

end Lawful

/-! ## Insertion -/

/-- An entry is inserted in the place of the entry of its key, or at the end. -/
def insert (key : Key) (value : Value) : List (Key × Value) → List (Key × Value)
  | [] => [(key, value)]
  | entry :: rest =>
      if key == entry.1 then (key, value) :: rest else entry :: insert key value rest

/-- Entries inserted one after another. -/
def ofEntries (entries : List (Key × Value)) : List (Key × Value) :=
  entries.foldl (fun table entry => insert entry.1 entry.2 table) []

theorem ofEntries_concat (entries : List (Key × Value)) (entry : Key × Value) :
    ofEntries (entries ++ [entry]) = insert entry.1 entry.2 (ofEntries entries) := by
  rw [ofEntries, List.foldl_append]
  rfl

theorem forall₂_insert {Value' : Type*} {Related : Value → Value' → Prop}
    {left : List (Key × Value)} {right : List (Key × Value')}
    (related : List.Forall₂ (fun entry entry' => entry.1 = entry'.1 ∧ Related entry.2 entry'.2)
      left right)
    (key : Key) {value : Value} {value' : Value'} (new : Related value value') :
    List.Forall₂ (fun entry entry' => entry.1 = entry'.1 ∧ Related entry.2 entry'.2)
      (insert key value left) (insert key value' right) := by
  induction related with
  | nil => exact .cons ⟨rfl, new⟩ .nil
  | cons first rest induction =>
      rw [insert, insert, first.1]
      split
      · exact .cons ⟨rfl, new⟩ rest
      · exact .cons first induction

theorem forall₂_ofEntries {Value' : Type*} {Related : Value → Value' → Prop}
    {left : List (Key × Value)} {right : List (Key × Value')}
    (related : List.Forall₂ (fun entry entry' => entry.1 = entry'.1 ∧ Related entry.2 entry'.2)
      left right) :
    List.Forall₂ (fun entry entry' => entry.1 = entry'.1 ∧ Related entry.2 entry'.2)
      (ofEntries left) (ofEntries right) := by
  refine List.rel_foldl (fun table table' begun entry entry' same => ?_) .nil related
  rw [same.1]
  exact forall₂_insert begun _ same.2

section Lawful

variable [LawfulBEq Key]

theorem lookup_insert (key other : Key) (value : Value) (table : List (Key × Value)) :
    (insert key value table).lookup other =
      if other == key then some value else table.lookup other := by
  induction table with
  | nil =>
      rw [insert, List.lookup_cons]
      split <;> rename_i same <;> simp [same]
  | cons entry rest induction =>
      rw [insert]
      split
      · rename_i replaced
        rw [List.lookup_cons, List.lookup_cons, ← eq_of_beq replaced]
        split <;> rename_i same <;> simp [same]
      · rename_i kept
        rw [List.lookup_cons, List.lookup_cons, induction]
        by_cases same : other = key
        · subst same
          simp [kept]
        · have differs : (other == key) = false := beq_false_of_ne same
          simp [differs]

theorem keys_insert (key : Key) (value : Value) (entries : List (Key × Value)) :
    (insert key value entries).map Prod.fst =
      if key ∈ entries.map Prod.fst then entries.map Prod.fst
      else entries.map Prod.fst ++ [key] := by
  induction entries with
  | nil => simp [insert]
  | cons entry rest induction =>
      by_cases same : key = entry.1
      · simp [insert, same]
      · have other : (key == entry.1) = false := beq_false_of_ne same
        simp only [insert, other, Bool.false_eq_true, ↓reduceIte, List.map_cons, induction,
          List.mem_cons, same, false_or]
        split <;> rfl

theorem nodup_insert {entries : List (Key × Value)} (distinct : (entries.map Prod.fst).Nodup)
    (key : Key) (value : Value) : ((insert key value entries).map Prod.fst).Nodup := by
  rw [keys_insert]
  split
  · exact distinct
  · rename_i absent
    rw [List.nodup_append]
    refine ⟨distinct, by simp, ?_⟩
    rintro other earlier new added rfl
    obtain rfl := List.mem_singleton.mp added
    exact absent earlier

theorem insert_of_notMem {key : Key} {entries : List (Key × Value)}
    (absent : key ∉ entries.map Prod.fst) (value : Value) :
    insert key value entries = entries ++ [(key, value)] := by
  induction entries with
  | nil => rfl
  | cons entry rest induction =>
      rw [List.map_cons, List.mem_cons, not_or] at absent
      have other : (key == entry.1) = false := beq_false_of_ne absent.1
      simp only [insert, other, Bool.false_eq_true, ↓reduceIte, induction absent.2,
        List.cons_append]

theorem nodup_ofEntries (entries : List (Key × Value)) :
    ((ofEntries entries).map Prod.fst).Nodup := by
  induction entries using List.reverseRecOn with
  | nil => exact .nil
  | append_singleton entries entry induction =>
      rw [ofEntries_concat]
      exact nodup_insert induction _ _

theorem ofEntries_eq_self {entries : List (Key × Value)}
    (distinct : (entries.map Prod.fst).Nodup) : ofEntries entries = entries := by
  induction entries using List.reverseRecOn with
  | nil => rfl
  | append_singleton entries entry induction =>
      rw [List.map_append, List.nodup_append] at distinct
      rw [ofEntries_concat, induction distinct.1, insert_of_notMem]
      exact fun member => distinct.2.2 _ member _ (by simp) rfl

end Lawful

/-! ## Relations -/

/-- No key has two values. -/
def Functional (relation : Set (Key × Value)) : Prop :=
  ∀ ⦃key value value'⦄, (key, value) ∈ relation → (key, value') ∈ relation → value = value'

/-- A table holds the pairs of a relation. -/
def Holds (table : List (Key × Value)) (relation : Set (Key × Value)) : Prop :=
  ∀ key value, table.lookup key = some value ↔ (key, value) ∈ relation

omit [BEq Key] in
theorem Functional.subset {relation relation' : Set (Key × Value)} (function : Functional relation)
    (part : relation' ⊆ relation) : Functional relation' :=
  fun _ _ _ first second => function (part first) (part second)

theorem holds_nil : Holds ([] : List (Key × Value)) ∅ := by
  intro key value
  simp

theorem Holds.functional {table : List (Key × Value)} {relation : Set (Key × Value)}
    (holds : Holds table relation) : Functional relation := by
  intro key value value' first second
  exact Option.some.inj (((holds key value).mpr first).symm.trans ((holds key value').mpr second))

/-- An entry may be added exactly if the relation stays a function. -/
theorem Holds.functional_insert {table : List (Key × Value)} {relation : Set (Key × Value)}
    (holds : Holds table relation) {key : Key} {value : Value} :
    Functional (Insert.insert (key, value) relation) ↔
      ∀ old, table.lookup key = some old → old = value := by
  constructor
  · intro function old found
    exact function (.inr ((holds key old).mp found)) (.inl rfl)
  · intro agrees key' first second new new'
    rcases new with ⟨⟨⟩⟩ | earlier <;> rcases new' with ⟨⟨⟩⟩ | earlier'
    · rfl
    · exact (agrees _ ((holds _ _).mpr earlier')).symm
    · exact agrees _ ((holds _ _).mpr earlier)
    · exact holds.functional earlier earlier'

theorem Holds.insert [LawfulBEq Key] {table : List (Key × Value)} {relation : Set (Key × Value)}
    (holds : Holds table relation) {key : Key} {value : Value}
    (agrees : ∀ old, table.lookup key = some old → old = value) :
    Holds (insert key value table) (Insert.insert (key, value) relation) := by
  intro other found
  rw [lookup_insert, Set.mem_insert_iff, Prod.mk.injEq, ← holds]
  by_cases same : other = key
  · subst same
    rw [if_pos (beq_self_eq_true _), Option.some.injEq]
    constructor
    · rintro rfl
      exact .inl ⟨rfl, rfl⟩
    · rintro (⟨-, rfl⟩ | earlier)
      · rfl
      · exact (agrees _ earlier).symm
  · have differs : (other == key) = false := beq_false_of_ne same
    simp [differs, same]

end Table
