import Mathlib.Data.List.AList

/-!
# Unordered maps

A finite map with unique keys, as an association list that carries the
uniqueness of its keys.  The operations follow `std::unordered_map`: `emplace`
leaves an entry that exists alone, and `modify` stands for writing through a
reference to the mapped value.
-/

/-- A finite map from keys to values, each key bound at most once. -/
abbrev UnorderedMap (Key Value : Type*) := AList fun _ : Key => Value

namespace UnorderedMap

variable {Key Value : Type*} [DecidableEq Key]

/-- Bind the key unless it is bound already. -/
def emplace (map : UnorderedMap Key Value) (key : Key) (value : Value) :
    UnorderedMap Key Value :=
  match map.lookup key with
  | none => map.insert key value
  | some _ => map

/-- Rewrite the value of a key in place; nothing happens when it is unbound. -/
def modify (map : UnorderedMap Key Value) (key : Key)
    (update : Value → Value) : UnorderedMap Key Value :=
  match map.lookup key with
  | none => map
  | some value => map.insert key (update value)

/-- Whether no key is bound. -/
def empty (map : UnorderedMap Key Value) : Bool :=
  map.entries.isEmpty

variable {map : UnorderedMap Key Value} {key other : Key} {value : Value}
  {update : Value → Value}

theorem mem_iff_lookup : key ∈ map ↔ ∃ value, map.lookup key = some value := by
  rw [← AList.lookup_isSome, Option.isSome_iff_exists]

theorem lookup_insert_eq_ite :
    (map.insert key value).lookup other =
      if other = key then some value else map.lookup other := by
  by_cases same : other = key
  · subst other
    simp
  · simp [AList.lookup_insert_ne same, same]

theorem lookup_erase_eq_ite :
    (map.erase key).lookup other =
      if other = key then none else map.lookup other := by
  by_cases same : other = key
  · subst other
    simp
  · simp [AList.lookup_erase_ne same, same]

theorem lookup_emplace :
    (emplace map key value).lookup other =
      if other = key ∧ key ∉ map then some value else map.lookup other := by
  unfold emplace
  cases bound : map.lookup key with
  | none =>
      have unbound : key ∉ map := AList.lookup_eq_none.mp bound
      simp [lookup_insert_eq_ite, unbound]
  | some present =>
      have member : key ∈ map := mem_iff_lookup.mpr ⟨present, bound⟩
      simp [member]

theorem mem_emplace : other ∈ emplace map key value ↔ other = key ∨ other ∈ map := by
  rw [← AList.lookup_isSome, ← AList.lookup_isSome, lookup_emplace]
  split
  next added => simp [added.1]
  next kept =>
      constructor
      · exact Or.inr
      · rintro (rfl | member)
        · by_contra unbound
          exact kept ⟨rfl, fun member => unbound (AList.lookup_isSome.mpr member)⟩
        · exact member

theorem lookup_modify :
    (modify map key update).lookup other =
      if other = key then (map.lookup key).map update else map.lookup other := by
  unfold modify
  cases bound : map.lookup key with
  | none =>
      by_cases same : other = key
      · subst other
        simp [bound]
      · simp [same]
  | some present => simp [lookup_insert_eq_ite]

@[simp]
theorem mem_modify : other ∈ modify map key update ↔ other ∈ map := by
  rw [← AList.lookup_isSome, ← AList.lookup_isSome, lookup_modify]
  split
  next same =>
      subst other
      simp
  next => rfl

omit [DecidableEq Key] in
theorem empty_iff : empty map = true ↔ ∀ key, key ∉ map := by
  rw [empty, List.isEmpty_iff]
  constructor
  · intro noEntries key member
    rw [AList.mem_keys, AList.keys, noEntries] at member
    simp at member
  · intro unbound
    apply List.eq_nil_iff_forall_not_mem.mpr
    intro entry member
    exact unbound entry.1 (List.mem_keys_of_mem member)

end UnorderedMap
