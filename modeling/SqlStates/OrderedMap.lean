/-
Maps that keep their pairs in the order in which their keys came.

A map is a list of pairs with different keys. A key is looked up from the front,
and a pair is only ever added at the end, under a key that is not there yet.
-/
set_option autoImplicit false

namespace SqlStates

/-- Pairs of a key and a value, with different keys, in the order they were added. -/
@[ext] structure OrderedMap (κ α : Type) where
  pairs : List (κ × α)
  /-- No two pairs have one key. -/
  keys_nodup : (pairs.map Prod.fst).Nodup

namespace OrderedMap

variable {κ α : Type} [BEq κ] [LawfulBEq κ]

/-- The map with nothing in it. -/
def empty : OrderedMap κ α := ⟨[], List.nodup_nil⟩

/-- The keys in order. -/
def keys (m : OrderedMap κ α) : List κ := m.pairs.map Prod.fst

/-- The number of pairs. -/
def size (m : OrderedMap κ α) : Nat := m.pairs.length

/-- Whether there is no pair. -/
def isEmpty (m : OrderedMap κ α) : Bool := m.pairs.isEmpty

/-- The value under a key. -/
def get? (m : OrderedMap κ α) (key : κ) : Option α := m.pairs.lookup key

/-- Without a value under a key, the key is none of the map's. -/
theorem get?_eq_none_iff {m : OrderedMap κ α} {key : κ} : m.get? key = none ↔ key ∉ m.keys := by
  rw [get?, keys, List.lookup_eq_none_iff, List.mem_map]
  constructor
  · rintro h ⟨p, hp, rfl⟩
    simpa using h p hp
  · intro h p hp
    rw [bne_iff_ne]
    exact fun heq => h ⟨p, hp, heq.symm⟩

/-- Adds a pair at the end, under a new key. -/
def add (m : OrderedMap κ α) (key : κ) (a : α) (h : m.get? key = none) : OrderedMap κ α where
  pairs := m.pairs ++ [(key, a)]
  keys_nodup := by
    have hnew : key ∉ m.keys := get?_eq_none_iff.mp h
    rw [List.map_append, List.nodup_append]
    refine ⟨m.keys_nodup, by simp, ?_⟩
    intro j hj k hk hjk
    rw [List.map_singleton, List.mem_singleton] at hk
    rw [hjk, hk] at hj
    exact hnew hj

/-- An added pair is found under its key, and the others are found as before. -/
theorem get?_add (m : OrderedMap κ α) (key : κ) (a : α) (h : m.get? key = none) (j : κ) :
    (m.add key a h).get? j = (m.get? j).or (if j == key then some a else none) := by
  rw [get?, add, List.lookup_append, List.lookup_cons, List.lookup_nil, ← get?]
  cases j == key <;> rfl

/-- The value of every pair is found under its key. -/
theorem get?_of_mem {m : OrderedMap κ α} {key : κ} {a : α} (h : (key, a) ∈ m.pairs) :
    m.get? key = some a := by
  obtain ⟨before, after, hsplit⟩ := List.append_of_mem h
  have hnodup := m.keys_nodup
  rw [hsplit, List.map_append, List.nodup_append] at hnodup
  -- the keys before the pair all differ from its own
  have hnew : before.lookup key = none := by
    rw [List.lookup_eq_none_iff]
    intro p hp
    have hne := hnodup.2.2 p.1 (List.mem_map_of_mem hp) key (by simp)
    simpa using fun heq : key = p.1 => hne heq.symm
  rw [get?, hsplit, List.lookup_append, hnew, Option.none_or, List.lookup_cons_self]

end OrderedMap

end SqlStates
