/-
First wins: what a catalog holds of the data lines it was read from.

A catalog is the row of accepted entries with all but the first of each code left
out. `Holds` says so, in terms of the three things a catalog can be asked: its keys in
order, the entry under a number, and how many entries were left out. It holds of the
empty catalog and the empty row, one more entry preserves it, and so it holds of every
text that can be read.
-/
import SqlStates.Proofs.Reading

set_option autoImplicit false

namespace SqlStates.Catalog

open Text (lines trim)

/-- The numbers of a catalog's codes in order. -/
def keys (c : Catalog) : List Nat := c.iter.map Prod.fst

theorem mem_keys_iff {c : Catalog} {key : Nat} : key ∈ c.keys ↔ (c.get? key).isSome := by
  rw [Option.isSome_iff_ne_none, Ne, get?, OrderedMap.get?_eq_none_iff, not_not]
  rfl

theorem keys_insert_of_none {c : Catalog} {e : Entry} (h : c.get? e.key = none) :
    (c.insert e).keys = c.keys ++ [e.key] := by
  rw [keys, iter_insert_of_none h, List.map_append]
  rfl

theorem keys_insert_of_isSome {c : Catalog} {e : Entry} (h : (c.get? e.key).isSome) :
    (c.insert e).keys = c.keys := by
  rw [insert_of_isSome h]
  rfl

/-- Every entry is found under the number it is filed under. -/
theorem get?_of_mem_iter {c : Catalog} {p : Nat × Entry} (h : p ∈ c.iter) : c.get? p.1 = some p.2 :=
  OrderedMap.get?_of_mem h

/-! ## The invariant -/

/-- A catalog holds the first entry of each code in a row of entries, in the order of the row, and
counts the others. -/
structure Holds (c : Catalog) (es : List Entry) : Prop where
  keys_eq : c.keys = (es.map Entry.key).eraseDups
  get?_eq : ∀ key, c.get? key = es.find? (·.key == key)
  count_eq : c.size + c.duplicates = es.length

theorem holds_empty : Holds empty [] where
  keys_eq := rfl
  get?_eq := fun _ => rfl
  count_eq := rfl

/-- One more entry goes to the end of the row. It is kept exactly if the row had none of its
code. -/
theorem Holds.insert {c : Catalog} {es : List Entry} (h : Holds c es) (e : Entry) :
    Holds (c.insert e) (es ++ [e]) where
  keys_eq := by
    -- the row has had the code exactly if the catalog has it
    have hmem : e.key ∈ es.map Entry.key ↔ (c.get? e.key).isSome := by
      rw [← List.mem_eraseDups, ← h.keys_eq, mem_keys_iff]
    rw [List.map_append, List.eraseDups_append, ← h.keys_eq, List.map_singleton,
      List.cons_removeAll, List.nil_removeAll]
    by_cases hold : (c.get? e.key).isSome
    · rw [keys_insert_of_isSome hold, if_neg (by simpa using hmem.mpr hold), List.eraseDups_nil,
        List.append_nil]
    · rw [keys_insert_of_none (by simpa using hold), if_pos (by simpa using mt hmem.mp hold)]
      rfl
  get?_eq := by
    intro key
    rw [get?_insert, h.get?_eq, List.find?_append, List.find?_singleton, Bool.beq_comm]
  count_eq := by
    rw [size_add_duplicates_insert, h.count_eq, List.length_append, List.length_singleton]

/-- **The invariant of a run**: a row of entries leaves a catalog that holds the row. -/
theorem holds_foldl (es : List Entry) : Holds (es.foldl Catalog.insert empty) es := by
  induction es using List.reverseRecOn with
  | nil => exact holds_empty
  | append_singleton es e ih =>
    rw [List.foldl_append]
    exact ih.insert e

/-! ## Catalogs of texts -/

/-- **First wins.** A catalog read from a text is what is left of the entries on all its lines when
each code keeps its first one: the keys are the codes' numbers in order of first appearance, each
once and each below `36 ^ 5`; under every number there is the first entry with that number, or
nothing if there is none; and every entry left out was counted. The lines that are passed over have
no part in this because none of them could have been read. -/
theorem parse_first_wins {t : Text} {c : Catalog} (h : parse t = .ok c) :
    c.keys.Nodup ∧ c.keys = ((accepted (lines t)).map Entry.key).eraseDups
      ∧ (∀ p ∈ c.iter, (accepted (lines t)).find? (·.key == p.1) = some p.2
          ∧ p.1 = p.2.state.value ∧ p.1 ≤ 36 ^ 5 - 1)
      ∧ (∀ key, c.get? key = (accepted (lines t)).find? (·.key == key))
      ∧ c.size + c.duplicates = (accepted (lines t)).length
      ∧ (c.isEmpty ↔ accepted (lines t) = [])
      ∧ ∀ raw ∈ lines t, isSkipped (trim raw) → ∃ fault, Entry.parse raw = .error fault := by
  have hholds : Holds c (accepted (lines t)) := by
    rw [(parse_eq_ok_iff.mp h).2]
    exact holds_foldl _
  refine ⟨c.filed.keys_nodup, hholds.keys_eq, ?_, hholds.get?_eq, hholds.count_eq, ?_, ?_⟩
  · intro p hp
    have hkey : p.1 = p.2.state.value := c.filed_by_key p hp
    have hbound := p.2.state.value_lt_count
    refine ⟨?_, hkey, ?_⟩
    · rw [← hholds.get?_eq, get?_of_mem_iter hp]
    · rw [hkey]
      exact Nat.le_sub_one_of_lt hbound
  · -- no keys on the one side and no entries on the other
    have hkeys : c.isEmpty ↔ c.keys = [] := by
      rw [keys, List.map_eq_nil_iff, isEmpty, OrderedMap.isEmpty, List.isEmpty_iff]
      rfl
    rw [hkeys, hholds.keys_eq]
    cases accepted (lines t) with
    | nil => simp
    | cons e es => simp [List.eraseDups_cons]
  · intro raw _ hskip
    exact parse_eq_error_of_isSkipped hskip

/-- A text with one code on two lines, in capitals and not, and in a comment between them. -/
def twoNames : Text := "0A000 E ERRCODE_FIRST first\n# 0A000\r\n0a000 E ERRCODE_SECOND\n".toList

theorem parse_first_wins_twoNames :
    ∃ c, parse twoNames = .ok c ∧ c.keys = [466560]
      ∧ (c.get? 466560).map Entry.name = some "first".toList ∧ c.size + c.duplicates = 2 := by
  have hok : parse twoNames = .ok ((accepted (lines twoNames)).foldl insert empty) :=
    parse_eq_ok_iff.mpr ⟨by decide +kernel, rfl⟩
  obtain ⟨-, hkeys, -, hget, hcount, -⟩ := parse_first_wins hok
  refine ⟨_, hok, ?_, ?_, ?_⟩
  · rw [hkeys]
    decide +kernel
  · rw [hget]
    decide +kernel
  · rw [hcount]
    decide +kernel

end SqlStates.Catalog
