/-
Concatenation: reading two texts, one after the other.

Where a line ends the first of two texts, and no break is cut in two, the lines of the
two together are the lines of the one and then of the other. What reading says of the
whole is then told by what it says of the parts: the first malformed line is the
first's, or else the second's, further down; and the catalog joins the two catalogs,
the first one winning where both have an entry.
-/
import SqlStates.Proofs.FirstWins

set_option autoImplicit false

namespace SqlStates.Catalog

open Text (lines segments breaks EndsLine SplitsBreak)

/-! ## Lines of both texts -/

/-- The lines before the seam say what the first text's lines say. -/
theorem firstFault_of_segments {t : Text} {pre : List Text} (h : segments t = pre ++ [[]]) :
    firstFault 1 pre = firstFault 1 (lines t) := by
  rw [← firstFault_segments, h, firstFault_append, firstFault, fault?_nil]
  exact Option.or_none.symm

theorem accepted_of_segments {t : Text} {pre : List Text} (h : segments t = pre ++ [[]]) :
    accepted pre = accepted (lines t) := by
  rw [← accepted_segments, h, accepted_append, accepted_nil_line, List.append_nil]

/-- The first malformed line of two texts is that of the first, or that of the second with the
breaks of the first before it. -/
theorem firstFault_lines_append {t u : Text} (ht : EndsLine t) (hseam : ¬ SplitsBreak t u) :
    firstFault 1 (lines (t ++ u)) =
      (firstFault 1 (lines t)).or
        ((firstFault 1 (lines u)).map fun e => { e with line := e.line + breaks t }) := by
  obtain ⟨pre, hpre, happ⟩ := Text.segments_append ht hseam
  -- the last segment of `t` is the empty one after its last break
  have hbreaks : pre.length = breaks t := by
    have hlen := Text.length_segments t
    rw [hpre, List.length_append, List.length_singleton] at hlen
    omega
  rw [← firstFault_segments (t ++ u), happ, firstFault_append, firstFault_of_segments hpre,
    firstFault_add, hbreaks, firstFault_segments u]

/-- The entries of two texts are those of the first, then those of the second. -/
theorem accepted_lines_append {t u : Text} (ht : EndsLine t) (hseam : ¬ SplitsBreak t u) :
    accepted (lines (t ++ u)) = accepted (lines t) ++ accepted (lines u) := by
  obtain ⟨pre, hpre, happ⟩ := Text.segments_append ht hseam
  rw [← accepted_segments (t ++ u), happ, accepted_append, accepted_of_segments hpre,
    accepted_segments u]

/-! ## Joining catalogs -/

/-- The keys that two catalogs share. -/
def sharedKeys (a b : Catalog) : List Nat := b.keys.filter (· ∈ a.keys)

/-- A catalog that comes of adding the entries of one catalog, and what it left out, to another. -/
structure Joins (a b joined : Catalog) : Prop where
  iter_eq : joined.iter = a.iter ++ b.iter.filter fun p => p.1 ∉ a.keys
  duplicates_eq : joined.duplicates = a.duplicates + b.duplicates + (sharedKeys a b).length
  get?_eq : ∀ key, joined.get? key = (a.get? key).or (b.get? key)

theorem joins_empty (a : Catalog) : Joins a empty a where
  iter_eq := (List.append_nil a.iter).symm
  duplicates_eq := rfl
  get?_eq := fun _ => Option.or_none.symm

/-- What is found after one more entry does not depend on which case the entry is. -/
theorem Joins.get?_insert {a b joined : Catalog} (h : Joins a b joined) (e : Entry) (key : Nat) :
    (joined.insert e).get? key = (a.get? key).or ((b.insert e).get? key) := by
  rw [Catalog.get?_insert, Catalog.get?_insert, h.get?_eq, Option.or_assoc]

/-- An entry that the second catalog has already is a repeat on either side. -/
theorem Joins.insert_of_isSome {a b joined : Catalog} (h : Joins a b joined) {e : Entry}
    (hb : (b.get? e.key).isSome) : Joins a (b.insert e) (joined.insert e) := by
  have hjoined : (joined.get? e.key).isSome := by
    rw [h.get?_eq, Option.isSome_or, hb, Bool.or_true]
  refine ⟨?_, ?_, h.get?_insert e⟩
  · rw [Catalog.insert_of_isSome hb, Catalog.insert_of_isSome hjoined]
    exact h.iter_eq
  · rw [Catalog.insert_of_isSome hb, Catalog.insert_of_isSome hjoined]
    show joined.duplicates + 1 = a.duplicates + (b.duplicates + 1) + (sharedKeys a b).length
    rw [h.duplicates_eq]
    omega

/-- An entry that only the first catalog has is one more shared key. -/
theorem Joins.insert_of_left {a b joined : Catalog} (h : Joins a b joined) {e : Entry}
    (ha : (a.get? e.key).isSome) (hb : b.get? e.key = none) :
    Joins a (b.insert e) (joined.insert e) := by
  have hmem : e.key ∈ a.keys := mem_keys_iff.mpr ha
  have hjoined : (joined.get? e.key).isSome := by
    rw [h.get?_eq, Option.isSome_or, ha, Bool.true_or]
  have hshared : sharedKeys a (b.insert e) = sharedKeys a b ++ [e.key] := by
    rw [sharedKeys, keys_insert_of_none hb, List.filter_append,
      List.filter_cons_of_pos (by simpa using hmem), List.filter_nil, sharedKeys]
  refine ⟨?_, ?_, h.get?_insert e⟩
  · rw [iter_insert_of_none hb, List.filter_append, List.filter_cons_of_neg (by simpa using hmem),
      List.filter_nil, List.append_nil, ← h.iter_eq, Catalog.insert_of_isSome hjoined]
    rfl
  · rw [Catalog.insert_of_isSome hjoined, duplicates_insert_of_none hb, hshared, List.length_append,
      List.length_singleton]
    show joined.duplicates + 1 = _
    rw [h.duplicates_eq]
    omega

/-- An entry that neither catalog has is kept on both sides. -/
theorem Joins.insert_of_none {a b joined : Catalog} (h : Joins a b joined) {e : Entry}
    (ha : a.get? e.key = none) (hb : b.get? e.key = none) :
    Joins a (b.insert e) (joined.insert e) := by
  have hmem : e.key ∉ a.keys := by
    rw [mem_keys_iff, ha]
    simp
  have hjoined : joined.get? e.key = none := by
    rw [h.get?_eq, ha, hb]
    rfl
  have hshared : sharedKeys a (b.insert e) = sharedKeys a b := by
    rw [sharedKeys, keys_insert_of_none hb, List.filter_append,
      List.filter_cons_of_neg (by simpa using hmem), List.filter_nil, List.append_nil, sharedKeys]
  refine ⟨?_, ?_, h.get?_insert e⟩
  · rw [iter_insert_of_none hb, iter_insert_of_none hjoined, h.iter_eq, List.filter_append,
      List.filter_cons_of_pos (by simpa using hmem), List.filter_nil, List.append_assoc]
  · rw [duplicates_insert_of_none hjoined, duplicates_insert_of_none hb, hshared, h.duplicates_eq]

/-- One more entry on either side keeps a join a join. -/
theorem Joins.insert {a b joined : Catalog} (h : Joins a b joined) (e : Entry) :
    Joins a (b.insert e) (joined.insert e) := by
  by_cases hb : (b.get? e.key).isSome
  · exact h.insert_of_isSome hb
  · rw [Option.not_isSome_iff_eq_none] at hb
    by_cases ha : (a.get? e.key).isSome
    · exact h.insert_of_left ha hb
    · exact h.insert_of_none (Option.not_isSome_iff_eq_none.mp ha) hb

/-- **The invariant of two runs**: a row of entries leaves, after a catalog, what joins that catalog
and what the row leaves after nothing. -/
theorem joins_foldl (a : Catalog) (es : List Entry) :
    Joins a (es.foldl Catalog.insert empty) (es.foldl Catalog.insert a) := by
  induction es using List.reverseRecOn with
  | nil => exact joins_empty a
  | append_singleton es e ih =>
    rw [List.foldl_append, List.foldl_append]
    exact ih.insert e

/-! ## Texts -/

/-- **Reading goes through concatenation.** Let a line end the first of two texts, or let it be
empty, and let no break be cut in two between them. If the first cannot be read, the two together
fail with its error. If only the second cannot be read, they fail with its error, as many lines
further down as the first has breaks. If both can be read, so can the two together: the catalog has
the entries of the first and then those of the second whose keys are new, and it has left out what
either left out and one entry for each key that the two share. -/
theorem parse_append {t u : Text} (ht : EndsLine t) (hseam : ¬ SplitsBreak t u) :
    (∀ e, parse t = .error e → parse (t ++ u) = .error e)
      ∧ (∀ a e, parse t = .ok a → parse u = .error e →
          parse (t ++ u) = .error { e with line := e.line + breaks t })
      ∧ ∀ a b, parse t = .ok a → parse u = .ok b → ∃ c, parse (t ++ u) = .ok c
          ∧ c.iter = a.iter ++ b.iter.filter (fun p => p.1 ∉ a.keys)
          ∧ c.duplicates = a.duplicates + b.duplicates + (sharedKeys a b).length := by
  have hfault := firstFault_lines_append ht hseam
  refine ⟨?_, ?_, ?_⟩
  · intro e he
    rw [parse_eq_error_iff] at he ⊢
    rw [hfault, he, Option.some_or]
  · intro a e ha he
    rw [parse_eq_error_iff] at he ⊢
    rw [hfault, (parse_eq_ok_iff.mp ha).1, he, Option.none_or, Option.map_some]
  · intro a b ha hb
    obtain ⟨hnone_t, ha⟩ := parse_eq_ok_iff.mp ha
    obtain ⟨hnone_u, hb⟩ := parse_eq_ok_iff.mp hb
    -- the entries of `u` are added to `a` here and to nothing in `b`
    have hjoins : Joins a b ((accepted (lines u)).foldl Catalog.insert a) := by
      rw [hb]
      exact joins_foldl a _
    refine ⟨_, parse_eq_ok_iff.mpr ⟨?_, ?_⟩, hjoins.iter_eq, hjoins.duplicates_eq⟩
    · rw [hfault, hnone_t, hnone_u]
      rfl
    · rw [accepted_lines_append ht hseam, List.foldl_append, ← ha]

/-- A text to stand after `twoNames`, with the code of both and another. -/
def thirdName : Text := "\r\n0A000 E ERRCODE_THIRD\r00000 S ERRCODE_DONE".toList

theorem parse_append_twoNames :
    ∃ c, parse (twoNames ++ thirdName) = .ok c ∧ c.iter.map Prod.fst = [466560, 0]
      ∧ c.duplicates = 2 := by
  have hone : parse twoNames = .ok ((accepted (lines twoNames)).foldl insert empty) :=
    parse_eq_ok_iff.mpr ⟨by decide +kernel, rfl⟩
  have htwo : parse thirdName = .ok ((accepted (lines thirdName)).foldl insert empty) :=
    parse_eq_ok_iff.mpr ⟨by decide +kernel, rfl⟩
  have hends : EndsLine twoNames := .inr (.inl (by decide +kernel))
  have hseam : ¬ SplitsBreak twoNames thirdName := fun h => absurd h.1 (by decide +kernel)
  obtain ⟨c, hc, hiter, hduplicates⟩ := (parse_append hends hseam).2.2 _ _ hone htwo
  refine ⟨c, hc, ?_, ?_⟩
  · rw [hiter]
    decide +kernel
  · rw [hduplicates]
    decide +kernel

end SqlStates.Catalog
