/-
Texts that go on: what reading the start of a text tells about the whole.

A text may be cut off anywhere, in the middle of a word or between the two characters
of a break. Every line but the last is then a line of the whole text, and the last one
is the start of a line. A data line that goes on stays a data line with its code and
its severity: three words are enough to read it, and of these only the label can be the
last. The label may get longer, which can change its lower case as far back as its last
capital sigma. So a catalog read from the start keeps its place in the one read from the
whole, and the start of a text that can be read fails at its last line or nowhere.
-/
import SqlStates.Proofs.Concatenation

set_option autoImplicit false

namespace SqlStates

/-- **A data line that goes on stays one**, with the same code and the same severity. -/
theorem Entry.exists_parse_append {t : Text} {e : Entry} (h : Entry.parse t = .ok e) (u : Text) :
    ∃ grown, Entry.parse (t ++ u) = .ok grown ∧ grown.state = e.state
      ∧ grown.severity = e.severity := by
  obtain ⟨code, severity, name, rest, state, hwords, hcode, rfl⟩ := Entry.ofWords_eq_ok_iff.mp h
  rcases List.eq_nil_or_concat' rest with rfl | ⟨init, w, rfl⟩
  · -- the label is the last word, and its marker is at the front of it
    have hlast : Text.words t = [code, severity] ++ [marker ++ name] := hwords
    obtain ⟨more, rest, hgrown⟩ := Text.words_append_last hlast u
    rw [List.append_assoc] at hgrown
    exact ⟨_, Entry.ofWords_eq_ok_iff.mpr ⟨_, _, _, _, _, hgrown, hcode, rfl⟩, rfl, rfl⟩
  · -- the last word comes after the label
    have hlast : Text.words t = (code :: severity :: (marker ++ name) :: init) ++ [w] := hwords
    obtain ⟨more, rest, hgrown⟩ := Text.words_append_last hlast u
    exact ⟨_, Entry.ofWords_eq_ok_iff.mpr ⟨_, _, _, _, _, hgrown, hcode, rfl⟩, rfl, rfl⟩

namespace Catalog

open Text (lines segments breaks)

/-! ## Catalogs that grow -/

/-- A catalog with more put into it: new entries come after the old ones, and what was left out
stays left out. -/
structure Grows (a c : Catalog) : Prop where
  iter_prefix : a.iter <+: c.iter
  duplicates_le : a.duplicates ≤ c.duplicates

theorem grows_foldl (a : Catalog) (es : List Entry) : Grows a (es.foldl insert a) where
  iter_prefix := ⟨_, (joins_foldl a es).iter_eq.symm⟩
  duplicates_le := by
    rw [(joins_foldl a es).duplicates_eq, Nat.add_assoc]
    exact Nat.le_add_right _ _

/-- Whether an entry was made from the last line of a text, the one that no break follows: the
line says it, and no line before has its code. -/
def FromLastLine (t : Text) (e : Entry) : Prop :=
  ∃ pre last, segments t = pre ++ [last] ∧ Entry.parse last = .ok e
    ∧ e.key ∉ (accepted pre).map Entry.key

/-- A catalog read from a text, and one read from a text that goes on from there. Every entry
stays in its place with its code and its severity. It stays as it is, unless it was made from the
last line, which may not have ended. -/
structure ContinuedBy (t : Text) (a c : Catalog) : Prop where
  keys_prefix : a.keys <+: c.keys
  duplicates_le : a.duplicates ≤ c.duplicates
  kept : ∀ p ∈ a.iter, ∃ e, (p.1, e) ∈ c.iter ∧ e.state = p.2.state
    ∧ e.severity = p.2.severity ∧ (e = p.2 ∨ FromLastLine t p.2)

/-- A catalog that only grows keeps all its entries as they are. -/
theorem Grows.continuedBy {a c : Catalog} (h : Grows a c) (t : Text) : ContinuedBy t a c where
  keys_prefix := h.iter_prefix.map Prod.fst
  duplicates_le := h.duplicates_le
  kept := fun p hp => ⟨p.2, h.iter_prefix.subset hp, rfl, rfl, .inl rfl⟩

/-- The last line may say one thing at first and another when it has gone on. If the code is new,
the one entry takes the place of the other; if it is not, both are repeats. -/
theorem continuedBy_of_last {t last : Text} {pre : List Text} {b c : Catalog} {e grown : Entry}
    (ht : segments t = pre ++ [last]) (hlast : Entry.parse last = .ok e)
    (hb : Holds b (accepted pre)) (hstate : grown.state = e.state)
    (hseverity : grown.severity = e.severity) (h : Grows (b.insert grown) c) :
    ContinuedBy t (b.insert e) c := by
  have hkey : grown.key = e.key := congrArg SqlState.value hstate
  by_cases hold : (b.get? e.key).isSome
  · have hsame : b.insert e = b.insert grown := by
      rw [insert_of_isSome hold, insert_of_isSome (by rw [hkey]; exact hold)]
    rw [hsame]
    exact h.continuedBy t
  · have hnone : b.get? e.key = none := Option.not_isSome_iff_eq_none.mp hold
    have hgrown : b.get? grown.key = none := by rw [hkey]; exact hnone
    -- no line before the last has the code
    have hfirst : FromLastLine t e := by
      refine ⟨pre, last, ht, hlast, ?_⟩
      rw [← List.mem_eraseDups, ← hb.keys_eq, mem_keys_iff]
      exact hold
    have hprefix := h.iter_prefix
    rw [iter_insert_of_none hgrown, hkey] at hprefix
    refine ⟨?_, ?_, ?_⟩
    · rw [keys_insert_of_none hnone]
      have hkeys := hprefix.map Prod.fst
      rwa [List.map_append] at hkeys
    · have hle := h.duplicates_le
      rw [duplicates_insert_of_none hgrown] at hle
      rw [duplicates_insert_of_none hnone]
      exact hle
    · intro p hp
      rw [iter_insert_of_none hnone, List.mem_append, List.mem_singleton] at hp
      rcases hp with hp | rfl
      · have hmem : p ∈ c.iter := hprefix.subset (List.mem_append_left _ hp)
        exact ⟨p.2, hmem, rfl, rfl, .inl rfl⟩
      · have hmem : (e.key, grown) ∈ c.iter :=
          hprefix.subset (List.mem_append_right _ (List.mem_singleton.mpr rfl))
        exact ⟨grown, hmem, hstate, hseverity, .inr hfirst⟩

/-! ## Texts that go on -/

/-- A text that goes on has the lines of its start but the last, as many as the start has breaks,
and then a line that goes on from the last one. -/
theorem exists_cut (t u : Text) :
    ∃ pre last more rest, segments t = pre ++ [last]
      ∧ segments (t ++ u) = pre ++ (last ++ more) :: rest ∧ pre.length = breaks t := by
  obtain ⟨pre, last, more, rest, ht, htu⟩ := Text.segments_append_last t u
  refine ⟨pre, last, more, rest, ht, htu, ?_⟩
  have hlen := Text.length_segments t
  rw [ht, List.length_append, List.length_singleton] at hlen
  omega

/-- A malformed line that has ended stays the first one. -/
theorem parse_append_of_error {t : Text} {e : FormatError} (h : parse t = .error e)
    (hended : e.line ≤ breaks t) (u : Text) : parse (t ++ u) = .error e := by
  obtain ⟨pre, last, more, rest, ht, htu, hlen⟩ := exists_cut t u
  rw [parse_eq_error_iff_segments, ht, firstFault_append, Option.or_eq_some_iff] at h
  rcases h with hpre | ⟨-, hlast⟩
  · rw [parse_eq_error_iff_segments, htu, firstFault_append, hpre, Option.some_or]
  · -- the last line has no break after it
    have hline := line_of_firstFault hlast
    omega

/-- A text that can be read can be read when it goes on, or fails at its last line or later. -/
theorem parse_append_of_ok {t : Text} {a : Catalog} (h : parse t = .ok a) (u : Text) :
    (∃ e, parse (t ++ u) = .error e ∧ breaks t + 1 ≤ e.line)
      ∨ ∃ c, parse (t ++ u) = .ok c ∧ ContinuedBy t a c := by
  obtain ⟨pre, last, more, rest, ht, htu, hlen⟩ := exists_cut t u
  obtain ⟨hfault, ha⟩ := parse_eq_ok_iff_segments.mp h
  rw [ht, firstFault_append, Option.or_eq_none_iff] at hfault
  rw [ht, accepted_append, List.foldl_append] at ha
  cases hwhole : parse (t ++ u) with
  | error e =>
    refine .inl ⟨e, rfl, ?_⟩
    rw [parse_eq_error_iff_segments, htu, firstFault_append, hfault.1, Option.none_or] at hwhole
    have hline := line_of_firstFault hwhole
    omega
  | ok c =>
    refine .inr ⟨c, rfl, ?_⟩
    obtain ⟨-, hc⟩ := parse_eq_ok_iff_segments.mp hwhole
    rw [htu, accepted_append, List.foldl_append] at hc
    have hb := holds_foldl (accepted pre)
    cases hlast : Entry.parse last with
    | error fault =>
      -- the last line has added nothing yet
      rw [accepted_cons_of_error hlast] at ha
      rw [ha, hc]
      exact (grows_foldl _ _).continuedBy t
    | ok e =>
      obtain ⟨grown, hgrown, hstate, hseverity⟩ := Entry.exists_parse_append hlast more
      rw [accepted_cons_of_ok hlast] at ha
      rw [accepted_cons_of_ok hgrown, List.foldl_cons] at hc
      rw [ha, hc]
      exact continuedBy_of_last ht hlast hb hstate hseverity (grows_foldl _ _)

/-- **Reading is stable under cutting off.** Let one text be the start of another. An error of the
start in a line that a break follows is the error of the whole. If the start can be read, the whole
either fails at the start's last line or later, or it can be read too, and then the start's entries
are the first ones of the whole: their keys are in order, no fewer lines are left out, and each
entry is as it was, except that the name and the condition of one made from the last line of the
start may differ. So the start of a text that can be read can be read, or fails at its last
line. -/
theorem parse_prefix_stable (t u : Text) :
    (∀ e, parse t = .error e → e.line ≤ breaks t → parse (t ++ u) = .error e)
      ∧ (∀ a, parse t = .ok a →
          (∃ e, parse (t ++ u) = .error e ∧ breaks t + 1 ≤ e.line)
            ∨ ∃ c, parse (t ++ u) = .ok c ∧ ContinuedBy t a c)
      ∧ ∀ c, parse (t ++ u) = .ok c →
          (∃ a, parse t = .ok a) ∨ ∃ e, parse t = .error e ∧ e.line = breaks t + 1 := by
  refine ⟨fun e he hended => parse_append_of_error he hended u,
    fun a ha => parse_append_of_ok ha u, ?_⟩
  intro c hc
  cases hcut : parse t with
  | ok a => exact .inl ⟨a, rfl⟩
  | error e =>
    refine .inr ⟨e, rfl, ?_⟩
    -- an error in a line that has ended would be the whole's
    have hlate : ¬ e.line ≤ breaks t := by
      intro hended
      rw [parse_append_of_error hcut hended u] at hc
      cases hc
    have hline := (line_of_firstFault (parse_eq_error_iff_segments.mp hcut)).2
    rw [Text.length_segments] at hline
    omega

/-- A text cut off after a capital sigma, which ends the name as long as nothing follows. -/
def cutName : Text := "0A000 E ERRCODE_ΑΣ".toList

theorem parse_prefix_stable_sigma :
    ∃ a c, parse cutName = .ok a ∧ parse (cutName ++ "Α ok\n".toList) = .ok c
      ∧ ContinuedBy cutName a c
      ∧ (a.get? 466560).map Entry.name = some "ας".toList
      ∧ (c.get? 466560).map Entry.name = some "ασα".toList := by
  have hcut : parse cutName = .ok ((accepted (lines cutName)).foldl insert empty) :=
    parse_eq_ok_iff.mpr ⟨by decide +kernel, rfl⟩
  have hwhole : parse (cutName ++ "Α ok\n".toList)
      = .ok ((accepted (lines (cutName ++ "Α ok\n".toList))).foldl insert empty) :=
    parse_eq_ok_iff.mpr ⟨by decide +kernel, rfl⟩
  rcases (parse_prefix_stable cutName "Α ok\n".toList).2.1 _ hcut with ⟨e, he, -⟩ | ⟨c, hc, hcont⟩
  · rw [hwhole] at he
    cases he
  · refine ⟨_, c, hcut, hc, hcont, by decide +kernel, ?_⟩
    rw [hwhole, Except.ok.injEq] at hc
    rw [← hc]
    decide +kernel

end Catalog

end SqlStates
