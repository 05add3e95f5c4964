/-
Writing: many small writes come to one large one.

A sink takes bytes until its room is used up. Writing all of something is a loop of
single writes, and the lines of a catalog are two such loops each. `pour` is what all of
the bytes at once would come to: as many of them are put in as fit, and the sink's own
error is the result if that is not all of them. It goes through concatenation, also
where the room ends inside the first part or just after it (`pour_append`), and so every
loop here is one `pour`. A catalog rendered into a sink line by line therefore leaves there
what its rendering as one text would have left.
-/
import SqlStates.Mode
import SqlStates.Proofs.Rendering

set_option autoImplicit false

namespace SqlStates

namespace Sink

/-- Whether so many bytes all fit. -/
def Takes (s : Sink) (n : Nat) : Prop := n ≤ s.fits n

instance (s : Sink) (n : Nat) : Decidable (s.Takes n) := inferInstanceAs (Decidable (n ≤ s.fits n))

/-- The error of a write when nothing more fits. -/
def overflow (s : Sink) : WriteError :=
  match s.whenFull with
  | .refuse => .full
  | .takeNothing => .wroteZero

/-- What putting in all of some bytes comes to. -/
def pour (s : Sink) (bytes : Bytes) : Sink × Except WriteError Unit :=
  (s.put bytes, if s.Takes bytes.length then .ok () else .error s.overflow)

theorem pour_of_takes {s : Sink} {bytes : Bytes} (h : s.Takes bytes.length) :
    s.pour bytes = (s.put bytes, .ok ()) := by
  rw [pour, if_pos h]

theorem pour_of_not_takes {s : Sink} {bytes : Bytes} (h : ¬ s.Takes bytes.length) :
    s.pour bytes = (s.put bytes, .error s.overflow) := by
  rw [pour, if_neg h]

/-! ## Room -/

theorem fits_le (s : Sink) (n : Nat) : s.fits n ≤ n := by
  unfold fits
  split
  · exact Nat.le_refl n
  · exact Nat.min_le_left _ _

theorem fits_of_limited {s : Sink} {room : Nat} (h : s.room = some room) (n : Nat) :
    s.fits n = min n (room - s.held.length) := by
  rw [fits, h]

theorem fits_of_unlimited {s : Sink} (h : s.room = none) (n : Nat) : s.fits n = n := by
  rw [fits, h]

theorem Takes.fits_eq {s : Sink} {n : Nat} (h : s.Takes n) : s.fits n = n :=
  Nat.le_antisymm (s.fits_le n) h

theorem length_held_put (s : Sink) (bytes : Bytes) :
    (s.put bytes).held.length = s.held.length + s.fits bytes.length := by
  have hle := s.fits_le bytes.length
  rw [put, List.length_append, List.length_take, Nat.min_eq_left hle]

/-- A sink that could not take all of some bytes takes nothing more. -/
theorem fits_put_of_not_takes {s : Sink} {xs : Bytes} (h : ¬ s.Takes xs.length) (n : Nat) :
    (s.put xs).fits n = 0 := by
  cases hroom : s.room with
  | none =>
    rw [Takes, fits_of_unlimited hroom] at h
    omega
  | some room =>
    have hput : (s.put xs).room = some room := hroom
    rw [Takes, fits_of_limited hroom] at h
    rw [fits_of_limited hput, length_held_put, fits_of_limited hroom]
    omega

/-- **What fits of bytes and more bytes** is what fits of the first, and what fits of the others
when those are in. -/
theorem fits_add (s : Sink) (xs : Bytes) (n : Nat) :
    s.fits (xs.length + n) = s.fits xs.length + (s.put xs).fits n := by
  cases hroom : s.room with
  | none =>
    have hput : (s.put xs).room = none := hroom
    rw [fits_of_unlimited hroom, fits_of_unlimited hroom, fits_of_unlimited hput]
  | some room =>
    have hput : (s.put xs).room = some room := hroom
    rw [fits_of_limited hroom, fits_of_limited hroom, fits_of_limited hput, length_held_put,
      fits_of_limited hroom]
    omega

/-- All of it fits exactly if either part does. -/
theorem takes_add_iff (s : Sink) (xs : Bytes) (n : Nat) :
    s.Takes (xs.length + n) ↔ s.Takes xs.length ∧ (s.put xs).Takes n := by
  have hfirst := s.fits_le xs.length
  have hsecond := (s.put xs).fits_le n
  rw [Takes, Takes, Takes, fits_add]
  omega

/-- So many bytes all fit exactly if there is no limit, or they are no more than what is left. -/
theorem takes_iff {s : Sink} {n : Nat} :
    s.Takes n ↔ ∀ room, s.room = some room → n ≤ room - s.held.length := by
  cases hroom : s.room with
  | none =>
    rw [Takes, fits_of_unlimited hroom]
    simp
  | some room =>
    rw [Takes, fits_of_limited hroom]
    simp only [Option.some.injEq, forall_eq']
    omega

/-! ## Putting bytes in -/

theorem put_of_fits_eq_zero {s : Sink} {bytes : Bytes} (h : s.fits bytes.length = 0) :
    s.put bytes = s := by
  rw [put, h, List.take_zero, List.append_nil]

theorem put_nil (s : Sink) : s.put [] = s := by
  rw [put, List.take_nil, List.append_nil]

/-- After bytes that did not all fit nothing is put in. -/
theorem put_put_of_not_takes {s : Sink} {xs : Bytes} (h : ¬ s.Takes xs.length) (ys : Bytes) :
    (s.put xs).put ys = s.put xs :=
  put_of_fits_eq_zero (fits_put_of_not_takes h ys.length)

/-- **Putting bytes in goes through concatenation**, wherever the room ends. -/
theorem put_append (s : Sink) (xs ys : Bytes) : s.put (xs ++ ys) = (s.put xs).put ys := by
  have hheld : (xs ++ ys).take (s.fits (xs ++ ys).length)
      = xs.take (s.fits xs.length) ++ ys.take ((s.put xs).fits ys.length) := by
    rw [List.take_append, List.length_append, fits_add]
    by_cases hxs : s.Takes xs.length
    · rw [hxs.fits_eq, Nat.add_sub_cancel_left, List.take_length,
        List.take_of_length_le (Nat.le_add_right _ _)]
    · -- the room ends inside the first part, and none of the second is taken
      have hnone : s.fits xs.length - xs.length = 0 := Nat.sub_eq_zero_of_le (s.fits_le _)
      rw [fits_put_of_not_takes hxs, Nat.add_zero, hnone]
  rw [put, hheld, ← List.append_assoc]
  rfl

/-- **Pouring goes through concatenation**: the second part is poured if the first went in, and
what the first came to is what both come to if it did not. -/
theorem pour_append (s : Sink) (xs ys : Bytes) :
    (match s.pour xs with
      | (after, .error e) => (after, .error e)
      | (after, .ok ()) => after.pour ys) = s.pour (xs ++ ys) := by
  have hboth := s.takes_add_iff xs ys.length
  rw [← List.length_append] at hboth
  by_cases hxs : s.Takes xs.length
  · rw [pour_of_takes hxs]
    by_cases hys : (s.put xs).Takes ys.length
    · rw [pour_of_takes (hboth.mpr ⟨hxs, hys⟩), put_append]
      exact pour_of_takes hys
    · rw [pour_of_not_takes fun h => hys (hboth.mp h).2, put_append]
      exact pour_of_not_takes hys
  · rw [pour_of_not_takes hxs, pour_of_not_takes fun h => hxs (hboth.mp h).1, put_append,
      put_put_of_not_takes hxs]

theorem pour_nil (s : Sink) : s.pour [] = (s, .ok ()) := by
  have htakes : s.Takes ([] : Bytes).length := Nat.zero_le _
  rw [pour_of_takes htakes, put_nil]

/-- After a single write, pouring what it left over comes to what pouring all would have. -/
theorem pour_rest (s : Sink) (bytes : Bytes) :
    (s.put bytes).pour (bytes.drop (s.fits bytes.length)) = s.pour bytes := by
  by_cases htakes : s.Takes bytes.length
  · rw [htakes.fits_eq, List.drop_length, pour_nil, pour_of_takes htakes]
  · -- something is left over, and there is no room for any of it
    have hmore : ¬ (s.put bytes).Takes (bytes.drop (s.fits bytes.length)).length := by
      rw [Takes, fits_put_of_not_takes htakes, List.length_drop]
      rw [Takes] at htakes
      omega
    rw [pour_of_not_takes hmore, pour_of_not_takes htakes, put_put_of_not_takes htakes]
    rfl

/-! ## The loops -/

/-- **The loop of single writes comes to one pour.** Each write that does not fail puts in one byte
at least, so the tries are enough. -/
theorem writeWithin_eq {tries : Nat} {bytes : Bytes} (s : Sink) (h : bytes.length ≤ tries) :
    writeWithin tries s bytes = s.pour bytes := by
  induction tries generalizing s bytes with
  | zero =>
    have hnil : bytes = [] := List.eq_nil_of_length_eq_zero (by omega)
    subst hnil
    rw [writeWithin, pour_nil]
  | succ tries ih =>
    by_cases hnil : bytes = []
    · subst hnil
      rw [writeWithin, pour_nil]
    · have hpositive : 0 < bytes.length := List.length_pos_of_ne_nil hnil
      rw [writeWithin, write]
      · by_cases hzero : s.fits bytes.length = 0
        · -- nothing fits, and the sink says so in its own way
          have hfull : ¬ s.Takes bytes.length := by
            rw [Takes, hzero]
            omega
          rw [if_pos hzero, pour_of_not_takes hfull, put_of_fits_eq_zero hzero, overflow]
          cases s.whenFull with
          | refuse => rfl
          | takeNothing => rfl
        · obtain ⟨n, hn⟩ := Nat.exists_eq_succ_of_ne_zero hzero
          have hrest : (bytes.drop (n + 1)).length ≤ tries := by
            rw [List.length_drop]
            omega
          rw [if_neg hzero, hn]
          -- a try is spent, and a byte at least is in
          show writeWithin tries (s.put bytes) (bytes.drop (n + 1)) = s.pour bytes
          rw [ih _ hrest, ← s.pour_rest bytes, hn]
      · exact hnil

theorem writeAll_eq (s : Sink) (bytes : Bytes) : s.writeAll bytes = s.pour bytes :=
  writeWithin_eq s (Nat.le_refl _)

/-- **Lines written one by one come to one pour** of all of them, with their line feeds. -/
theorem writeLines_eq (s : Sink) (ls : List Text) :
    s.writeLines ls = s.pour (Utf8.encode (ls.flatMap fun line => line ++ ['\n'])) := by
  induction ls generalizing s with
  | nil => exact (s.pour_nil).symm
  | cons line rest ih =>
    -- a line is two writes, its own characters and the line feed
    rw [writeLines, writeAll_eq, List.flatMap_cons, Utf8.encode_append, Utf8.encode_append,
      List.append_assoc, ← pour_append]
    cases s.pour (Utf8.encode line) with
    | mk after written =>
      cases written with
      | error e => rfl
      | ok _ =>
        simp only [writeAll_eq, ih]
        exact after.pour_append _ _

/-! ## What was put in, and what was reported -/

/-- What giving some bytes to a sink ends in. The sink afterwards holds as many of them as it had
room for. The report is success exactly if that is all of them, and otherwise the error that a sink
of its kind makes when it is full: its own, or that nothing was taken. -/
structure Took (s : Sink) (bytes : Bytes) (ended : Sink × Except WriteError Unit) : Prop where
  limited : ∀ room, s.room = some room →
    ended.1.held = s.held ++ bytes.take (min (room - s.held.length) bytes.length)
  unlimited : s.room = none → ended.1.held = s.held ++ bytes
  ok_iff : ended.2 = .ok () ↔ ∀ room, s.room = some room → bytes.length ≤ room - s.held.length
  failed : ended.2 ≠ .ok () → ended.2 = .error s.overflow

theorem took_pour (s : Sink) (bytes : Bytes) : s.Took bytes (s.pour bytes) where
  limited := by
    intro room hroom
    rw [pour, put, fits_of_limited hroom, Nat.min_comm]
  unlimited := by
    intro hroom
    rw [pour, put, fits_of_unlimited hroom, List.take_length]
  ok_iff := by
    rw [← takes_iff]
    by_cases htakes : s.Takes bytes.length
    · rw [pour_of_takes htakes]
      exact iff_of_true rfl htakes
    · rw [pour_of_not_takes htakes]
      exact iff_of_false nofun htakes
  failed := by
    intro hfailed
    have htakes : ¬ s.Takes bytes.length := fun h => hfailed (by rw [pour_of_takes h])
    rw [pour_of_not_takes htakes]

end Sink

namespace Mode

/-- Rendering into a sink comes to pouring the rendering. -/
theorem renderTo_eq (mode : Mode) (c : Catalog) (s : Sink) :
    mode.renderTo c s = s.pour (Utf8.encode (mode.render c)) :=
  s.writeLines_eq (mode.lines c)

theorem render_of_isEmpty (mode : Mode) {c : Catalog} (h : c.isEmpty = true) :
    mode.render c = [] := by
  have hnil : c.iter = [] := List.isEmpty_iff.mp h
  rw [render, lines, hnil]
  rfl

/-- **Rendering into a sink agrees with rendering into a text**, whatever room the sink has and
whatever it says when it is full. The text is the lines of the catalog, each with a line feed after
it. The sink is left holding its bytes as far as the room goes, wherever in a line or in a character
that ends, and the rendering succeeds exactly if it goes to the last byte. Nothing is written for a
catalog with no entries, so that one fits without any room. -/
theorem renderTo_agrees_with_render (mode : Mode) (c : Catalog) (s : Sink) :
    mode.render c = ((mode.lines c).map fun line => line ++ ['\n']).flatten
      ∧ s.Took (Utf8.encode (mode.render c)) (mode.renderTo c s)
      ∧ (c.isEmpty = true → mode.renderTo c s = (s, .ok ())) := by
  refine ⟨List.flatMap_def .., ?_, ?_⟩
  · rw [renderTo_eq]
    exact s.took_pour _
  · intro hempty
    rw [renderTo_eq, mode.render_of_isEmpty hempty]
    exact s.pour_nil

/-- A catalog of one entry, whose name starts with a letter of two bytes. -/
def accentCatalog : Catalog := (Catalog.read "0A000 E ERRCODE_ÉT\n".toList).catalog

/-- With room for one byte, half of the letter is put in and the rendering fails; twelve bytes are
just enough. -/
theorem renderTo_agrees_with_render_accentCatalog :
    (enumValues.renderTo accentCatalog ⟨some 1, .takeNothing, []⟩).1.held = [0xC3]
      ∧ (enumValues.renderTo accentCatalog ⟨some 1, .takeNothing, []⟩).2 = .error .wroteZero
      ∧ (enumValues.renderTo accentCatalog ⟨some 12, .refuse, []⟩).2 = .ok () := by
  have hlength : (Utf8.encode (enumValues.render accentCatalog)).length = 12 := by decide +kernel
  obtain ⟨-, hshort, -⟩ :=
    renderTo_agrees_with_render enumValues accentCatalog ⟨some 1, .takeNothing, []⟩
  obtain ⟨-, hexact, -⟩ :=
    renderTo_agrees_with_render enumValues accentCatalog ⟨some 12, .refuse, []⟩
  refine ⟨?_, hshort.failed ?_, hexact.ok_iff.mpr ?_⟩
  · rw [hshort.limited 1 rfl]
    decide +kernel
  · intro hok
    have hle := hshort.ok_iff.mp hok 1 rfl
    rw [hlength] at hle
    exact absurd hle (by decide)
  · rintro room ⟨⟩
    exact Nat.le_of_eq hlength

end Mode

end SqlStates
