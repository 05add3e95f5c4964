/-
What a row of options comes to.

On one side of the mode the options are recorded one after the other. Recording refuses
an option that was there before and a value that will not do, and nothing else, so a row
of options is taken as a whole exactly if every option in it is new and every value will do
(`addAll_blank_eq_ok_iff`). What it comes to is then read off the row option by option, and
the order of the row has no part in it (`Settings.of_perm`).
-/
import Mathlib.Data.List.Induction
import Mathlib.Data.List.Nodup
import SqlStates.Arguments

set_option autoImplicit false

namespace SqlStates

/-- What is said with one option: its value, or that details are asked for. -/
inductive Setting where
  | value (option : ValueOption) (text : Text)
  | details
  deriving DecidableEq

namespace Setting

/-- The option that a setting gives a value to. A request for details gives none. -/
def option? : Setting → Option ValueOption
  | value o _ => some o
  | details => none

/-- Whether the value of a setting will do: a path has a character, and a timeout is a number of
seconds. Every text will do as a URL. -/
def Valid : Setting → Prop
  | value .url _ => True
  | value .file t => t ≠ []
  | value .output t => t ≠ []
  | value .timeout t => ∃ n, seconds? t = some n
  | details => True

/-- The settings of a side with one more. -/
def addTo (s : Settings) : Setting → Except Stop Settings
  | value o t => s.record o t
  | details => s.askDetails

/-- The settings of a side with a row of more, one after the other. -/
def addAll (s : Settings) : List Setting → Except Stop Settings
  | [] => .ok s
  | g :: gs =>
    match addTo s g with
    | .error stop => .error stop
    | .ok t => addAll t gs

/-- The value that a row gives to an option: the first one, if there are several. -/
def valueOf (o : ValueOption) (gs : List Setting) : Option Text :=
  gs.findSome? fun g =>
    match g with
    | value p t => if p = o then some t else none
    | details => none

/-- Whether a row can be taken: each option is there once at most, and every value will do. -/
structure Admissible (gs : List Setting) : Prop where
  once : (gs.map option?).Nodup
  valid : ∀ g ∈ gs, g.Valid

/-! ## Rows of settings -/

theorem addAll_cons_eq_ok_iff {s t : Settings} {g : Setting} {gs : List Setting} :
    addAll s (g :: gs) = .ok t ↔ ∃ m, addTo s g = .ok m ∧ addAll m gs = .ok t := by
  rw [addAll]
  cases addTo s g with
  | error stop => simp
  | ok m => simp

theorem addAll_append_eq_ok_iff {s t : Settings} {gs hs : List Setting} :
    addAll s (gs ++ hs) = .ok t ↔ ∃ m, addAll s gs = .ok m ∧ addAll m hs = .ok t := by
  induction gs generalizing s with
  | nil => simp [addAll]
  | cons g gs ih =>
    simp only [List.cons_append, addAll_cons_eq_ok_iff, ih]
    constructor
    · rintro ⟨m, hm, n, hn, ht⟩
      exact ⟨n, ⟨m, hm, hn⟩, ht⟩
    · rintro ⟨n, ⟨m, hm, hn⟩, ht⟩
      exact ⟨m, hm, n, hn, ht⟩

theorem addAll_singleton (s : Settings) (g : Setting) : addAll s [g] = addTo s g := by
  rw [addAll]
  cases addTo s g with
  | error stop => rfl
  | ok t => rfl

theorem valueOf_append (o : ValueOption) (gs hs : List Setting) :
    valueOf o (gs ++ hs) = (valueOf o gs).or (valueOf o hs) := by
  rw [valueOf, List.findSome?_append]
  rfl

theorem mem_of_valueOf {o : ValueOption} {gs : List Setting} {t : Text}
    (h : valueOf o gs = some t) : value o t ∈ gs := by
  obtain ⟨g, hg, hval⟩ := List.exists_of_findSome?_eq_some h
  cases g with
  | details => cases hval
  | value p u =>
    simp only [Option.ite_none_right_eq_some, Option.some.injEq] at hval
    rwa [← hval.1, ← hval.2]

theorem valueOf_eq_none_iff {o : ValueOption} {gs : List Setting} :
    valueOf o gs = none ↔ some o ∉ gs.map option? := by
  rw [valueOf, List.findSome?_eq_none_iff]
  constructor
  · intro h hmem
    obtain ⟨g, hg, ho⟩ := List.mem_map.mp hmem
    cases g with
    | details => cases ho
    | value p t =>
      have hnone := h _ hg
      simp only [option?, Option.some.injEq] at ho
      simp [ho] at hnone
  · intro h g hg
    cases g with
    | details => rfl
    | value p t =>
      have hne : p ≠ o := by
        rintro rfl
        exact h (List.mem_map_of_mem hg)
      exact if_neg hne

/-- In a row with no option twice, an option has the value that is given to it. -/
theorem valueOf_eq_some_iff {o : ValueOption} {gs : List Setting} {t : Text}
    (h : (gs.map option?).Nodup) : valueOf o gs = some t ↔ value o t ∈ gs := by
  refine ⟨mem_of_valueOf, ?_⟩
  intro hmem
  cases hval : valueOf o gs with
  | none => exact absurd (List.mem_map_of_mem (f := option?) hmem) (valueOf_eq_none_iff.mp hval)
  | some u =>
    -- both settings are for the option, so they are one and the same
    have heq := List.inj_on_of_nodup_map h (mem_of_valueOf hval) hmem rfl
    rw [Setting.value.injEq] at heq
    rw [heq.2]

theorem option?_eq_none_iff {g : Setting} : g.option? = none ↔ g = details := by
  cases g <;> simp [option?]

theorem none_mem_map_option?_iff {gs : List Setting} :
    none ∈ gs.map option? ↔ details ∈ gs := by
  simp only [List.mem_map, option?_eq_none_iff, exists_eq_right]

theorem Admissible.nil : Admissible [] := ⟨List.nodup_nil, by simp⟩

theorem admissible_concat_iff {gs : List Setting} {g : Setting} :
    Admissible (gs ++ [g]) ↔ Admissible gs ∧ g.option? ∉ gs.map option? ∧ g.Valid := by
  have honce : ((gs ++ [g]).map option?).Nodup
      ↔ (gs.map option?).Nodup ∧ g.option? ∉ gs.map option? := by
    rw [List.map_append, List.map_singleton, List.nodup_append_comm, List.singleton_append,
      List.nodup_cons, and_comm]
  have hvalid : (∀ h ∈ gs ++ [g], h.Valid) ↔ (∀ h ∈ gs, h.Valid) ∧ g.Valid := by
    rw [List.forall_mem_append, List.forall_mem_singleton]
  constructor
  · intro h
    exact ⟨⟨(honce.mp h.once).1, (hvalid.mp h.valid).1⟩, (honce.mp h.once).2, (hvalid.mp h.valid).2⟩
  · rintro ⟨hgs, hnew, hg⟩
    exact ⟨honce.mpr ⟨hgs.once, hnew⟩, hvalid.mpr ⟨hgs.valid, hg⟩⟩

end Setting

/-! ## Recording -/

open Setting (valueOf addTo addAll Admissible)

namespace Settings

/-- Whether an option has a value. -/
def Has (s : Settings) : ValueOption → Prop
  | .url => s.url ≠ none
  | .file => s.file ≠ none
  | .output => s.output ≠ none
  | .timeout => s.timeout ≠ none

/-- The settings with a value for an option, whatever it was before. -/
def set (s : Settings) (o : ValueOption) (t : Text) : Settings :=
  match o with
  | .url => { s with url := some t }
  | .file => { s with file := some t }
  | .output => { s with output := some t }
  | .timeout => { s with timeout := seconds? t }

/-- A value is recorded exactly if its option has none and it will do. -/
theorem record_eq_ok_iff {s m : Settings} {o : ValueOption} {t : Text} :
    s.record o t = .ok m ↔ ¬ s.Has o ∧ (Setting.value o t).Valid ∧ s.set o t = m := by
  cases o with
  | url => cases hs : s.url <;> simp [record, Has, set, Setting.Valid, hs]
  | file =>
    cases hs : s.file <;> by_cases ht : t = [] <;>
      simp [record, Has, set, Setting.Valid, hs, ht]
  | output =>
    cases hs : s.output <;> by_cases ht : t = [] <;>
      simp [record, Has, set, Setting.Valid, hs, ht]
  | timeout =>
    cases hs : s.timeout <;> cases ht : seconds? t <;>
      simp [record, Has, set, Setting.Valid, hs, ht]

theorem askDetails_eq_ok_iff {s m : Settings} :
    s.askDetails = .ok m ↔ s.verbose = false ∧ { s with verbose := true } = m := by
  rw [askDetails]
  cases hs : s.verbose <;> simp

/-! ## The settings of a row -/

/-- The settings that a row comes to, read off it option by option. -/
def of (gs : List Setting) : Settings where
  url := valueOf .url gs
  file := valueOf .file gs
  output := valueOf .output gs
  timeout := (valueOf .timeout gs).bind seconds?
  verbose := decide (Setting.details ∈ gs)

/-- An option has a value exactly if the row gives it one; a timeout that will do is a number. -/
theorem has_of_iff {gs : List Setting} (h : ∀ g ∈ gs, g.Valid) {o : ValueOption} :
    (of gs).Has o ↔ some o ∈ gs.map Setting.option? := by
  have hne : ∀ p, valueOf p gs ≠ none ↔ some p ∈ gs.map Setting.option? := by
    intro p
    rw [ne_eq, Setting.valueOf_eq_none_iff, not_not]
  cases o with
  | url => exact hne .url
  | file => exact hne .file
  | output => exact hne .output
  | timeout =>
    rw [← hne .timeout, Has, of]
    cases hval : valueOf .timeout gs with
    | none => simp
    | some t =>
      obtain ⟨n, hn⟩ := h _ (Setting.mem_of_valueOf hval)
      simp [hn]

theorem valueOf_concat {gs : List Setting} {o : ValueOption} {t : Text}
    (hnew : some o ∉ gs.map Setting.option?) (p : ValueOption) :
    valueOf p (gs ++ [.value o t]) = if o = p then some t else valueOf p gs := by
  rw [Setting.valueOf_append]
  by_cases hp : o = p
  · rw [← hp, Setting.valueOf_eq_none_iff.mpr hnew]
    simp [valueOf]
  · simp [valueOf, hp]

/-- A new value at the end of a row is set, and nothing else changes. -/
theorem of_concat_value {gs : List Setting} {o : ValueOption} {t : Text}
    (hnew : some o ∉ gs.map Setting.option?) : of (gs ++ [.value o t]) = (of gs).set o t := by
  have hdetails : Setting.details ∈ gs ++ [.value o t] ↔ Setting.details ∈ gs := by simp
  cases o <;> simp [of, set, valueOf_concat hnew, hdetails]

theorem of_concat_details (gs : List Setting) :
    of (gs ++ [.details]) = { of gs with verbose := true } := by
  have hval : ∀ p, valueOf p (gs ++ [.details]) = valueOf p gs := by
    intro p
    rw [Setting.valueOf_append]
    exact Option.or_none
  simp [of, hval]

/-- One setting more is taken exactly if its option is new and its value will do. -/
theorem addTo_of_eq_ok_iff {gs : List Setting} (h : ∀ g ∈ gs, g.Valid) {g : Setting}
    {m : Settings} :
    addTo (of gs) g = .ok m
      ↔ g.option? ∉ gs.map Setting.option? ∧ g.Valid ∧ of (gs ++ [g]) = m := by
  cases g with
  | value o t =>
    rw [addTo, record_eq_ok_iff, has_of_iff h]
    refine and_congr_right fun hnew => and_congr_right fun _ => ?_
    rw [of_concat_value hnew]
  | details =>
    rw [addTo, askDetails_eq_ok_iff, of_concat_details, Setting.option?,
      Setting.none_mem_map_option?_iff]
    simp [of, Setting.Valid]

/-- **A row is taken as a whole** exactly if no option is in it twice and every value will do. It
comes to what it says of each option. The induction is on the row from its end, as the last setting
is judged by those before it. -/
theorem addAll_blank_eq_ok_iff {gs : List Setting} {m : Settings} :
    addAll blank gs = .ok m ↔ Admissible gs ∧ of gs = m := by
  induction gs using List.reverseRecOn generalizing m with
  | nil =>
    have hblank : of [] = blank := rfl
    rw [addAll, hblank, Except.ok.injEq]
    exact (and_iff_right Setting.Admissible.nil).symm
  | append_singleton gs g ih =>
    simp only [Setting.addAll_append_eq_ok_iff, ih, Setting.addAll_singleton,
      Setting.admissible_concat_iff]
    constructor
    · rintro ⟨_, ⟨hgs, rfl⟩, hg⟩
      obtain ⟨hnew, hvalid, hm⟩ := (addTo_of_eq_ok_iff hgs.valid).mp hg
      exact ⟨⟨hgs, hnew, hvalid⟩, hm⟩
    · rintro ⟨⟨hgs, hnew, hvalid⟩, hm⟩
      exact ⟨_, ⟨hgs, rfl⟩, (addTo_of_eq_ok_iff hgs.valid).mpr ⟨hnew, hvalid, hm⟩⟩

/-- Rows with the same settings come to the same, in whatever order they have them. -/
theorem of_perm {gs hs : List Setting} (hperm : gs.Perm hs)
    (hgs : (gs.map Setting.option?).Nodup) : of gs = of hs := by
  have hhs : (hs.map Setting.option?).Nodup := (hperm.map _).nodup_iff.mp hgs
  have hval : ∀ o, valueOf o gs = valueOf o hs := by
    intro o
    apply Option.ext
    intro t
    rw [Setting.valueOf_eq_some_iff hgs, Setting.valueOf_eq_some_iff hhs]
    exact hperm.mem_iff
  simp only [of, hval, hperm.mem_iff]

end Settings

end SqlStates
