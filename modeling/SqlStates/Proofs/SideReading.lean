/-
Reading the options on one side of the mode.

The reader goes from argument to argument and keeps an option whose value has not come yet, or
has come and has not been judged. `Side.Reads` writes down what such a side still demands of the
arguments: it is kept by one argument met (`reads_cons`), and so what is met as a whole is a row
of the grammar (`reads_of_takeAll`). The other way round every spelling is met
(`exists_takeAll_of_spelled`), and so is every row.
-/
import SqlStates.Proofs.CommandGrammar

set_option autoImplicit false

namespace SqlStates

open Argument (IsPlain)
open Setting (addTo addAll Admissible)

/-! ## Reading arguments one after the other -/

namespace Side

open CommandLine (Letters Spelled Writes)

/-- Meets arguments one after the other. -/
def takeAll (versioned : Bool) (s : Side) : List Text → Except Stop Side
  | [] => .ok s
  | argument :: rest =>
    match s.take versioned (.of argument) with
    | .error stop => .error stop
    | .ok t => takeAll versioned t rest

theorem takeAll_cons_eq_ok_iff {versioned : Bool} {s u : Side} {argument : Text}
    {rest : List Text} : s.takeAll versioned (argument :: rest) = .ok u ↔
      ∃ t, s.take versioned (.of argument) = .ok t ∧ t.takeAll versioned rest = .ok u := by
  rw [takeAll]
  cases s.take versioned (.of argument) with
  | error stop => simp
  | ok t => simp

theorem takeAll_append_of_ok {versioned : Bool} {s t : Side} {a : List Text}
    (h : s.takeAll versioned a = .ok t) (b : List Text) :
    s.takeAll versioned (a ++ b) = t.takeAll versioned b := by
  induction a generalizing s with
  | nil =>
    rw [takeAll, Except.ok.injEq] at h
    rw [h, List.nil_append]
  | cons argument rest ih =>
    obtain ⟨u, hu, hrest⟩ := takeAll_cons_eq_ok_iff.mp h
    rw [List.cons_append, takeAll, hu]
    exact ih hrest

/-! ### One argument -/

variable {versioned : Bool} {s u : Side} {m n : Settings}

theorem settled_eq_ok_iff {result : Except Stop Settings} :
    result.map settled = .ok u ↔ ∃ n, result = .ok n ∧ u = settled n := by
  cases result with
  | error stop => simp [Except.map]
  | ok n => simp [Except.map, eq_comm]

/-- Meeting an option settles the one before it. The value is judged at once if it is attached. -/
theorem takeOption_eq_ok_iff {o : ValueOption} {attached : Option Text} :
    s.takeOption o attached = .ok u ↔ ∃ m, s.settle = .ok m ∧
      match attached with
      | none => u = ⟨m, .awaiting o⟩
      | some t => ∃ n, m.record o t = .ok n ∧ u = settled n := by
  rw [takeOption]
  cases s.settle with
  | error stop => simp
  | ok m =>
    cases attached with
    | none => simp [eq_comm]
    | some t => simp [settled_eq_ok_iff]

theorem takeDetails_eq_ok_iff :
    s.takeDetails = .ok u ↔ ∃ m n, s.settle = .ok m ∧ m.askDetails = .ok n ∧ u = settled n := by
  rw [takeDetails]
  cases s.settle with
  | error stop => simp
  | ok m => simp [settled_eq_ok_iff]

/-- A request for help or for the version ends the reading, one way or the other. -/
theorem takeRequest_ne_ok (request : Stop) : s.takeRequest request ≠ .ok u := by
  rw [takeRequest]
  cases s.settle <;> simp

/-- The names that are met, each with what it stands for. -/
theorem takeLong_eq_ok_iff {name : Text} {attached : Option Text} :
    s.takeLong versioned name attached = .ok u ↔
      (∃ o : ValueOption, name = o.name ∧ s.takeOption o attached = .ok u)
        ∨ name = "verbose".toList ∧ attached = none ∧ s.takeDetails = .ok u := by
  rw [takeLong]
  cases ho : ValueOption.ofName? name with
  | some o =>
    have hname := ValueOption.ofName?_eq_some_iff.mp ho
    constructor
    · intro h
      exact .inl ⟨o, hname, h⟩
    · rintro (⟨p, hp, h⟩ | ⟨hverbose, -⟩)
      · rw [← ValueOption.ofName?_eq_some_iff, ho, Option.some.injEq] at hp
        rw [hp]
        exact h
      · rw [hverbose] at ho
        cases ho
  | none =>
    have hno : ¬ ∃ o : ValueOption, name = o.name ∧ s.takeOption o attached = .ok u := by
      rintro ⟨o, hname, -⟩
      rw [ValueOption.ofName?_eq_some_iff.mpr hname] at ho
      cases ho
    rw [or_iff_right hno]
    cases attached with
    | some t => simp
    | none =>
      by_cases hverbose : name = "verbose".toList
      · simp [hverbose]
      · -- what is left are requests, which end the reading, and names that are none
        have hrequest : ∀ request, s.takeRequest request ≠ .ok u := takeRequest_ne_ok
        simp only [hverbose, false_and, iff_false, if_false]
        split
        · simp
        · split
          · exact hrequest .help
          · split
            · exact hrequest .version
            · simp

/-- A side that settles has no option that waits for its value. -/
theorem isAwaiting_of_settle (h : s.settle = .ok m) : s.isAwaiting = false := by
  unfold settle at h
  unfold isAwaiting
  split at h
  · next hp => rw [hp]
  · cases h
  · next hp => rw [hp]

/-! ### What a side demands -/

/-- Whether the arguments that are left bring a side to some settings in the end: a value comes
first if one is awaited, and the rest writes a row that can be taken. -/
def Reads (s : Side) (arguments : List Text) (m : Settings) : Prop :=
  match s.pending with
  | .awaiting o => ∃ t rest, arguments = t :: rest ∧ IsPlain t ∧
      ∃ gs, Writes gs rest ∧ addAll s.settings (.value o t :: gs) = .ok m
  | _ => ∃ n gs, s.settle = .ok n ∧ Writes gs arguments ∧ addAll n gs = .ok m

variable {rest : List Text}

theorem reads_of_settle (hs : s.settle = .ok n) :
    s.Reads rest m ↔ ∃ gs, Writes gs rest ∧ addAll n gs = .ok m := by
  have hreads : s.Reads rest m ↔ ∃ k gs, s.settle = .ok k ∧ Writes gs rest ∧ addAll k gs = .ok m := by
    unfold Reads
    split
    · next o hp =>
      -- a side that awaits a value does not settle
      rw [settle, hp] at hs
      cases hs
    · rfl
  rw [hreads, hs]
  simp

/-- A value that is held is the first setting of what is still to be taken. -/
theorem reads_holding {o : ValueOption} {t : Text} :
    Reads ⟨n, .holding o t⟩ rest m ↔ ∃ gs, Writes gs rest ∧ addAll n (.value o t :: gs) = .ok m := by
  simp only [Reads, settle, Setting.addAll_cons_eq_ok_iff, addTo]
  constructor
  · rintro ⟨k, gs, hk, hgs, hm⟩
    exact ⟨gs, hgs, k, hk, hm⟩
  · rintro ⟨gs, hgs, k, hk, hm⟩
    exact ⟨k, gs, hk, hgs, hm⟩

theorem writes_of_takeOption_none {o : ValueOption} (hs : s.settle = .ok n)
    (h : s.takeOption o none = .ok u) (hrest : u.Reads rest m) :
    ∃ t more, rest = t :: more ∧ IsPlain t ∧
      ∃ gs, Writes gs more ∧ addAll n (.value o t :: gs) = .ok m := by
  obtain ⟨k, hk, rfl⟩ := takeOption_eq_ok_iff.mp h
  rw [hs, Except.ok.injEq] at hk
  rw [hk]
  exact hrest

theorem writes_of_takeOption_some {o : ValueOption} {t : Text} (hs : s.settle = .ok n)
    (h : s.takeOption o (some t) = .ok u) (hrest : u.Reads rest m) :
    ∃ gs, Writes gs rest ∧ addAll n (.value o t :: gs) = .ok m := by
  obtain ⟨k, hk, p, hp, rfl⟩ := takeOption_eq_ok_iff.mp h
  rw [hs, Except.ok.injEq] at hk
  obtain ⟨gs, hgs, hm⟩ := (reads_of_settle rfl).mp hrest
  exact ⟨gs, hgs, Setting.addAll_cons_eq_ok_iff.mpr ⟨p, hk ▸ hp, hm⟩⟩

theorem writes_of_takeDetails (hs : s.settle = .ok n) (h : s.takeDetails = .ok u)
    (hrest : u.Reads rest m) : ∃ gs, Writes gs rest ∧ addAll n (.details :: gs) = .ok m := by
  obtain ⟨k, p, hk, hp, rfl⟩ := takeDetails_eq_ok_iff.mp h
  rw [hs, Except.ok.injEq] at hk
  obtain ⟨gs, hgs, hm⟩ := (reads_of_settle rfl).mp hrest
  exact ⟨gs, hgs, Setting.addAll_cons_eq_ok_iff.mpr ⟨p, hk ▸ hp, hm⟩⟩

/-- A side that meets a letter has settled before. -/
theorem exists_settle_of_takeLetters {letters : Text} (hne : letters ≠ [])
    (h : s.takeLetters versioned letters = .ok u) : ∃ n, s.settle = .ok n := by
  cases hs : s.settle with
  | ok n => exact ⟨n, rfl⟩
  | error stop =>
    unfold takeLetters at h
    split at h
    · exact absurd rfl hne
    · simp [takeDetails, hs] at h
    · exact absurd h (takeRequest_ne_ok _)
    · exact absurd h (takeRequest_ne_ok _)
    · simp [takeOption, hs] at h
    · simp [takeOption, hs] at h
    · simp [takeOption, hs] at h
    · cases h

/-- Letters that are met are letters of the grammar. The induction is on the letters; only the one
of the output can leave a value to be awaited, and it is the last. -/
theorem letters_of_takeLetters {letters : Text} (hs : s.settle = .ok n)
    (h : s.takeLetters versioned letters = .ok u) (hrest : u.Reads rest m) :
    ∃ gs more after hs, Letters gs letters more ∧ rest = more ++ after ∧ Writes hs after
      ∧ addAll n (gs ++ hs) = .ok m := by
  fun_induction takeLetters versioned s letters generalizing n with
  | case1 s =>
    cases h
    obtain ⟨gs, hgs, hm⟩ := (reads_of_settle hs).mp hrest
    exact ⟨[], [], rest, gs, .none, rfl, hgs, hm⟩
  | case2 => cases h
  | case3 s letters t ht ih =>
    obtain ⟨k, p, hk, hp, rfl⟩ := takeDetails_eq_ok_iff.mp ht
    rw [hs, Except.ok.injEq] at hk
    obtain ⟨gs, more, after, hs, hgs, hafter, hhs, hm⟩ := ih rfl h
    refine ⟨_, more, after, hs, .details hgs, hafter, hhs, ?_⟩
    exact Setting.addAll_cons_eq_ok_iff.mpr ⟨p, hk ▸ hp, hm⟩
  | case4 => exact absurd h (takeRequest_ne_ok _)
  | case5 => exact absurd h (takeRequest_ne_ok _)
  | case6 s =>
    obtain ⟨t, after, rfl, ht, gs, hgs, hm⟩ := writes_of_takeOption_none hs h hrest
    exact ⟨_, [t], after, gs, .apart ht, rfl, hgs, hm⟩
  | case7 s t =>
    obtain ⟨gs, hgs, hm⟩ := writes_of_takeOption_some hs h hrest
    exact ⟨_, [], rest, gs, .equated t, rfl, hgs, hm⟩
  | case8 s t hnil hequals =>
    obtain ⟨gs, hgs, hm⟩ := writes_of_takeOption_some hs h hrest
    refine ⟨_, [], rest, gs, .joined hnil ?_, rfl, hgs, hm⟩
    intro hhead
    obtain ⟨value, ht⟩ := List.head?_eq_some_iff.mp hhead
    exact hequals value ht
  | case9 => cases h

/-- **One argument more.** What a side demands after an argument it has met, it demands with that
argument before. -/
theorem reads_cons {argument : Text} (h : s.take versioned (.of argument) = .ok u)
    (hrest : u.Reads rest m) : s.Reads (argument :: rest) m := by
  cases hform : Argument.of argument with
  | separator =>
    rw [hform] at h
    cases h
  | word text =>
    obtain ⟨hplain, rfl⟩ := Argument.of_eq_word_iff.mp hform
    rw [hform, take, takeWord] at h
    split at h
    · next o hp =>
      cases h
      rw [Reads, hp]
      exact ⟨text, rest, rfl, hplain, reads_holding.mp hrest⟩
    · cases h
  | long name attached =>
    have hargument := Argument.eq_of_long hform
    rw [hform, take, takeLong_eq_ok_iff] at h
    rcases h with ⟨o, rfl, hoption⟩ | ⟨rfl, rfl, hdetails⟩
    · obtain ⟨n, hs, -⟩ := takeOption_eq_ok_iff.mp hoption
      rw [reads_of_settle hs]
      cases attached with
      | none =>
        obtain ⟨t, after, rfl, ht, gs, hgs, hm⟩ := writes_of_takeOption_none hs hoption hrest
        refine ⟨_, ?_, hm⟩
        rw [hargument, Option.map_none, Option.getD_none, List.append_nil]
        exact .cons (.apart o ht) hgs
      | some t =>
        obtain ⟨gs, hgs, hm⟩ := writes_of_takeOption_some hs hoption hrest
        refine ⟨_, ?_, hm⟩
        rw [hargument]
        exact .cons (.equated o t) hgs
    · obtain ⟨n, -, hs, -, -⟩ := takeDetails_eq_ok_iff.mp hdetails
      obtain ⟨gs, hgs, hm⟩ := writes_of_takeDetails hs hdetails hrest
      rw [reads_of_settle hs]
      refine ⟨_, ?_, hm⟩
      rw [hargument]
      exact .cons .details hgs
  | short letters =>
    obtain ⟨hargument, hne⟩ := Argument.eq_of_short hform
    rw [hform, take] at h
    obtain ⟨n, hs⟩ := exists_settle_of_takeLetters hne h
    obtain ⟨gs, more, after, hs', hgs, rfl, hhs, hm⟩ := letters_of_takeLetters hs h hrest
    rw [reads_of_settle hs]
    refine ⟨_, ?_, hm⟩
    rw [hargument]
    exact .cons (.letters hgs hne) hhs

/-- **What is met is written in the grammar.** The induction is on the arguments from the last one,
where nothing is demanded any more. -/
theorem reads_of_takeAll {arguments : List Text} (h : s.takeAll versioned arguments = .ok u)
    (hu : u.settle = .ok m) : s.Reads arguments m := by
  induction arguments generalizing s with
  | nil =>
    cases h
    exact (reads_of_settle hu).mpr ⟨[], .nil, rfl⟩
  | cons argument rest ih =>
    obtain ⟨t, ht, hrest⟩ := takeAll_cons_eq_ok_iff.mp h
    exact reads_cons ht (ih hrest)

/-! ### What the grammar writes -/

theorem takeLong_name (s : Side) (o : ValueOption) (attached : Option Text) :
    s.takeLong versioned o.name attached = s.takeOption o attached := by
  rw [takeLong, ValueOption.ofName?_eq_some_iff.mpr rfl]

theorem take_name (versioned : Bool) (s : Side) (o : ValueOption) :
    s.take versioned (.of ("--".toList ++ o.name)) = s.takeOption o none := by
  have hform : Argument.of ("--".toList ++ o.name) = .long o.name none :=
    Argument.of_long o.name_ne_nil o.name_bne
  rw [hform, take, takeLong_name]

theorem take_name_attached (versioned : Bool) (s : Side) (o : ValueOption) (t : Text) :
    s.take versioned (.of ("--".toList ++ (o.name ++ '=' :: t))) = s.takeOption o (some t) := by
  have hform : Argument.of ("--".toList ++ (o.name ++ '=' :: t)) = .long o.name (some t) :=
    Argument.of_long_attached o.name_bne t
  rw [hform, take, takeLong_name]

theorem take_verbose (versioned : Bool) (s : Side) :
    s.take versioned (.of "--verbose".toList) = s.takeDetails := by
  have hform : Argument.of "--verbose".toList = .long "verbose".toList none := by rfl
  rw [hform, take]
  rfl

/-- Letters of the grammar do not start with a hyphen, so one in front of them makes no name. -/
theorem take_letters (versioned : Bool) {gs : List Setting} {letters : Text} {more : List Text}
    (h : Letters gs letters more) (hne : letters ≠ []) (s : Side) :
    s.take versioned (.of ('-' :: letters)) = s.takeLetters versioned letters := by
  obtain ⟨c, rest, rfl⟩ := List.exists_cons_of_ne_nil hne
  have hc : c ≠ '-' := by
    rintro rfl
    cases h
  rw [Argument.of_letters hc, take]

/-- A value that is awaited is held, and judged when the side settles. -/
theorem takeAll_value {t : Text} (ht : IsPlain t) (o : ValueOption) :
    takeAll versioned ⟨n, .awaiting o⟩ [t] = .ok ⟨n, .holding o t⟩ := by
  have hform : Argument.of t = .word t := Argument.of_eq_word_iff.mpr ⟨ht, rfl⟩
  rw [takeAll, hform]
  rfl

theorem takeOption_none (hs : s.settle = .ok n) (o : ValueOption) :
    s.takeOption o none = .ok ⟨n, .awaiting o⟩ :=
  takeOption_eq_ok_iff.mpr ⟨n, hs, rfl⟩

theorem takeOption_some {o : ValueOption} {t : Text} (hs : s.settle = .ok n)
    (h : addAll n [.value o t] = .ok m) : s.takeOption o (some t) = .ok (settled m) := by
  rw [Setting.addAll_singleton] at h
  exact takeOption_eq_ok_iff.mpr ⟨n, hs, m, h, rfl⟩

/-- Letters of the grammar are met, with the value after them if they have one there. -/
theorem exists_takeLetters (versioned : Bool) {gs : List Setting} {letters : Text}
    {more : List Text} (h : Letters gs letters more) (hs : s.settle = .ok n) (hm : addAll n gs = .ok m) :
    ∃ t u, s.takeLetters versioned letters = .ok t ∧ t.takeAll versioned more = .ok u
      ∧ u.settle = .ok m := by
  induction h generalizing s n with
  | none =>
    cases hm
    exact ⟨s, s, rfl, rfl, hs⟩
  | details _ ih =>
    obtain ⟨k, hk, hm⟩ := Setting.addAll_cons_eq_ok_iff.mp hm
    have hdetails : s.takeDetails = .ok (settled k) :=
      takeDetails_eq_ok_iff.mpr ⟨n, k, hs, hk, rfl⟩
    rw [takeLetters, hdetails]
    exact ih rfl hm
  | apart ht =>
    rw [Setting.addAll_singleton] at hm
    exact ⟨_, _, takeOption_none hs .output, takeAll_value ht .output, hm⟩
  | @joined t hne hhead =>
    obtain ⟨c, value, rfl⟩ := List.exists_cons_of_ne_nil hne
    have hc : c ≠ '=' := by simpa using hhead
    refine ⟨settled m, settled m, ?_, rfl, rfl⟩
    rw [takeLetters, takeOption_some hs hm]
    · simp
    · simp [hc]
  | equated t => exact ⟨settled m, settled m, takeOption_some hs hm, rfl, rfl⟩

/-- Every spelling is met. -/
theorem exists_takeAll_of_spelled (versioned : Bool) {gs : List Setting} {a : List Text}
    (h : Spelled gs a) (hs : s.settle = .ok n) (hm : addAll n gs = .ok m) :
    ∃ u, s.takeAll versioned a = .ok u ∧ u.settle = .ok m := by
  cases h with
  | @apart o t ht =>
    rw [Setting.addAll_singleton] at hm
    have htake := (take_name versioned s o).trans (takeOption_none hs o)
    exact ⟨_, takeAll_cons_eq_ok_iff.mpr ⟨_, htake, takeAll_value ht o⟩, hm⟩
  | equated o t =>
    have htake := (take_name_attached versioned s o t).trans (takeOption_some hs hm)
    exact ⟨settled m, takeAll_cons_eq_ok_iff.mpr ⟨_, htake, rfl⟩, rfl⟩
  | details =>
    rw [Setting.addAll_singleton] at hm
    have htake := (take_verbose versioned s).trans (takeDetails_eq_ok_iff.mpr ⟨n, m, hs, hm, rfl⟩)
    exact ⟨settled m, takeAll_cons_eq_ok_iff.mpr ⟨_, htake, rfl⟩, rfl⟩
  | letters hletters hne =>
    obtain ⟨t, u, ht, hu, hsettle⟩ := exists_takeLetters versioned hletters hs hm
    have htake := (take_letters versioned hletters hne s).trans ht
    exact ⟨u, takeAll_cons_eq_ok_iff.mpr ⟨t, htake, hu⟩, hsettle⟩

/-- **What the grammar writes is met**, and brings a side to the settings of the row. -/
theorem exists_takeAll_of_writes {gs : List Setting} {arguments : List Text}
    (h : Writes gs arguments) (hs : s.settle = .ok n) (hm : addAll n gs = .ok m) :
    ∃ u, s.takeAll versioned arguments = .ok u ∧ u.settle = .ok m := by
  induction h generalizing s n with
  | nil =>
    cases hm
    exact ⟨s, rfl, hs⟩
  | cons hg _ ih =>
    obtain ⟨k, hk, hm⟩ := Setting.addAll_append_eq_ok_iff.mp hm
    obtain ⟨t, ht, hsettle⟩ := exists_takeAll_of_spelled versioned hg hs hk
    rw [takeAll_append_of_ok ht]
    exact ih hsettle hm

/-- Arguments bring a side to some settings from the start exactly if they write a row that can be
taken and comes to them. -/
theorem exists_takeAll_start_iff {arguments : List Text} :
    (∃ u, start.takeAll versioned arguments = .ok u ∧ u.settle = .ok m) ↔
      ∃ gs, Writes gs arguments ∧ Admissible gs ∧ Settings.of gs = m := by
  constructor
  · rintro ⟨u, hu, hsettle⟩
    obtain ⟨gs, hgs, hm⟩ := (reads_of_settle rfl).mp (reads_of_takeAll hu hsettle)
    exact ⟨gs, hgs, Settings.addAll_blank_eq_ok_iff.mp hm⟩
  · rintro ⟨gs, hgs, hm⟩
    exact exists_takeAll_of_writes hgs rfl (Settings.addAll_blank_eq_ok_iff.mpr hm)

end Side

end SqlStates
