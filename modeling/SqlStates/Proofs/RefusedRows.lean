/-
The command lines of the grammar that are refused.

A row that names an option twice, or gives one a value that will not do, is refused at some argument
of it, or when its side settles. `Side.Refuses` holds of both, as the option that is at fault may be
the last one and is not judged before the side is over. So a command line of the grammar is either
accepted or refused for its usage (`CommandLine.Gives.parse_eq_usage`), wherever in it the fault is.
-/
import SqlStates.Proofs.CommandReading

set_option autoImplicit false

namespace SqlStates

open Argument (IsPlain)
open Setting (addTo addAll Admissible)
open CommandLine (Letters Spelled Writes)

/-- Settings are refused for one reason. -/
theorem Setting.eq_usage_of_addTo {s : Settings} {g : Setting} {stop : Stop}
    (h : addTo s g = .error stop) : stop = .usage := by
  cases g with
  | details =>
    rw [addTo, Settings.askDetails] at h
    split at h
    · cases h
      rfl
    · cases h
  | value o t =>
    cases o with
    | url | file | output =>
      simp only [addTo, Settings.record] at h
      split at h
      · cases h
        rfl
      · cases h
    | timeout =>
      simp only [addTo, Settings.record] at h
      split at h
      · cases h
      · cases h
        rfl

theorem Setting.eq_usage_of_addAll {s : Settings} {gs : List Setting} {stop : Stop}
    (h : addAll s gs = .error stop) : stop = .usage := by
  induction gs generalizing s with
  | nil => cases h
  | cons g gs ih =>
    rw [addAll] at h
    split at h
    · next fault hg =>
      cases h
      exact Setting.eq_usage_of_addTo hg
    · exact ih h

/-- The first argument of a spelling is an option. -/
theorem CommandLine.Spelled.exists_head {gs : List Setting} {a : List Text} (h : Spelled gs a) :
    ∃ argument more, a = argument :: more ∧ ¬ IsPlain argument ∧ argument ≠ "--".toList := by
  have hlong : ∀ rest : Text, rest ≠ [] →
      ¬ IsPlain ("--".toList ++ rest) ∧ "--".toList ++ rest ≠ "--".toList := by
    intro rest hne
    refine ⟨?_, ?_⟩
    · intro hplain
      cases hplain rfl
    · intro heq
      exact hne (List.append_right_eq_self.mp heq)
  cases h with
  | apart o ht => exact ⟨_, _, rfl, hlong _ o.name_ne_nil⟩
  | equated o t => exact ⟨_, _, rfl, hlong _ (by simp)⟩
  | details => exact ⟨_, _, rfl, hlong "verbose".toList (by decide)⟩
  | @letters _ letters _ hletters hne =>
    refine ⟨_, _, rfl, ?_, ?_⟩
    · intro hplain
      exact hne (List.cons.inj (hplain rfl)).2
    · rintro heq
      obtain rfl : letters = ['-'] := (List.cons.inj heq).2
      cases hletters

namespace Side

variable {versioned : Bool} {s t : Side} {stop : Stop}

/-- What a side comes to with a row of settings more. -/
def total (s : Side) (gs : List Setting) : Except Stop Settings :=
  match s.settle with
  | .error stop => .error stop
  | .ok n => addAll n gs

theorem total_nil (s : Side) : s.total [] = s.settle := by
  rw [total]
  cases s.settle with
  | error stop => rfl
  | ok n => rfl

theorem total_of_settle {n : Settings} (h : s.settle = .ok n) (gs : List Setting) :
    s.total gs = addAll n gs := by
  rw [total, h]

theorem total_append (s : Side) (gs hs : List Setting) :
    s.total (gs ++ hs) = match s.total gs with
      | .error stop => .error stop
      | .ok n => addAll n hs := by
  rw [total, total]
  cases s.settle with
  | error stop => rfl
  | ok n =>
    simp only
    induction gs generalizing n with
    | nil => rfl
    | cons g gs ih =>
      rw [List.cons_append, addAll, addAll]
      cases addTo n g with
      | error stop => rfl
      | ok m => exact ih m

theorem takeOption_some_eq (s : Side) (o : ValueOption) (text : Text) :
    s.takeOption o (some text) = (s.total [.value o text]).map settled := by
  rw [takeOption, total]
  cases s.settle with
  | error stop => rfl
  | ok n => simp only [Setting.addAll_singleton, addTo]

theorem takeDetails_eq (s : Side) : s.takeDetails = (s.total [.details]).map settled := by
  rw [takeDetails, total]
  cases s.settle with
  | error stop => rfl
  | ok n => simp only [Setting.addAll_singleton, addTo]

/-! ## What refusing a row is -/

/-- Whether arguments are refused: an option among them is, or they are met and what they end with
will not do. -/
inductive Refuses (versioned : Bool) (stop : Stop) (s : Side) : List Text → Prop
  | met {b c : List Text} {argument : Text} {t : Side} :
    s.takeAll versioned b = .ok t → ¬ IsPlain argument → argument ≠ "--".toList →
    t.take versioned (.of argument) = .error stop → Refuses versioned stop s (b ++ argument :: c)
  | settled {a : List Text} {t : Side} :
    s.takeAll versioned a = .ok t → t.isAwaiting = false → t.settle = .error stop →
    Refuses versioned stop s a

/-- What is met before makes no difference. -/
theorem Refuses.append_of_ok {a b : List Text} (ha : s.takeAll versioned a = .ok t)
    (h : Refuses versioned stop t b) : Refuses versioned stop s (a ++ b) := by
  cases h with
  | @met b c argument u hb hplain hne htake =>
    rw [← List.append_assoc]
    refine .met ?_ hplain hne htake
    rw [takeAll_append_of_ok ha]
    exact hb
  | settled hb hawaiting hsettle =>
    refine .settled ?_ hawaiting hsettle
    rw [takeAll_append_of_ok ha]
    exact hb

/-! ## What refuses a row -/

/-- Letters that come to no settings are refused, at once or with the value after them. -/
theorem takeLetters_of_total_error {gs : List Setting} {letters : Text} {more : List Text}
    (h : Letters gs letters more) (hs : s.isAwaiting = false) (hgs : s.total gs = .error stop) :
    s.takeLetters versioned letters = .error stop
      ∨ ∃ t u, s.takeLetters versioned letters = .ok t ∧ t.takeAll versioned more = .ok u
        ∧ u.isAwaiting = false ∧ u.settle = .error stop := by
  induction h generalizing s with
  | none =>
    rw [total_nil] at hgs
    exact .inr ⟨s, s, rfl, rfl, hs, hgs⟩
  | @details gs letters more _ ih =>
    have happend := s.total_append [.details] gs
    rw [List.singleton_append, hgs] at happend
    rw [takeLetters, takeDetails_eq]
    cases hdetails : s.total [.details] with
    | error fault =>
      rw [hdetails, Except.error.injEq] at happend
      exact .inl (by rw [happend]; rfl)
    | ok k =>
      rw [hdetails] at happend
      exact ih rfl happend.symm
  | @apart text ht =>
    cases hsettle : s.settle with
    | error fault =>
      rw [total, hsettle, Except.error.injEq] at hgs
      refine .inl ?_
      rw [takeLetters, takeOption, hsettle, hgs]
    | ok n =>
      rw [total_of_settle hsettle, Setting.addAll_singleton] at hgs
      exact .inr ⟨_, _, takeOption_none hsettle .output, takeAll_value ht .output, rfl, hgs⟩
  | @joined text hne hhead =>
    obtain ⟨c, value, rfl⟩ := List.exists_cons_of_ne_nil hne
    have hc : c ≠ '=' := by simpa using hhead
    refine .inl ?_
    rw [takeLetters, takeOption_some_eq, hgs]
    · rfl
    · simp
    · simp [hc]
  | equated text =>
    refine .inl ?_
    rw [takeLetters, takeOption_some_eq, hgs]
    rfl

/-- A spelling that comes to no settings is refused. -/
theorem refuses_of_spelled {gs : List Setting} {a : List Text} (h : Spelled gs a)
    (hs : s.isAwaiting = false) (hgs : s.total gs = .error stop) : Refuses versioned stop s a := by
  obtain ⟨argument, more, ha, hplain, hne⟩ := h.exists_head
  -- the first argument is refused, if any is
  have hfirst : s.take versioned (.of argument) = .error stop → Refuses versioned stop s a := by
    intro htake
    rw [ha]
    exact .met (b := []) rfl hplain hne htake
  cases h with
  | @apart o text ht =>
    obtain ⟨rfl, rfl⟩ := List.cons.inj ha
    cases hsettle : s.settle with
    | error fault =>
      rw [total, hsettle, Except.error.injEq] at hgs
      apply hfirst
      rw [take_name, takeOption, hsettle, hgs]
    | ok n =>
      rw [total_of_settle hsettle, Setting.addAll_singleton] at hgs
      have htake := (take_name versioned s o).trans (takeOption_none hsettle o)
      exact .settled (takeAll_cons_eq_ok_iff.mpr ⟨_, htake, takeAll_value ht o⟩) rfl hgs
  | equated o text =>
    obtain ⟨rfl, rfl⟩ := List.cons.inj ha
    apply hfirst
    rw [take_name_attached, takeOption_some_eq, hgs]
    rfl
  | details =>
    obtain ⟨rfl, rfl⟩ := List.cons.inj ha
    apply hfirst
    rw [take_verbose, takeDetails_eq, hgs]
    rfl
  | letters hletters hnil =>
    obtain ⟨rfl, rfl⟩ := List.cons.inj ha
    rcases takeLetters_of_total_error hletters hs hgs with herror | ⟨t, u, ht, hu, hawaiting, hsettle⟩
    · exact hfirst ((take_letters versioned hletters hnil s).trans herror)
    · have htake := (take_letters versioned hletters hnil s).trans ht
      exact .settled (takeAll_cons_eq_ok_iff.mpr ⟨t, htake, hu⟩) hawaiting hsettle

/-- **A row that comes to no settings is refused.** The induction is on the spellings. Those before
the fault bring the side to the settings so far; the one with the fault may be met yet, and then the
next one is refused. -/
theorem refuses_of_writes {gs : List Setting} {a : List Text} (h : Writes gs a)
    (hs : s.isAwaiting = false) (hgs : s.total gs = .error stop) : Refuses versioned stop s a := by
  induction h generalizing s with
  | nil =>
    rw [total_nil] at hgs
    exact .settled rfl hs hgs
  | @cons gs hs' a b hspelled _ ih =>
    rw [total_append] at hgs
    cases hfirst : s.total gs with
    | error fault =>
      rw [hfirst, Except.error.injEq] at hgs
      rw [hgs] at hfirst
      have hrefuses : Refuses versioned stop s a := refuses_of_spelled hspelled hs hfirst
      -- the arguments after the one that is refused are not looked at
      cases hrefuses with
      | met hb hplain hne htake =>
        rw [List.append_assoc, List.cons_append]
        exact .met hb hplain hne htake
      | settled ha hawaiting hsettle =>
        refine .append_of_ok ha (ih hawaiting ?_)
        rw [total, hsettle]
    | ok k =>
      rw [hfirst] at hgs
      obtain ⟨n, hn, hk⟩ : ∃ n, s.settle = .ok n ∧ addAll n gs = .ok k := by
        cases hsettle : s.settle with
        | error fault =>
          rw [total, hsettle] at hfirst
          cases hfirst
        | ok n =>
          rw [total_of_settle hsettle] at hfirst
          exact ⟨n, rfl, hfirst⟩
      obtain ⟨t, ht, hsettle⟩ := exists_takeAll_of_spelled versioned hspelled hn hk
      refine .append_of_ok ht (ih (isAwaiting_of_settle hsettle) ?_)
      rw [total_of_settle hsettle]
      exact hgs

/-- A side comes to settings with a row, or refuses it. -/
theorem exists_takeAll_or_refuses {gs : List Setting} {a : List Text} (h : Writes gs a) :
    (∃ u, start.takeAll versioned a = .ok u ∧ u.settle = .ok (Settings.of gs) ∧ Admissible gs)
      ∨ ¬ Admissible gs ∧ Refuses versioned .usage start a := by
  have htotal : start.total gs = addAll .blank gs := total_of_settle rfl gs
  cases hgs : addAll .blank gs with
  | ok m =>
    obtain ⟨u, hu, hsettle⟩ : ∃ u, start.takeAll versioned a = .ok u ∧ u.settle = .ok m :=
      exists_takeAll_of_writes h rfl hgs
    obtain ⟨hadmissible, rfl⟩ := Settings.addAll_blank_eq_ok_iff.mp hgs
    exact .inl ⟨u, hu, hsettle, hadmissible⟩
  | error stop =>
    obtain rfl := Setting.eq_usage_of_addAll hgs
    refine .inr ⟨?_, refuses_of_writes h rfl (htotal.trans hgs)⟩
    intro hadmissible
    rw [Settings.addAll_blank_eq_ok_iff.mpr ⟨hadmissible, rfl⟩] at hgs
    cases hgs

/-! ## What the reader makes of it -/

/-- Arguments after the mode that are refused end the reading. -/
theorem readAfter_of_refuses {a ending : List Text} (h : Refuses false stop s a)
    (hending : ending ∈ CommandLine.ends) : s.readAfter (a ++ ending) = .error stop := by
  cases h with
  | @met b c argument t hb hplain hne htake =>
    rw [List.append_assoc, List.cons_append, readAfter_append_of_ok hb, readAfter]
    split
    · next hform => exact absurd (Argument.eq_of_separator hform) hne
    · rw [htake]
  | settled ha hawaiting hsettle =>
    rw [readAfter_append_of_ok ha]
    simp only [CommandLine.ends, List.mem_cons, List.not_mem_nil, or_false] at hending
    rcases hending with rfl | rfl
    · exact hsettle
    · exact hsettle

end Side

namespace CommandLine

open Side (Refuses)

/-- Arguments before the mode that are refused end the reading, if nothing after the mode has a
different end. -/
theorem readFrom_of_refuses {mode : Mode} {s : Side} {b rest : List Text} {stop : Stop}
    (h : Refuses true stop s b)
    (hrest : ∀ fault, Side.start.readAfter rest = .error fault → fault = stop) :
    readFrom s (b ++ mode.name :: rest) = .error stop := by
  cases h with
  | @met b c argument t hb hplain hne htake =>
    obtain ⟨hmode, hhelp⟩ := names_none_of_not_isPlain hplain
    rw [List.append_assoc, List.cons_append, readFrom_append_of_ok hb, readFrom]
    simp [hmode, hhelp, htake]
  | @settled b t hb hawaiting hsettle =>
    have hname : Mode.ofName? mode.name = some mode := Mode.ofName?_eq_some_iff.mpr rfl
    rw [readFrom_append_of_ok hb, readFrom]
    cases hafter : Side.start.readAfter rest with
    | error fault => simp [hawaiting, hname, hrest fault hafter]
    | ok after => simp [hawaiting, hname, hsettle]

/-- **A command line of the grammar is accepted or refused for its usage**, and this only if one of
its rows cannot be taken. -/
theorem Gives.parse_eq_usage {mode : Mode} {before after : List Setting} {arguments : List Text}
    (h : Gives mode before after arguments) (hrows : ¬ (Admissible before ∧ Admissible after)) :
    parse arguments = .error .usage := by
  cases h with
  | @intro b a ending hb ha hending =>
    have hafter : (∃ m, Side.start.readAfter (a ++ ending) = .ok m ∧ Admissible after)
        ∨ Side.start.readAfter (a ++ ending) = .error .usage := by
      rcases Side.exists_takeAll_or_refuses ha with ⟨u, hu, hsettle, hm⟩ | ⟨-, hrefuses⟩
      · exact .inl ⟨_, Side.readAfter_eq_ok_iff.mpr ⟨a, ending, u, rfl, hending, hu, hsettle⟩, hm⟩
      · exact .inr (Side.readAfter_of_refuses hrefuses hending)
    rw [parse]
    rcases Side.exists_takeAll_or_refuses hb with ⟨u, hu, hsettle, hm⟩ | ⟨-, hrefuses⟩
    · -- the row before the mode can be taken, so it is the other one that cannot
      rcases hafter with ⟨-, -, hm'⟩ | herror
      · exact absurd ⟨hm, hm'⟩ hrows
      · have hname : Mode.ofName? mode.name = some mode := Mode.ofName?_eq_some_iff.mpr rfl
        rw [readFrom_append_of_ok hu, readFrom]
        simp [Side.isAwaiting_of_settle hsettle, hname, herror]
    · apply readFrom_of_refuses hrefuses
      intro fault hfault
      rcases hafter with ⟨m, hok, -⟩ | herror
      · rw [hok] at hfault
        cases hfault
      · rw [herror, Except.error.injEq] at hfault
        exact hfault.symm

end CommandLine

end SqlStates
