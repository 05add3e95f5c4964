/-
Options mean the same wherever and however they are written.

A command line says of each option what its row after the mode says, and what that leaves open
is said by the row before the mode. The two rows are one then (`Setting.inForce`), in which every
option that was given is there once, and only the settings in that row reach the run. Sides,
order and spelling are lost on the way: rows with the same settings come to the same.
-/
import SqlStates.Proofs.ExitCodes
import SqlStates.Proofs.RefusedRows

set_option autoImplicit false

namespace SqlStates

/-! ## Two rows as one -/

namespace Setting

/-- The row of settings that two rows around the mode stand for: that after the mode, and of that
before it what the other leaves open. -/
def inForce (before after : List Setting) : List Setting :=
  after ++ before.filter fun g => g.option? ∉ after.map option?

theorem mem_inForce {before after : List Setting} {g : Setting} :
    g ∈ inForce before after ↔ g ∈ after ∨ g ∈ before ∧ g.option? ∉ after.map option? := by
  rw [inForce, List.mem_append, List.mem_filter, decide_eq_true_iff]

/-- With no option on both sides, all settings are in force. -/
theorem inForce_of_disjoint {before after : List Setting}
    (h : ∀ g ∈ before, g.option? ∉ after.map option?) : inForce before after = after ++ before := by
  rw [inForce, List.filter_eq_self.mpr]
  intro g hg
  exact decide_eq_true (h g hg)

/-- With no option twice on one side, none is in force twice. -/
theorem nodup_inForce {before after : List Setting} (hbefore : (before.map option?).Nodup)
    (hafter : (after.map option?).Nodup) : ((inForce before after).map option?).Nodup := by
  rw [inForce, List.map_append, List.nodup_append']
  refine ⟨hafter, ?_, ?_⟩
  · exact hbefore.sublist (List.filter_sublist.map _)
  · intro o hmem hmem'
    obtain ⟨g, hg, rfl⟩ := List.mem_map.mp hmem'
    rw [List.mem_filter, decide_eq_true_iff] at hg
    exact hg.2 hmem

/-- An option has the value given after the mode, else the one given before it. -/
theorem valueOf_inForce {before after : List Setting} (o : ValueOption) :
    valueOf o (inForce before after) = (valueOf o after).or (valueOf o before) := by
  rw [inForce, valueOf_append]
  by_cases ho : some o ∈ after.map option?
  · -- the value after the mode decides, whatever is left of the row before it
    obtain ⟨t, ht⟩ := Option.ne_none_iff_exists'.mp fun hnone => valueOf_eq_none_iff.mp hnone ho
    rw [ht, Option.some_or, Option.some_or]
  · -- no setting for the option is left out
    have hfilter : valueOf o (before.filter fun g => g.option? ∉ after.map option?)
        = valueOf o before := by
      induction before with
      | nil => rfl
      | cons g before ih =>
        by_cases hg : g.option? = some o
        · rw [List.filter_cons_of_pos (by rw [hg]; exact decide_eq_true ho)]
          simp only [valueOf, List.findSome?_cons] at ih ⊢
          rw [ih]
        · have hskip : ∀ gs, valueOf o (g :: gs) = valueOf o gs := by
            intro gs
            cases g with
            | details => rfl
            | value p t =>
              have hp : p ≠ o := by simpa [option?] using hg
              simp [valueOf, hp]
          rw [hskip, ← ih, List.filter_cons]
          split
          · exact hskip _
          · rfl
    rw [hfilter]

theorem details_mem_inForce {before after : List Setting} :
    details ∈ inForce before after ↔ details ∈ after ∨ details ∈ before := by
  rw [mem_inForce, option?, none_mem_map_option?_iff]
  by_cases hafter : details ∈ after
  · simp [hafter]
  · simp [hafter]

end Setting

open Setting (valueOf inForce Admissible)

namespace CommandLine

/-! ## What a command line says -/

/-- What a command line says as a whole. -/
def overall (c : CommandLine) : Settings := ⟨c.url, c.file, c.output, c.timeout, c.verbose⟩

/-- What a command line says as a whole is what the row in force comes to. -/
theorem overall_eq {c : CommandLine} {before after : List Setting} (hafter : Admissible after)
    (hbefore : Settings.of before = c.before) (hof : Settings.of after = c.after) :
    c.overall = Settings.of (inForce before after) := by
  have htimeout : ((valueOf .timeout after).bind seconds?).or ((valueOf .timeout before).bind seconds?)
      = ((valueOf .timeout after).or (valueOf .timeout before)).bind seconds? := by
    cases hval : valueOf .timeout after with
    | none => simp
    | some t =>
      -- a timeout after the mode will do, so it is not passed over for the one before it
      obtain ⟨n, hn⟩ := hafter.valid _ (Setting.mem_of_valueOf hval)
      simp [hn]
  have hverbose : (decide (Setting.details ∈ after) || decide (Setting.details ∈ before))
      = decide (Setting.details ∈ inForce before after) := by
    rw [← Bool.decide_or]
    exact decide_eq_decide.mpr Setting.details_mem_inForce.symm
  simp only [overall, url, file, output, timeout, verbose, ← hbefore, ← hof, Settings.of,
    Setting.valueOf_inForce, ← htimeout, ← hverbose, Option.orElse_eq_orElse, Option.orElse_eq_or]

/-- A command line that is accepted says what the row in force comes to. -/
theorem Accepted.exists_parse {mode : Mode} {before after : List Setting} {arguments : List Text}
    (h : Accepted mode before after arguments) : ∃ c, parse arguments = .ok c ∧ c.mode = mode
      ∧ c.overall = Settings.of (inForce before after) :=
  ⟨_, h.parse_eq, rfl, overall_eq h.after_admissible rfl rfl⟩

/-- Whether a command line gives two rows around a mode, with no option twice in one of them. A
setting that is not in force, as its option is given again after the mode, is one that will do. -/
structure Places (mode : Mode) (before after : List Setting) (arguments : List Text) : Prop where
  gives : Gives mode before after arguments
  before_once : (before.map Setting.option?).Nodup
  after_once : (after.map Setting.option?).Nodup
  hidden_valid : ∀ g ∈ before, g ∉ inForce before after → g.Valid

namespace Places

variable {mode : Mode} {before after : List Setting} {arguments : List Text}

/-- If the settings in force will do, the command line is accepted. -/
theorem accepted (h : Places mode before after arguments)
    (hvalid : ∀ g ∈ inForce before after, g.Valid) : Accepted mode before after arguments where
  gives := h.gives
  before_admissible := by
    refine ⟨h.before_once, ?_⟩
    intro g hg
    by_cases hforce : g ∈ inForce before after
    · exact hvalid g hforce
    · exact h.hidden_valid g hg hforce
  after_admissible := by
    refine ⟨h.after_once, ?_⟩
    intro g hg
    exact hvalid g (Setting.mem_inForce.mpr (.inl hg))

/-- If one of them will not do, the usage is at fault. -/
theorem parse_eq_usage (h : Places mode before after arguments) {g : Setting}
    (hg : g ∈ inForce before after) (hvalid : ¬ g.Valid) : parse arguments = .error .usage := by
  apply h.gives.parse_eq_usage
  rintro ⟨hbefore, hafter⟩
  rcases Setting.mem_inForce.mp hg with hg | ⟨hg, -⟩
  · exact hvalid (hafter.valid g hg)
  · exact hvalid (hbefore.valid g hg)

end Places

/-- The spellings of an option with a value: by its name, and for the output by its letter too. -/
def spellings (o : ValueOption) (t : Text) : List (List Text) :=
  [["--".toList ++ o.name, t], ["--".toList ++ (o.name ++ '=' :: t)]]
    ++ if o = .output then [["-o".toList, t], ["-o".toList ++ t], ["-o=".toList ++ t]] else []

/-- A value that has a character and starts with neither a hyphen nor an equals sign can be given in
every spelling. -/
theorem spelled_of_mem_spellings {o : ValueOption} {t : Text} (hne : t ≠ [])
    (hhyphen : t.head? ≠ some '-') (hequals : t.head? ≠ some '=') :
    ∀ a ∈ spellings o t, Spelled [.value o t] a := by
  have hplain : Argument.IsPlain t := fun h => absurd h hhyphen
  have hname : ∀ a ∈ [["--".toList ++ o.name, t], ["--".toList ++ (o.name ++ '=' :: t)]],
      Spelled [.value o t] a := by
    rw [List.forall_mem_cons, List.forall_mem_singleton]
    exact ⟨.apart o hplain, .equated o t⟩
  rw [spellings, List.forall_mem_append]
  refine ⟨hname, ?_⟩
  split
  · next ho =>
    rw [ho, List.forall_mem_cons, List.forall_mem_cons, List.forall_mem_singleton]
    refine ⟨.letters (.apart hplain) ?_, .letters (.joined hne hequals) ?_, .letters (.equated t) ?_⟩
    · simp
    · simp
    · simp
  · simp

end CommandLine

open CommandLine (Places Spelled Writes spellings)

namespace Program

/-- A run has no more of a command line than its mode and what it says as a whole. -/
theorem execute_congr (found : Surroundings) {c d : CommandLine} (hmode : c.mode = d.mode)
    (h : c.overall = d.overall) : execute found c = execute found d := by
  simp only [CommandLine.overall, Settings.mk.injEq] at h
  obtain ⟨hurl, hfile, houtput, htimeout, hverbose⟩ := h
  have hplan : c.plan found.environment = d.plan found.environment := by
    simp only [CommandLine.plan, CommandLine.source, hurl, hfile, htimeout, hmode]
  have hfilter : c.filter found.environment = d.filter found.environment := by
    rw [CommandLine.filter, CommandLine.filter, hverbose]
  simp only [execute, finish, hplan, hfilter, hmode, houtput]

/-- **Options mean the same wherever and however they are written.** A value that has a character
and starts with neither a hyphen nor an equals sign can be given in every spelling. If two command
lines have their rows of settings around one mode, in any spelling, and the same settings are in
force in both, whatever their order and their sides, then all that they leave behind is the same:
they say the same if these settings will do, and else the usage of both is at fault. Settings that
are given once are all in force; of an option that is given on both sides the setting after the mode
is, so it is as if that one only were given. -/
theorem run_eq_of_inForce_perm (around : Surroundings) {mode : Mode}
    {before after before' after' : List Setting} {arguments other : List Text}
    (h : Places mode before after arguments) (h' : Places mode before' after' other)
    (hsame : (inForce before after).Perm (inForce before' after')) :
    (∀ o t, t ≠ [] → t.head? ≠ some '-' → t.head? ≠ some '=' →
        ∀ a ∈ spellings o t, Spelled [.value o t] a)
      ∧ ((∀ g ∈ before, g.option? ∉ after.map Setting.option?) →
        inForce before after = after ++ before)
      ∧ ((∀ g ∈ inForce before after, g.Valid) →
        ∃ c d, CommandLine.parse arguments = .ok c ∧ CommandLine.parse other = .ok d
          ∧ c.mode = mode ∧ d.mode = mode ∧ c.overall = Settings.of (inForce before after)
          ∧ d.overall = Settings.of (inForce before after))
      ∧ ((∃ g ∈ inForce before after, ¬ g.Valid) →
        CommandLine.parse arguments = .error .usage ∧ CommandLine.parse other = .error .usage)
      ∧ run around arguments = run around other := by
  have hsay : (∀ g ∈ inForce before after, g.Valid) →
      ∃ c d, CommandLine.parse arguments = .ok c ∧ CommandLine.parse other = .ok d
        ∧ c.mode = mode ∧ d.mode = mode ∧ c.overall = Settings.of (inForce before after)
        ∧ d.overall = Settings.of (inForce before after) := by
    intro hvalid
    have hvalid' : ∀ g ∈ inForce before' after', g.Valid := by
      intro g hg
      exact hvalid g (hsame.mem_iff.mpr hg)
    obtain ⟨c, hc, hmode, hoverall⟩ := (h.accepted hvalid).exists_parse
    obtain ⟨d, hd, hmode', hoverall'⟩ := (h'.accepted hvalid').exists_parse
    have honce := Setting.nodup_inForce h.before_once h.after_once
    rw [← Settings.of_perm hsame honce] at hoverall'
    exact ⟨c, d, hc, hd, hmode, hmode', hoverall, hoverall'⟩
  have hfault : (∃ g ∈ inForce before after, ¬ g.Valid) →
      CommandLine.parse arguments = .error .usage ∧ CommandLine.parse other = .error .usage := by
    rintro ⟨g, hg, hvalid⟩
    exact ⟨h.parse_eq_usage hg hvalid, h'.parse_eq_usage (hsame.mem_iff.mp hg) hvalid⟩
  refine ⟨?_, Setting.inForce_of_disjoint, hsay, hfault, ?_⟩
  · intro o t hne hhyphen hequals
    exact CommandLine.spelled_of_mem_spellings hne hhyphen hequals
  · by_cases hvalid : ∀ g ∈ inForce before after, g.Valid
    · obtain ⟨c, d, hc, hd, hmode, hmode', hoverall, hoverall'⟩ := hsay hvalid
      rw [run, run, hc, hd]
      apply execute_congr
      · rw [hmode, hmode']
      · rw [hoverall, hoverall']
    · -- both command lines are answered alike, with the usage
      obtain ⟨g, hg, hnot⟩ : ∃ g ∈ inForce before after, ¬ g.Valid := by
        simpa using hvalid
      obtain ⟨husage, husage'⟩ := hfault ⟨g, hg, hnot⟩
      rw [run, run, husage, husage']

/-- The output is given on both sides, joined to a request for details after the mode: the first
path is as if it were not there. -/
theorem run_eq_of_inForce_perm_twoOutputs :
    run oneLineFile ["-oa".toList, "--file".toList, "f".toList, "enum-values".toList, "-vob".toList]
      = run oneLineFile
        ["enum-values".toList, "--output=b".toList, "--verbose".toList, "--file=f".toList] := by
  have hpath : Argument.IsPlain ['f'] := by
    intro h
    cases h
  have hbefore : Writes [.value .output ['a'], .value .file ['f']]
      ["-oa".toList, "--file".toList, "f".toList] :=
    .cons (.letters (.joined (by decide) (by decide)) (by decide)) (.cons (.apart .file hpath) .nil)
  have hafter : Writes [.details, .value .output ['b']] ["-vob".toList] :=
    .cons (.letters (.details (.joined (by decide) (by decide))) (by decide)) .nil
  have hother : Writes [.value .output ['b'], .details, .value .file ['f']]
      ["--output=b".toList, "--verbose".toList, "--file=f".toList] :=
    .cons (.equated .output ['b']) (.cons .details (.cons (.equated .file ['f']) .nil))
  have harguments : Places .enumValues [.value .output ['a'], .value .file ['f']]
      [.details, .value .output ['b']]
      ["-oa".toList, "--file".toList, "f".toList, "enum-values".toList, "-vob".toList] :=
    ⟨.intro hbefore hafter (List.mem_cons_self ..), by decide, by decide, by simp [Setting.Valid]⟩
  have hothers : Places .enumValues [] [.value .output ['b'], .details, .value .file ['f']]
      ["enum-values".toList, "--output=b".toList, "--verbose".toList, "--file=f".toList] :=
    ⟨.intro .nil hother (List.mem_cons_self ..), by decide, by decide, by simp⟩
  obtain ⟨-, -, -, -, hrun⟩ :=
    run_eq_of_inForce_perm oneLineFile harguments hothers (by decide)
  exact hrun

end Program

end SqlStates
