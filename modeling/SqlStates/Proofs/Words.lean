/-
Words, trimming, and the lines that are passed over.

A text and its trimmed form have the same words, so a line may be trimmed before it
is read. Everything about words follows from one equation, `words_append_blank`. The
last section is about the three kinds of lines that are passed over: none of them
could have been read as a data line, because its first word is no code.
-/
import Mathlib.Data.List.DropRight
import SqlStates.Catalog
import SqlStates.Proofs.CodeRoundTrip

set_option autoImplicit false

namespace SqlStates

namespace Text

/-! ## Words -/

/-- Whether a text can be a word: it is not empty and has no blank in it. -/
structure IsWord (w : Text) : Prop where
  ne_nil : w ≠ []
  not_blank : ∀ c ∈ w, isBlank c = false

instance (w : Text) : Decidable (IsWord w) :=
  decidable_of_iff (!w.isEmpty && w.all fun c => !isBlank c) (by
    rw [Bool.and_eq_true, Bool.not_eq_true', List.isEmpty_eq_false_iff, List.all_eq_true]
    simp only [Bool.not_eq_true']
    exact ⟨fun h => ⟨h.1, h.2⟩, fun h => ⟨h.ne_nil, h.not_blank⟩⟩)

/-- Words are cut at a blank. -/
theorem words_append_blank {b : Char} (hb : isBlank b) (t u : Text) :
    words (t ++ b :: u) = words t ++ words u := by
  rw [words, List.splitOnP_append_cons t u hb, List.filter_append]
  rfl

/-- A blank at the front belongs to no word. -/
theorem words_cons_blank {b : Char} (hb : isBlank b) (t : Text) : words (b :: t) = words t := by
  have h := words_append_blank hb [] t
  rwa [List.nil_append, words_nil, List.nil_append] at h

/-- Blanks at the front belong to no word. -/
theorem words_blanks_append {bs : Text} (hbs : ∀ b ∈ bs, isBlank b) (t : Text) :
    words (bs ++ t) = words t := by
  induction bs with
  | nil => rfl
  | cons b bs ih =>
    rw [List.forall_mem_cons] at hbs
    rw [List.cons_append, words_cons_blank hbs.1]
    exact ih hbs.2

/-- A text of blanks only has no words. -/
theorem words_blanks {bs : Text} (hbs : ∀ b ∈ bs, isBlank b) : words bs = [] := by
  have h := words_blanks_append hbs []
  rwa [List.append_nil, words_nil] at h

/-- Blanks at the end belong to no word. -/
theorem words_append_blanks {bs : Text} (hbs : ∀ b ∈ bs, isBlank b) (t : Text) :
    words (t ++ bs) = words t := by
  cases bs with
  | nil => rw [List.append_nil]
  | cons b bs =>
    rw [List.forall_mem_cons] at hbs
    rw [words_append_blank hbs.1, words_blanks hbs.2, List.append_nil]

/-- Characters in front of a text that are not blank belong to its first piece. -/
theorem splitOnP_append_of_not_blank {w : Text} (hw : ∀ c ∈ w, isBlank c = false) (t : Text) :
    (w ++ t).splitOnP isBlank = (t.splitOnP isBlank).modifyHead (w ++ ·) := by
  induction w with
  | nil =>
    rw [List.nil_append]
    cases t.splitOnP isBlank <;> rfl
  | cons c w ih =>
    rw [List.forall_mem_cons] at hw
    rw [List.cons_append, List.splitOnP_cons_eq_if_modifyHead, if_neg (by simp [hw.1]), ih hw.2,
      List.modifyHead_modifyHead]
    rfl

/-- A text that starts with characters that are not blank has a first word that starts with
them. -/
theorem exists_words_append {w : Text} (hne : w ≠ []) (hw : ∀ c ∈ w, isBlank c = false)
    (t : Text) : ∃ u ws, words (w ++ t) = (w ++ u) :: ws := by
  obtain ⟨u, us, hu⟩ := List.exists_cons_of_ne_nil (List.splitOnP_ne_nil isBlank t)
  refine ⟨u, us.filter fun piece => !piece.isEmpty, ?_⟩
  rw [words, splitOnP_append_of_not_blank hw, hu, List.modifyHead_cons, List.filter_cons_of_pos]
  simp [hne]

/-- No piece of a text cut at its blanks has a blank in it. -/
theorem not_blank_of_mem_splitOnP {t w : Text} (hw : w ∈ t.splitOnP isBlank) :
    ∀ c ∈ w, isBlank c = false := by
  induction t generalizing w with
  | nil =>
    rw [List.splitOnP_nil, List.mem_singleton] at hw
    simp [hw]
  | cons b t ih =>
    rw [List.splitOnP_cons_eq_if_modifyHead] at hw
    split at hw
    · rcases List.mem_cons.mp hw with rfl | hw
      · simp
      · exact ih hw
    · next hb =>
      obtain ⟨p, ps, hp⟩ := List.exists_cons_of_ne_nil (List.splitOnP_ne_nil isBlank t)
      rw [hp] at hw ih
      rcases List.mem_cons.mp hw with rfl | hw
      · refine List.forall_mem_cons.mpr ⟨by simpa using hb, ?_⟩
        exact ih (List.mem_cons_self ..)
      · exact ih (List.mem_cons_of_mem _ hw)

theorem isWord_of_mem_words {t w : Text} (hw : w ∈ words t) : IsWord w where
  ne_nil := ne_nil_of_mem_words hw
  not_blank := not_blank_of_mem_splitOnP (List.mem_of_mem_filter hw)

theorem words_word {w : Text} (hw : IsWord w) : words w = [w] := by
  have hsplit : w.splitOnP isBlank = [w] := List.splitOnP_eq_singleton hw.not_blank
  rw [words, hsplit, List.filter_cons_of_pos (by simpa using hw.ne_nil), List.filter_nil]

/-- Every text is one that ends at a blank, or nowhere, with the start of a word after it. -/
theorem exists_last_word (t : Text) :
    ∃ before w, t = before ++ w ∧ (∀ c ∈ w, isBlank c = false)
      ∧ (before = [] ∨ ∃ s b, before = s ++ [b] ∧ isBlank b = true) := by
  refine ⟨t.rdropWhile (!isBlank ·), t.rtakeWhile (!isBlank ·), ?_, ?_, ?_⟩
  · exact List.rdropWhile_append_rtakeWhile.symm
  · intro c hc
    have hblank := List.mem_rtakeWhile_imp hc
    simpa using hblank
  · by_cases hnil : t.rdropWhile (!isBlank ·) = []
    · exact .inl hnil
    · refine .inr ⟨_, _, (List.dropLast_append_getLast hnil).symm, ?_⟩
      simpa using List.rdropWhile_last_not (!isBlank ·) t hnil

/-- **A text that goes on keeps its words but the last**, and the last one goes on. -/
theorem words_append_last {t : Text} {ws : List Text} {w : Text} (h : words t = ws ++ [w])
    (u : Text) : ∃ more rest, words (t ++ u) = ws ++ (w ++ more) :: rest := by
  obtain ⟨before, v, rfl, hv, hbefore⟩ := exists_last_word t
  -- what ends at a blank has its words whatever comes after it
  have hcut : ∀ x, words (before ++ x) = words before ++ words x := by
    intro x
    rcases hbefore with rfl | ⟨s, b, rfl, hb⟩
    · rfl
    · rw [List.append_assoc, List.singleton_append, words_append_blank hb, words_append_blank hb,
        words_nil, List.append_nil]
  rw [hcut] at h
  rw [List.append_assoc, hcut]
  by_cases hnil : v = []
  · -- the last word is over, and nothing is added to it
    subst hnil
    rw [words_nil, List.append_nil] at h
    refine ⟨[], words u, ?_⟩
    rw [h, List.nil_append, List.append_nil, List.append_assoc, List.singleton_append]
  · rw [words_word ⟨hnil, hv⟩] at h
    obtain ⟨hws, hw⟩ := List.append_inj' h rfl
    obtain ⟨more, rest, hmore⟩ := exists_words_append hnil hv u
    refine ⟨more, rest, ?_⟩
    rw [hmore, hws, List.singleton_inj.mp hw]

/-- A text has no words exactly if it has nothing but blanks. -/
theorem words_eq_nil_iff {t : Text} : words t = [] ↔ ∀ c ∈ t, isBlank c := by
  refine ⟨fun h => ?_, words_blanks⟩
  induction t with
  | nil => simp
  | cons c t ih =>
    by_cases hc : isBlank c = true
    · rw [words_cons_blank hc] at h
      exact List.forall_mem_cons.mpr ⟨hc, ih h⟩
    · -- the first character would start a word
      obtain ⟨u, ws, hws⟩ := exists_words_append (w := [c]) (by simp) (by simpa using hc) t
      rw [List.singleton_append] at hws
      rw [hws] at h
      cases h

/-! ## Trimming -/

/-- Trimming takes blanks off the front, then off the end. -/
theorem trim_eq (t : Text) : trim t = (t.dropWhile isBlank).rdropWhile isBlank := rfl

/-- What trimming takes off is blank. -/
theorem exists_trim (t : Text) :
    ∃ before after, t = before ++ trim t ++ after ∧ (∀ c ∈ before, isBlank c)
      ∧ ∀ c ∈ after, isBlank c := by
  refine ⟨t.takeWhile isBlank, (t.dropWhile isBlank).rtakeWhile isBlank, ?_, ?_, ?_⟩
  · rw [trim_eq, List.append_assoc, List.rdropWhile_append_rtakeWhile, List.takeWhile_append_dropWhile]
  · exact fun c hc => List.mem_takeWhile_imp hc
  · exact fun c hc => List.mem_rtakeWhile_imp hc

/-- Trimming keeps the words. -/
theorem words_trim (t : Text) : words (trim t) = words t := by
  obtain ⟨before, after, ht, hbefore, hafter⟩ := exists_trim t
  conv_rhs => rw [ht]
  rw [words_append_blanks hafter, words_blanks_append hbefore]

/-- The characters of a trimmed text are characters of the text. -/
theorem mem_of_mem_trim {t : Text} {c : Char} (h : c ∈ trim t) : c ∈ t := by
  obtain ⟨before, after, ht, -, -⟩ := exists_trim t
  rw [ht]
  exact List.mem_append_left _ (List.mem_append_right _ h)

/-- A trimmed text does not start with a blank. -/
theorem isBlank_of_trim_eq_cons {t u : Text} {c : Char} (h : trim t = c :: u) :
    isBlank c = false := by
  -- what is trimmed off the end leaves the front as it is
  have hprefix : trim t <+: t.dropWhile isBlank := List.rdropWhile_prefix isBlank _
  obtain ⟨v, hv⟩ := hprefix
  have hhead := List.head?_dropWhile_not isBlank t
  rw [← hv, h, List.cons_append, List.head?_cons] at hhead
  exact hhead

theorem trim_blanks {bs : Text} (hbs : ∀ b ∈ bs, isBlank b) : trim bs = [] := by
  rw [trim_eq, List.dropWhile_eq_nil_iff.mpr hbs]
  rfl

/-- A text whose first character that is not blank starts a word is trimmed to one that starts with
that word. -/
theorem prefix_trim {bs w : Text} (hbs : ∀ b ∈ bs, isBlank b) (hw : IsWord w) (t : Text) :
    w <+: trim (bs ++ (w ++ t)) := by
  have hfront : (bs ++ (w ++ t)).dropWhile isBlank = w ++ t := by
    obtain ⟨c, v, rfl⟩ := List.exists_cons_of_ne_nil hw.ne_nil
    have hc : isBlank c = false := hw.not_blank c (List.mem_cons_self ..)
    rw [List.dropWhile_append_of_pos hbs, List.cons_append,
      List.dropWhile_cons_of_neg (by simp [hc])]
  rw [trim_eq, hfront]
  rcases List.prefix_or_prefix_of_prefix (List.prefix_append w t)
    (List.rdropWhile_prefix isBlank (w ++ t)) with hprefix | ⟨v, hv⟩
  · exact hprefix
  · -- nothing of the word is taken off, as only blanks are
    have hcut : (w ++ t).rdropWhile isBlank ++ (w ++ t).rtakeWhile isBlank
        = (w ++ t).rdropWhile isBlank ++ (v ++ t) := by
      rw [List.rdropWhile_append_rtakeWhile, ← List.append_assoc, hv]
    have htaken : (w ++ t).rtakeWhile isBlank = v ++ t := List.append_cancel_left hcut
    have hnil : v = [] := by
      rw [List.eq_nil_iff_forall_not_mem]
      intro c hc
      have hblank : isBlank c = true := by
        apply List.mem_rtakeWhile_imp (l := w ++ t)
        rw [htaken]
        exact List.mem_append_left _ hc
      rw [hw.not_blank c (by rw [← hv]; exact List.mem_append_right _ hc)] at hblank
      cases hblank
    rw [hnil, List.append_nil] at hv
    rw [hv]

/-- Trimming a second time takes nothing off. -/
theorem trim_trim (t : Text) : trim (trim t) = trim t := by
  have hfront : (trim t).dropWhile isBlank = trim t := by
    cases h : trim t with
    | nil => rfl
    | cons c u => rw [List.dropWhile_cons_of_neg (by simp [isBlank_of_trim_eq_cons h])]
  rw [trim_eq (trim t), hfront, trim_eq t, List.rdropWhile_idempotent]

end Text

/-! ## Reading a line -/

/-- A line is read by its words, so trimming it changes nothing. -/
theorem Entry.parse_trim (t : Text) : Entry.parse (Text.trim t) = Entry.parse t := by
  rw [Entry.parse, Text.words_trim, ← Entry.parse]

/-- The rows of words that can be read: a code, a severity, a label with its marker, and whatever
else. -/
theorem Entry.ofWords_eq_ok_iff {ws : List Text} {e : Entry} :
    Entry.ofWords ws = .ok e ↔
      ∃ code severity name rest state, ws = code :: severity :: (marker ++ name) :: rest
        ∧ SqlState.parse code = .ok state
        ∧ e = ⟨state, Severity.ofToken severity, Text.lowerCase name, rest.head?⟩ := by
  constructor
  · intro h
    rcases ws with _ | ⟨code, _ | ⟨severity, _ | ⟨label, rest⟩⟩⟩
    · cases h
    · cases h
    · cases h
    · cases hcode : SqlState.parse code with
      | error fault => simp [ofWords, hcode] at h
      | ok state =>
        cases hlabel : marker.isPrefixOf? label with
        | none => simp [ofWords, hcode, hlabel] at h
        | some name =>
          simp only [ofWords, hcode, hlabel, Except.ok.injEq] at h
          rw [← List.isPrefixOf?_eq_some_iff_append_eq.mp hlabel]
          exact ⟨code, severity, name, rest, state, rfl, hcode, h.symm⟩
  · rintro ⟨code, severity, name, rest, state, rfl, hcode, rfl⟩
    have hlabel : marker.isPrefixOf? (marker ++ name) = some name :=
      List.isPrefixOf?_eq_some_iff_append_eq.mpr rfl
    simp only [ofWords, hcode, hlabel]

/-- A line whose first word is no code is no data line. -/
theorem Entry.ofWords_of_parse_error {code : Text} {e : CodeError} (rest : List Text)
    (h : SqlState.parse code = .error e) : ∃ fault, Entry.ofWords (code :: rest) = .error fault := by
  rcases rest with _ | ⟨severity, _ | ⟨label, more⟩⟩
  · exact ⟨_, rfl⟩
  · exact ⟨_, rfl⟩
  · exact ⟨.badCode e, by simp only [Entry.ofWords, h]⟩

namespace Catalog

/-- A line that is passed over is empty, or starts with the comment sign or the heading. -/
theorem isSkipped_iff {line : Text} :
    isSkipped line ↔ line = [] ∨ ['#'] <+: line
      ∨ ['S', 'e', 'c', 't', 'i', 'o', 'n', ':'] <+: line := by
  simp only [isSkipped, Bool.or_eq_true, List.isEmpty_iff, List.isPrefixOf_iff_prefix, or_assoc]

/-- **Passing lines over loses nothing.** A line that is passed over, trimmed, is no data line. -/
theorem parse_eq_error_of_isSkipped {raw : Text} (h : isSkipped (Text.trim raw)) :
    ∃ fault, Entry.parse raw = .error fault := by
  rw [← Entry.parse_trim, Entry.parse]
  rcases isSkipped_iff.mp h with hnil | ⟨t, ht⟩ | ⟨t, ht⟩
  · rw [hnil, Text.words_nil]
    exact ⟨_, rfl⟩
  · -- the first word has the comment sign in it, which is no digit
    obtain ⟨u, ws, hws⟩ := Text.exists_words_append (w := ['#']) (by simp) (by simp; decide) t
    obtain ⟨e, he⟩ := SqlState.exists_parse_error (t := ['#'] ++ u) (.inr ⟨'#', by simp, by decide⟩)
    rw [← ht, hws]
    exact Entry.ofWords_of_parse_error ws he
  · -- the first word is as long as the heading at least, which is too long for a code
    obtain ⟨u, ws, hws⟩ :=
      Text.exists_words_append (w := ['S', 'e', 'c', 't', 'i', 'o', 'n', ':']) (by simp)
        (by simp; decide) t
    obtain ⟨e, he⟩ :=
      SqlState.exists_parse_error (t := ['S', 'e', 'c', 't', 'i', 'o', 'n', ':'] ++ u)
        (.inl (by simp only [List.length_append, List.length_cons]; omega))
    rw [← ht, hws]
    exact Entry.ofWords_of_parse_error ws he

end Catalog

end SqlStates
