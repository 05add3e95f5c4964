/-
The grammar of data lines.

A data line is a code of five letters and digits, a severity, a label with its marker in front, and
whatever words else, with blanks between them and maybe around them; breaks are blanks like any
other. `Text.Spread` ties a row of words to all the texts that have these words, without looking at
how a text is cut, and the reader accepts just the lines of the grammar
(`Record.exists_setDown_iff`). A line that is none is judged by its first and its third word, and
of all that is wrong with it one thing is reported, which `Entry.Refused` tells.
-/
import SqlStates.Proofs.Layouts

set_option autoImplicit false

namespace SqlStates

namespace Text

/-! ## The texts with given words -/

/-- Whether a text has nothing but blanks. -/
def AllBlank (t : Text) : Prop := ∀ c ∈ t, isBlank c = true

/-- The texts with given words in order: there is a blank after every word but the last, and any
number of blanks can come with it, and stand at the start. -/
inductive Spread : List Text → Text → Prop
  | none {gap : Text} : AllBlank gap → Spread [] gap
  | last {gap w : Text} : AllBlank gap → IsWord w → Spread [w] (gap ++ w)
  | next {gap w t : Text} {b : Char} {ws : List Text} :
    AllBlank gap → IsWord w → isBlank b = true → Spread ws t → Spread (w :: ws) (gap ++ (w ++ b :: t))

theorem AllBlank.nil : AllBlank [] := by
  intro c hc
  cases hc

theorem AllBlank.cons {b : Char} {gap : Text} (hb : isBlank b = true) (hgap : AllBlank gap) :
    AllBlank (b :: gap) := List.forall_mem_cons.mpr ⟨hb, hgap⟩

theorem IsWord.cons {c : Char} {w : Text} (hc : isBlank c = false) (hw : IsWord w) :
    IsWord (c :: w) where
  ne_nil := List.cons_ne_nil c w
  not_blank := List.forall_mem_cons.mpr ⟨hc, hw.not_blank⟩

theorem IsWord.singleton {c : Char} (hc : isBlank c = false) : IsWord [c] where
  ne_nil := List.cons_ne_nil c []
  not_blank := List.forall_mem_singleton.mpr hc

/-- A blank in front is one more of those at the start. -/
theorem Spread.cons_blank {ws : List Text} {t : Text} {b : Char} (h : Spread ws t)
    (hb : isBlank b = true) : Spread ws (b :: t) := by
  cases h with
  | none hgap => exact .none (hgap.cons hb)
  | last hgap hw => exact .last (hgap.cons hb) hw
  | next hgap hw hc hrest => exact .next (hgap.cons hb) hw hc hrest

/-- Any other character in front starts the first word, or is a word itself if a blank comes after
it. -/
theorem Spread.exists_cons {ws : List Text} {t : Text} {c : Char} (h : Spread ws t)
    (hc : isBlank c = false) : ∃ us, Spread us (c :: t) := by
  have hword := IsWord.singleton hc
  cases h with
  | none hgap =>
    cases t with
    | nil => exact ⟨_, .last .nil hword⟩
    | cons b gap =>
      obtain ⟨hb, hgap⟩ := List.forall_mem_cons.mp hgap
      exact ⟨_, .next .nil hword hb (.none hgap)⟩
  | @last gap w hgap hw =>
    -- with no blank between, the character and the word are one
    cases gap with
    | nil => exact ⟨_, .last .nil (hw.cons hc)⟩
    | cons b gap =>
      obtain ⟨hb, hgap⟩ := List.forall_mem_cons.mp hgap
      exact ⟨_, .next .nil hword hb (.last hgap hw)⟩
  | @next gap w t b' ws hgap hw hb' hrest =>
    cases gap with
    | nil => exact ⟨_, .next .nil (hw.cons hc) hb' hrest⟩
    | cons b gap =>
      obtain ⟨hb, hgap⟩ := List.forall_mem_cons.mp hgap
      exact ⟨_, .next .nil hword hb (.next hgap hw hb' hrest)⟩

/-- Every text has words in this sense. The induction is on the text, with one character more in
front of it. -/
theorem exists_spread (t : Text) : ∃ ws, Spread ws t := by
  induction t with
  | nil => exact ⟨[], .none .nil⟩
  | cons c t ih =>
    obtain ⟨ws, hws⟩ := ih
    by_cases hc : isBlank c = true
    · exact ⟨ws, hws.cons_blank hc⟩
    · exact hws.exists_cons (by simpa using hc)

/-- The words are those that are cut. -/
theorem Spread.words_eq {ws : List Text} {t : Text} (h : Spread ws t) : words t = ws := by
  induction h with
  | none hgap => exact words_blanks hgap
  | last hgap hw => rw [words_blanks_append hgap, words_word hw]
  | next hgap hw hb _ ih =>
    rw [words_blanks_append hgap, words_append_blank hb, words_word hw, ih, List.singleton_append]

/-- **A text is cut into just the words it is spread from.** -/
theorem spread_iff {ws : List Text} {t : Text} : Spread ws t ↔ words t = ws := by
  refine ⟨Spread.words_eq, ?_⟩
  rintro rfl
  obtain ⟨ws, hws⟩ := exists_spread t
  rwa [hws.words_eq]

/-- What can come after a word: nothing, or a blank and a text with words. -/
inductive Follows : List Text → Text → Prop
  | nothing : Follows [] []
  | more {b : Char} {ws : List Text} {t : Text} : isBlank b = true → Spread ws t → Follows ws (b :: t)

/-- A first word has blanks before it, and after it what the other words are spread over. -/
theorem spread_cons_iff {w t : Text} {ws : List Text} :
    Spread (w :: ws) t ↔ ∃ gap tail, t = gap ++ (w ++ tail) ∧ AllBlank gap ∧ IsWord w
      ∧ Follows ws tail := by
  constructor
  · intro h
    cases h with
    | @last gap w hgap hw =>
      refine ⟨gap, [], ?_, hgap, hw, .nothing⟩
      rw [List.append_nil]
    | next hgap hw hb hrest => exact ⟨_, _, rfl, hgap, hw, .more hb hrest⟩
  · rintro ⟨gap, tail, rfl, hgap, hw, htail⟩
    cases htail with
    | nothing =>
      rw [List.append_nil]
      exact .last hgap hw
    | more hb hrest => exact .next hgap hw hb hrest

/-- A word that comes after another one has a blank before it. -/
theorem follows_cons_iff {w t : Text} {ws : List Text} :
    Follows (w :: ws) t ↔ ∃ gap tail, t = gap ++ (w ++ tail) ∧ AllBlank gap ∧ gap ≠ [] ∧ IsWord w
      ∧ Follows ws tail := by
  constructor
  · intro h
    cases h with
    | @more b ws t hb hrest =>
      obtain ⟨gap, tail, rfl, hgap, hw, htail⟩ := spread_cons_iff.mp hrest
      exact ⟨b :: gap, tail, rfl, hgap.cons hb, List.cons_ne_nil b gap, hw, htail⟩
  · rintro ⟨gap, tail, rfl, hgap, hne, hw, htail⟩
    obtain ⟨b, gap, rfl⟩ := List.exists_cons_of_ne_nil hne
    obtain ⟨hb, hgap⟩ := List.forall_mem_cons.mp hgap
    exact .more hb (spread_cons_iff.mpr ⟨gap, tail, rfl, hgap, hw, htail⟩)

end Text

open Text (IsWord AllBlank Spread Follows isBlank)

/-! ## Data lines -/

namespace Record

/-- The lines of a record: maybe blanks, the code, blanks, the severity, blanks, the marker with the
label, and the other words. -/
inductive SetDown (r : Record) : Text → Prop
  | intro {before gap gap' tail : Text} :
    AllBlank before → AllBlank gap → gap ≠ [] → AllBlank gap' → gap' ≠ [] → Follows r.more tail →
    SetDown r (before ++ (r.code ++ (gap ++ (r.severity
      ++ (gap' ++ ((Entry.marker ++ r.label) ++ tail))))))

/-- The lines of a record are the texts that have its words. -/
theorem setDown_iff {r : Record} {line : Text} : r.SetDown line ↔ Spread r.words line := by
  have hwords := r.isWord_of_mem_words
  rw [words, List.forall_mem_cons, List.forall_mem_cons, List.forall_mem_cons] at hwords
  obtain ⟨hcode, hseverity, hlabel, -⟩ := hwords
  rw [words]
  constructor
  · rintro ⟨hbefore, hgap, hne, hgap', hne', htail⟩
    have hthird := Text.follows_cons_iff.mpr ⟨_, _, rfl, hgap', hne', hlabel, htail⟩
    have hsecond := Text.follows_cons_iff.mpr ⟨_, _, rfl, hgap, hne, hseverity, hthird⟩
    exact Text.spread_cons_iff.mpr ⟨_, _, rfl, hbefore, hcode, hsecond⟩
  · intro h
    obtain ⟨before, _, rfl, hbefore, -, hsecond⟩ := Text.spread_cons_iff.mp h
    obtain ⟨gap, _, rfl, hgap, hne, -, hthird⟩ := Text.follows_cons_iff.mp hsecond
    obtain ⟨gap', tail, rfl, hgap', hne', -, htail⟩ := Text.follows_cons_iff.mp hthird
    exact .intro hbefore hgap hne hgap' hne' htail

/-- A line of a record is read as what the record says. -/
theorem SetDown.exists_parse {r : Record} {line : Text} (h : r.SetDown line) :
    ∃ e, Entry.parse line = .ok e ∧ e.row = r.row := by
  rw [Entry.parse, (setDown_iff.mp h).words_eq]
  exact r.exists_ofWords

/-- **The reader accepts just the lines of records.** -/
theorem exists_setDown_iff {line : Text} :
    (∃ r : Record, r.SetDown line) ↔ ∃ e, Entry.parse line = .ok e := by
  constructor
  · rintro ⟨r, hr⟩
    obtain ⟨e, he, -⟩ := hr.exists_parse
    exact ⟨e, he⟩
  · rintro ⟨e, he⟩
    obtain ⟨code, severity, name, rest, state, hwords, hstate, -⟩ := Entry.ofWords_eq_ok_iff.mp he
    have hword : ∀ w ∈ code :: severity :: (Entry.marker ++ name) :: rest, IsWord w := by
      intro w hw
      rw [← hwords] at hw
      exact Text.isWord_of_mem_words hw
    rw [List.forall_mem_cons, List.forall_mem_cons, List.forall_mem_cons] at hword
    obtain ⟨-, hseverity, hlabel, hrest⟩ := hword
    obtain ⟨hlen, hall⟩ := (SqlState.exists_parse_ok_iff code).mp ⟨state, hstate⟩
    have hname := (List.forall_mem_append.mp hlabel.not_blank).2
    refine ⟨⟨code, severity, name, rest, hlen, hall, hseverity, hname, hrest⟩, ?_⟩
    exact setDown_iff.mpr (Text.spread_iff.mpr hwords)

end Record

/-! ## What is wrong with a line -/

namespace Entry

/-- The error of a row of words that is no data line, whatever else is wrong with it: there are too
few words; else the first one is too long or too short for a code; else it has a character that
stands for no digit, of which the first is reported; else the third has no marker. -/
inductive Refused : List Text → Error → Prop
  | few {ws : List Text} : ws.length < 3 → Refused ws (.tooFewFields ws.length)
  | length {code severity label : Text} {more : List Text} : code.length ≠ 5 →
    Refused (code :: severity :: label :: more) (.codeLength code code.length)
  | digit {code severity label : Text} {more : List Text} {c : Char} : code.length = 5 →
    code.find? (fun c => !c.isAlphanum) = some c →
    Refused (code :: severity :: label :: more) (.codeDigit code c)
  | marker {code severity label : Text} {more : List Text} : code.length = 5 →
    (∀ c ∈ code, c.isAlphanum) → ¬ Entry.marker <+: label →
    Refused (code :: severity :: label :: more) (.missingMarker label)

/-- **What is reported is what the order of judging says.** -/
theorem refused_iff {ws : List Text} {e : Error} :
    Refused ws e ↔ ∃ fault, ofWords ws = .error fault ∧ fault.toError = e := by
  constructor
  · intro h
    cases h with
    | few hlen =>
      rcases ws with _ | ⟨code, _ | ⟨severity, _ | ⟨label, more⟩⟩⟩
      · exact ⟨_, rfl, rfl⟩
      · exact ⟨_, rfl, rfl⟩
      · exact ⟨_, rfl, rfl⟩
      · exact absurd hlen (by simp)
    | @length code severity label more hlen =>
      refine ⟨.badCode (.length code), ?_, rfl⟩
      simp only [ofWords, SqlState.parse_of_length_ne hlen]
    | @digit code severity label more c hlen hfind =>
      refine ⟨.badCode (.digit code c), ?_, rfl⟩
      simp only [ofWords, SqlState.parse_of_find? hlen hfind]
    | @marker code severity label more hlen hall hmarker =>
      obtain ⟨state, hstate⟩ := (SqlState.exists_parse_ok_iff code).mpr ⟨hlen, hall⟩
      have hlabel : Entry.marker.isPrefixOf? label = none := by
        rw [Option.eq_none_iff_forall_not_mem]
        intro name hname
        exact hmarker ⟨name, List.isPrefixOf?_eq_some_iff_append_eq.mp hname⟩
      refine ⟨.missingMarker label, ?_, rfl⟩
      simp only [ofWords, hstate, hlabel]
  · rintro ⟨fault, hfault, rfl⟩
    rcases ws with _ | ⟨code, _ | ⟨severity, _ | ⟨label, more⟩⟩⟩
    · cases hfault
      exact .few (by simp)
    · cases hfault
      exact .few (by simp)
    · cases hfault
      exact .few (by simp)
    · rcases SqlState.parse_cases code with ⟨hlen, hcode⟩ | ⟨hlen, c, hfind, hcode⟩ |
        ⟨hlen, hall, state, hcode⟩
      · simp only [ofWords, hcode, Except.error.injEq] at hfault
        rw [← hfault]
        exact .length hlen
      · simp only [ofWords, hcode, Except.error.injEq] at hfault
        rw [← hfault]
        exact .digit hlen hfind
      · cases hlabel : Entry.marker.isPrefixOf? label with
        | some name => simp [ofWords, hcode, hlabel] at hfault
        | none =>
          simp only [ofWords, hcode, hlabel, Except.error.injEq] at hfault
          rw [← hfault]
          refine .marker hlen hall ?_
          rintro ⟨name, hname⟩
          rw [List.isPrefixOf?_eq_some_iff_append_eq.mpr hname] at hlabel
          cases hlabel

/-- Words after the fourth say nothing. -/
theorem ofWords_take (ws : List Text) : ofWords (ws.take 4) = ofWords ws := by
  rcases ws with _ | ⟨code, _ | ⟨severity, _ | ⟨label, _ | ⟨condition, more⟩⟩⟩⟩
  · rfl
  · rfl
  · rfl
  · rfl
  · rfl

/-- No severity and no word after the label has a part in what is wrong with a line. -/
theorem Refused.of_other {code severity severity' label : Text} {more more' : List Text} {e : Error}
    (h : Refused (code :: severity :: label :: more) e) :
    Refused (code :: severity' :: label :: more') e := by
  cases h with
  | few hlen => exact absurd hlen (by simp)
  | length hlen => exact .length hlen
  | digit hlen hfind => exact .digit hlen hfind
  | marker hlen hall hmarker => exact .marker hlen hall hmarker

/-- **The reader accepts just the lines of the grammar**, and what it reads is what the record of
the line says. Every text is spread from one row of words, and the first four of these are all that
counts, in success and in failure. A line that is no data line is reported with the first thing that
is wrong with it, and whether it is one and what is reported does not depend on the severity and the
words after the label. -/
theorem parse_accepts_grammar (line : Text) :
    (∃! ws, Spread ws line)
      ∧ ((∃ e, parse line = .ok e) ↔ ∃ r : Record, r.SetDown line)
      ∧ (∀ r : Record, r.SetDown line → ∃ e, parse line = .ok e ∧ e.row = r.row)
      ∧ (∀ other ws us, Spread ws line → Spread us other → us.take 4 = ws.take 4 →
          parse other = parse line)
      ∧ (∀ e, (∃ fault, parse line = .error fault ∧ fault.toError = e)
          ↔ ∃ ws, Spread ws line ∧ Refused ws e)
      ∧ (∀ other code label severity severity' more more',
          Spread (code :: severity :: label :: more) line →
          Spread (code :: severity' :: label :: more') other →
          ∀ e, (∃ fault, parse line = .error fault ∧ fault.toError = e)
            ↔ ∃ fault, parse other = .error fault ∧ fault.toError = e) := by
  have hrefused : ∀ {t : Text} {ws : List Text} {e : Error}, Spread ws t →
      ((∃ fault, parse t = .error fault ∧ fault.toError = e) ↔ Refused ws e) := by
    intro t ws e h
    rw [refused_iff, parse, h.words_eq]
  refine ⟨?_, Record.exists_setDown_iff.symm, fun r hr => hr.exists_parse, ?_, ?_, ?_⟩
  · refine ⟨Text.words line, Text.spread_iff.mpr rfl, ?_⟩
    intro ws hws
    exact hws.words_eq.symm
  · intro other ws us hws hus htake
    rw [parse, parse, hus.words_eq, hws.words_eq, ← ofWords_take us, htake, ofWords_take]
  · intro e
    constructor
    · intro h
      have hwords : Spread (Text.words line) line := Text.spread_iff.mpr rfl
      exact ⟨_, hwords, (hrefused hwords).mp h⟩
    · rintro ⟨ws, hws, h⟩
      exact (hrefused hws).mpr h
  · intro other code label severity severity' more more' hline hother e
    rw [hrefused hline, hrefused hother]
    exact ⟨Refused.of_other, Refused.of_other⟩

-- the code is too long and the label has no marker, and a no-break space is a blank
example : parse "\u00a012345x E other".toList = .error (.badCode (.length "12345x".toList)) := by
  decide +kernel

end Entry

end SqlStates
