/-
Layouts: every way of setting records down as a text, and what is read back.

A record is set down on a line of its own, its words with blanks between them, and
lines that say nothing may stand anywhere between the records. `LaidOut` is the relation
of a list of records to all its texts. Whatever the layout, reading such a text
succeeds, and the catalog has the first record of each code, in order. Two line ends
can come together as one break, when a line with nothing on it stands between them;
the line is lost then, and it said nothing.
-/
import SqlStates.Proofs.Concatenation

set_option autoImplicit false

namespace SqlStates

namespace Text

/-! ## Words with blanks between them -/

/-- Whether a text can stand between words of one line: blanks, none of them a break. -/
def IsGap (gap : Text) : Prop := ∀ c ∈ gap, isBlank c = true ∧ isBreak c = false

instance (gap : Text) : Decidable (IsGap gap) :=
  decidable_of_iff (gap.all fun c => isBlank c && !isBreak c) (by
    rw [List.all_eq_true, IsGap]
    simp only [Bool.and_eq_true, Bool.not_eq_true'])

theorem IsGap.blank {gap : Text} (h : IsGap gap) : ∀ c ∈ gap, isBlank c = true :=
  fun c hc => (h c hc).1

theorem IsGap.unbroken {gap : Text} (h : IsGap gap) : ∀ c ∈ gap, isBreak c = false :=
  fun c hc => (h c hc).2

/-- The texts that are words in order with a gap between any two and maybe one at the end. -/
inductive Spaced : List Text → Text → Prop
  | last {w gap : Text} : IsGap gap → Spaced [w] (w ++ gap)
  | next {w gap t : Text} {ws : List Text} :
    IsGap gap → gap ≠ [] → Spaced ws t → Spaced (w :: ws) (w ++ (gap ++ t))

/-- **The words are read back**, however wide the gaps are. -/
theorem Spaced.words_eq {ws : List Text} {t : Text} (h : Spaced ws t) (hws : ∀ w ∈ ws, IsWord w) :
    words t = ws := by
  induction h with
  | @last w gap hgap =>
    have hw : IsWord w := hws w (List.mem_cons_self ..)
    rw [words_append_blanks hgap.blank]
    exact words_word hw
  | @next w gap t ws hgap hne _ ih =>
    rw [List.forall_mem_cons] at hws
    -- the first blank of the gap ends the word, and the others belong to none
    obtain ⟨b, gap, rfl⟩ := List.exists_cons_of_ne_nil hne
    rw [IsGap, List.forall_mem_cons] at hgap
    rw [List.cons_append, words_append_blank hgap.1.1,
      words_blanks_append fun c hc => (hgap.2 c hc).1, ih hws.2,
      words_word hws.1, List.singleton_append]

theorem isBlank_of_isBreak {c : Char} (h : isBreak c = true) : isBlank c = true := by
  rw [isBreak, Bool.or_eq_true, beq_iff_eq, beq_iff_eq] at h
  rcases h with rfl | rfl
  · decide
  · decide

theorem IsWord.unbroken {w : Text} (h : IsWord w) : ∀ c ∈ w, isBreak c = false := by
  intro c hc
  rw [Bool.eq_false_iff]
  intro hbreak
  have hblank := isBlank_of_isBreak hbreak
  rw [h.not_blank c hc] at hblank
  cases hblank

theorem Spaced.unbroken {ws : List Text} {t : Text} (h : Spaced ws t) (hws : ∀ w ∈ ws, IsWord w) :
    ∀ c ∈ t, isBreak c = false := by
  induction h with
  | @last w gap hgap =>
    have hw := (hws w (List.mem_cons_self ..)).unbroken
    exact List.forall_mem_append.mpr ⟨hw, hgap.unbroken⟩
  | @next w gap t ws hgap _ _ ih =>
    rw [List.forall_mem_cons] at hws
    refine List.forall_mem_append.mpr ⟨hws.1.unbroken, ?_⟩
    exact List.forall_mem_append.mpr ⟨hgap.unbroken, ih hws.2⟩

/-! ## Lines and their ends -/

/-- The three ways of ending a line. -/
def lineEnds : List Text := [['\n'], ['\r', '\n'], ['\r']]

/-- A line and its end in front of a text make one segment more. If the end is a carriage return
and the text starts with a line feed, the two are one break, and what they lose is an empty
segment. -/
theorem segments_line {l ending : Text} (hl : ∀ c ∈ l, isBreak c = false)
    (hending : ending ∈ lineEnds) (t : Text) :
    ∃ rest, segments (l ++ (ending ++ t)) = l :: segments rest ∧ (rest = t ∨ t = '\n' :: rest) := by
  have hbreak : ∃ rest, segments (ending ++ t) = [] :: segments rest
      ∧ (rest = t ∨ t = '\n' :: rest) := by
    rw [lineEnds, List.mem_cons, List.mem_cons, List.mem_singleton] at hending
    rcases hending with rfl | rfl | rfl
    · exact segments_cons_isBreak rfl t
    · -- a break of two characters is whole, whatever comes after it
      exact ⟨t, rfl, .inl rfl⟩
    · exact segments_cons_isBreak rfl t
  obtain ⟨rest, hrest, hseam⟩ := hbreak
  refine ⟨rest, ?_, hseam⟩
  rw [segments_append_of_unbroken hl, hrest, List.modifyHead_cons, List.append_nil]

end Text

open Text (IsWord IsGap Spaced isBlank isBreak lineEnds)

/-! ## Records -/

/-- What can be set down on a data line. -/
structure Record where
  code : Text
  severity : Text
  /-- What follows the marker. -/
  label : Text
  /-- The words after the label. The first of them, if there is one, is the condition name. -/
  more : List Text
  code_length : code.length = 5
  code_alphanum : ∀ c ∈ code, c.isAlphanum
  severity_word : IsWord severity
  label_not_blank : ∀ c ∈ label, isBlank c = false
  more_words : ∀ w ∈ more, IsWord w

/-- What an entry says, with its code as it is written. -/
structure Row where
  code : Text
  severity : Severity
  name : Text
  condition : Option Text
  deriving DecidableEq

/-- The rows without those that have the code of a row before them. -/
def Row.firsts : List Row → List Row
  | [] => []
  | row :: rest => row :: (firsts rest).filter fun later => later.code ≠ row.code

/-- What an entry says. -/
def Entry.row (e : Entry) : Row := ⟨e.state.text, e.severity, e.name, e.condition⟩

/-- The severity of a word, read off its characters. -/
def Severity.named : Text → Severity
  | ['E'] => .error
  | ['W'] => .warning
  | ['S'] => .success
  | token => .other token

theorem Severity.ofToken_eq_named (token : Text) : ofToken token = named token := by
  unfold named
  split
  · rfl
  · rfl
  · rfl
  · next hE hW hS => rw [ofToken, if_neg hE, if_neg hW, if_neg hS]

namespace Record

/-- The words of a record's line. -/
def words (r : Record) : List Text := r.code :: r.severity :: (Entry.marker ++ r.label) :: r.more

/-- What a record says: the code in capitals, and the name in lower case. -/
def row (r : Record) : Row :=
  ⟨r.code.map Char.toUpper, Severity.named r.severity, Text.lowerCase r.label, r.more.head?⟩

theorem isBlank_of_isAlphanum {c : Char} (h : c.isAlphanum = true) : isBlank c = false := by
  rw [← Digit.isSome_ofChar?, Option.isSome_iff_exists] at h
  obtain ⟨d, hd⟩ := h
  refine Digit.of_ofChar? (P := fun c _ => isBlank c = false) ?_ hd
  decide +kernel

theorem isWord_of_mem_words (r : Record) : ∀ w ∈ r.words, IsWord w := by
  have hcode : IsWord r.code := by
    refine ⟨?_, fun c hc => isBlank_of_isAlphanum (r.code_alphanum c hc)⟩
    intro hnil
    have hlen := r.code_length
    rw [hnil] at hlen
    cases hlen
  have hlabel : IsWord (Entry.marker ++ r.label) := by
    refine ⟨by simp [Entry.marker], ?_⟩
    have hmarker : IsWord Entry.marker := by decide
    exact List.forall_mem_append.mpr ⟨hmarker.not_blank, r.label_not_blank⟩
  rw [words, List.forall_mem_cons, List.forall_mem_cons, List.forall_mem_cons]
  exact ⟨hcode, r.severity_word, hlabel, r.more_words⟩

/-- The words of a record are read as what the record says. -/
theorem exists_ofWords (r : Record) : ∃ e, Entry.ofWords r.words = .ok e ∧ e.row = r.row := by
  obtain ⟨state, hstate⟩ :=
    (SqlState.exists_parse_ok_iff r.code).mpr ⟨r.code_length, r.code_alphanum⟩
  refine ⟨_, Entry.ofWords_eq_ok_iff.mpr ⟨_, _, _, _, state, rfl, hstate, rfl⟩, ?_⟩
  rw [Entry.row, row, SqlState.text_of_parse_ok hstate, Severity.ofToken_eq_named]

end Record

/-! ## Layouts -/

/-- The lines that say nothing: blanks, comments and section headings. -/
inductive Noise : Text → Prop
  | blank {gap : Text} : IsGap gap → Noise gap
  | comment {gap rest : Text} : IsGap gap → (∀ c ∈ rest, isBreak c = false) →
    Noise (gap ++ (['#'] ++ rest))
  | heading {gap rest : Text} : IsGap gap → (∀ c ∈ rest, isBreak c = false) →
    Noise (gap ++ ("Section:".toList ++ rest))

/-- The lines for one record, and those for none. -/
inductive OnLine : List Record → Text → Prop
  | record {r : Record} {gap t : Text} : IsGap gap → Spaced r.words t → OnLine [r] (gap ++ t)
  | noise {t : Text} : Noise t → OnLine [] t

/-- The texts for a list of records: each on a line of its own, with lines that say nothing in any
place, and every line but the last with an end. -/
inductive LaidOut : List Record → Text → Prop
  | last {rs : List Record} {l : Text} : OnLine rs l → LaidOut rs l
  | next {rs later : List Record} {l ending t : Text} :
    OnLine rs l → ending ∈ lineEnds → LaidOut later t → LaidOut (rs ++ later) (l ++ (ending ++ t))

/-! ## What a line says -/

theorem Noise.unbroken {l : Text} (h : Noise l) : ∀ c ∈ l, isBreak c = false := by
  cases h with
  | blank hgap => exact hgap.unbroken
  | comment hgap hrest =>
    have hsign : IsWord ['#'] := by decide
    refine List.forall_mem_append.mpr ⟨hgap.unbroken, ?_⟩
    exact List.forall_mem_append.mpr ⟨hsign.unbroken, hrest⟩
  | heading hgap hrest =>
    have hheading : IsWord "Section:".toList := by decide
    refine List.forall_mem_append.mpr ⟨hgap.unbroken, ?_⟩
    exact List.forall_mem_append.mpr ⟨hheading.unbroken, hrest⟩

theorem Noise.isSkipped {l : Text} (h : Noise l) : Catalog.isSkipped (Text.trim l) := by
  rw [Catalog.isSkipped_iff]
  cases h with
  | blank hgap => exact .inl (Text.trim_blanks hgap.blank)
  | comment hgap _ =>
    exact .inr (.inl (Text.prefix_trim hgap.blank (by decide) _))
  | heading hgap _ =>
    exact .inr (.inr (Text.prefix_trim hgap.blank (by decide) _))

namespace OnLine

variable {rs : List Record} {l : Text}

theorem unbroken (h : OnLine rs l) : ∀ c ∈ l, isBreak c = false := by
  cases h with
  | @record r gap t hgap hspaced =>
    refine List.forall_mem_append.mpr ⟨hgap.unbroken, ?_⟩
    exact hspaced.unbroken r.isWord_of_mem_words
  | noise hnoise => exact hnoise.unbroken

theorem exists_parse {r : Record} (h : OnLine [r] l) :
    ∃ e, Entry.parse l = .ok e ∧ e.row = r.row := by
  cases h with
  | @record r gap t hgap hspaced =>
    rw [Entry.parse, Text.words_blanks_append hgap.blank,
      hspaced.words_eq r.isWord_of_mem_words]
    exact r.exists_ofWords

/-- No line is malformed, and each adds the rows of its records. -/
theorem reads (h : OnLine rs l) :
    ¬ Catalog.Malformed l ∧ (Catalog.accepted [l]).map Entry.row = rs.map Record.row := by
  cases h with
  | @record r gap t hgap hspaced =>
    obtain ⟨e, he, hrow⟩ := exists_parse (.record hgap hspaced)
    refine ⟨?_, ?_⟩
    · rintro ⟨-, fault, hfault⟩
      rw [Entry.parse_trim, he] at hfault
      cases hfault
    · rw [Catalog.accepted_cons_of_ok he, List.map_cons, hrow]
      rfl
  | noise hnoise =>
    have hskip := hnoise.isSkipped
    obtain ⟨fault, hfault⟩ := Catalog.parse_eq_error_of_isSkipped hskip
    refine ⟨?_, ?_⟩
    · rintro ⟨hread, -⟩
      rw [hskip] at hread
      cases hread
    · rw [Catalog.accepted_cons_of_error hfault]
      rfl

end OnLine

open Text (segments)

/-- **The lines of a layout say what the records say.** The induction is on the layout, one line at
a time; a line lost between two line ends is an empty one. -/
theorem LaidOut.reads {rs : List Record} {t : Text} (h : LaidOut rs t) :
    (∀ l ∈ segments t, ¬ Catalog.Malformed l)
      ∧ (Catalog.accepted (segments t)).map Entry.row = rs.map Record.row := by
  induction h with
  | @last rs l hline =>
    rw [Text.segments_of_unbroken hline.unbroken, List.forall_mem_singleton]
    exact hline.reads
  | @next rs later l ending t hline hending _ ih =>
    obtain ⟨rest, hsegments, hrest⟩ := Text.segments_line hline.unbroken hending t
    have hlater : (∀ l ∈ segments rest, ¬ Catalog.Malformed l)
        ∧ (Catalog.accepted (segments rest)).map Entry.row = later.map Record.row := by
      rcases hrest with rfl | rfl
      · exact ih
      · -- the next line is empty, and its line feed is the second half of this line's break
        rw [Text.segments_lf, List.forall_mem_cons] at ih
        exact ⟨ih.1.2, ih.2⟩
    rw [hsegments, List.forall_mem_cons]
    refine ⟨⟨hline.reads.1, hlater.1⟩, ?_⟩
    rw [← List.singleton_append, Catalog.accepted_append, List.map_append, List.map_append,
      hline.reads.2, hlater.2]

/-! ## Catalogs of layouts -/

namespace Catalog

theorem key_eq_iff {e f : Entry} : e.key = f.key ↔ e.row.code = f.row.code :=
  SqlState.value_eq_iff_text_eq

/-- The rows of a catalog are the first ones of those that went into it. The first entry is joined
with the catalog of the others, which loses the entry it has of the same code. -/
theorem map_row_foldl (es : List Entry) :
    (es.foldl insert empty).entries.map Entry.row = Row.firsts (es.map Entry.row) := by
  induction es with
  | nil => rfl
  | cons e es ih =>
    have hjoins := joins_foldl (empty.insert e) es
    have hiter : (empty.insert e).iter = [(e.key, e)] := iter_insert_of_none rfl
    have hkeys : (empty.insert e).keys = [e.key] := by rw [keys, hiter, List.map_singleton]
    -- leaving out a key is leaving out a code, as each entry is filed under its own key
    have hcode : ∀ p ∈ (es.foldl insert empty).iter,
        decide (p.1 ∉ [e.key]) = decide (p.2.row.code ≠ e.row.code) := by
      intro p hp
      have hiff : p.1 ∈ [e.key] ↔ p.2.row.code = e.row.code := by
        rw [List.mem_singleton, (es.foldl insert empty).filed_by_key p hp, key_eq_iff]
      exact decide_eq_decide.mpr (not_congr hiff)
    have hrest : (((es.foldl insert empty).iter.filter fun p => p.1 ∉ [e.key]).map Prod.snd).map
          Entry.row
        = (Row.firsts (es.map Entry.row)).filter fun later => later.code ≠ e.row.code := by
      rw [← ih, entries, List.map_map, List.map_map, List.filter_map, List.filter_congr hcode]
      rfl
    rw [List.foldl_cons, entries, hjoins.iter_eq, hiter, hkeys, List.map_append, List.map_append,
      hrest]
    rfl

/-- **Every layout is read back.** Set records down in any layout, and reading the text succeeds.
The catalog has the rows of the records in order, without those of a code that was there before, and
it has counted each record that it left out. -/
theorem parse_laidOut {rs : List Record} {t : Text} (h : LaidOut rs t) :
    ∃ c, parse t = .ok c ∧ c.entries.map Entry.row = Row.firsts (rs.map Record.row)
      ∧ c.size + c.duplicates = rs.length := by
  obtain ⟨hread, hrows⟩ := h.reads
  have hfault : firstFault 1 (segments t) = none := firstFault_eq_none_iff.mpr hread
  refine ⟨_, parse_eq_ok_iff_segments.mpr ⟨hfault, rfl⟩, ?_, ?_⟩
  · rw [map_row_foldl, hrows]
  · rw [(holds_foldl _).count_eq, ← List.length_map (f := Entry.row), hrows, List.length_map]

/-- A record for the code `0A000`, written in small letters. -/
def smallRecord : Record where
  code := ['0', 'a', '0', '0', '0']
  severity := ['W']
  label := ['F', 'o', 'o']
  more := [['f', 'o', 'o'], ['b', 'a', 'r']]
  code_length := rfl
  code_alphanum := List.all_eq_true.mp (by decide)
  severity_word := by decide
  label_not_blank := (by decide : IsWord ['F', 'o', 'o']).not_blank
  more_words := by
    rw [List.forall_mem_cons, List.forall_mem_singleton]
    decide

/-- A record for the same code with nothing after the marker. -/
def bareRecord : Record where
  code := ['0', 'A', '0', '0', '0']
  severity := ['E', 'E']
  label := []
  more := []
  code_length := rfl
  code_alphanum := List.all_eq_true.mp (by decide)
  severity_word := by decide
  label_not_blank := by simp
  more_words := by simp

/-- A line for the first record, with blanks of several kinds. -/
def smallLine : Text :=
  ['\u00A0'] ++ (smallRecord.code ++ (['\t'] ++ (smallRecord.severity ++ ([' ', '\u3000']
    ++ ((Entry.marker ++ smallRecord.label) ++ ([' '] ++ (['f', 'o', 'o'] ++ ([' ']
      ++ (['b', 'a', 'r'] ++ [])))))))))

/-- A line for the second one. -/
def bareLine : Text :=
  [] ++ (bareRecord.code ++ ([' '] ++ (bareRecord.severity ++ ([' ']
    ++ ((Entry.marker ++ bareRecord.label) ++ [' '])))))

/-- The two records. An empty line stands between the carriage return and the line feed after the
first, then there is a comment, and the last line does not end. -/
def twoRecords : Text :=
  smallLine ++ (['\r'] ++ ([] ++ (['\n'] ++ (([' '] ++ (['#'] ++ ['0', '0'])) ++ (['\r', '\n']
    ++ bareLine)))))

theorem laidOut_twoRecords : LaidOut [smallRecord, bareRecord] twoRecords := by
  have hsmall : OnLine [smallRecord] smallLine :=
    .record (by decide) (.next (by decide) (by decide) (.next (by decide) (by decide)
      (.next (by decide) (by decide) (.next (by decide) (by decide) (.last (by decide))))))
  have hbare : OnLine [bareRecord] bareLine :=
    .record (by decide) (.next (by decide) (by decide) (.next (by decide) (by decide)
      (.last (by decide))))
  have hcomment : OnLine [] ([' '] ++ (['#'] ++ ['0', '0'])) :=
    .noise (.comment (by decide) (by decide : IsWord ['0', '0']).unbroken)
  have hempty : OnLine [] [] := .noise (.blank (by decide))
  exact .next hsmall (by decide) (.next hempty (by decide) (.next hcomment (by decide)
    (.last hbare)))

theorem parse_laidOut_twoRecords :
    ∃ c, parse twoRecords = .ok c
      ∧ c.entries.map Entry.row = [⟨"0A000".toList, .warning, "foo".toList, some "foo".toList⟩]
      ∧ c.size + c.duplicates = 2 := by
  obtain ⟨c, hc, hrows, hcount⟩ := parse_laidOut laidOut_twoRecords
  refine ⟨c, hc, ?_, hcount⟩
  rw [hrows]
  decide +kernel

end Catalog

end SqlStates
