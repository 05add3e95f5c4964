/-
The normal form of a catalog: the plainest text that holds it.

A catalog is written down with a line for each entry, in order, the words of a line with
one space between them. This is one of the layouts of records: an entry that was read is a
record again, and what the record says is what the entry says, because its code is in
capitals already, its severity is written with the word it was read from, and its name,
being in lower case, is left as it is. No two entries have one code, so none is left out
when the text is read, and the catalog comes back as it was.
-/
import SqlStates.Proofs.Layouts
import SqlStates.Proofs.Rendering

set_option autoImplicit false

namespace SqlStates

open Text (IsWord Spaced isBlank lowerCase segments)

/-! ## Writing -/

/-- The word that a severity is written with. -/
def Severity.token : Severity → Text
  | error => ['E']
  | warning => ['W']
  | success => ['S']
  | other token => token

/-- The words of an entry's line. -/
def Entry.words (e : Entry) : List Text :=
  e.state.text :: e.severity.token :: (marker ++ e.name) :: e.condition.toList

/-- The line for an entry: its words with one space between any two. -/
def Entry.text (e : Entry) : Text := [' '].intercalate e.words

/-- The catalog written down: the lines for its entries in order, a line feed after each. -/
def Catalog.text (c : Catalog) : Text := c.entries.flatMap fun e => e.text ++ ['\n']

/-- Words with one space between any two are words with gaps between them. -/
theorem Text.spaced_intercalate (w : Text) (ws : List Text) :
    Spaced (w :: ws) ([' '].intercalate (w :: ws)) := by
  induction ws generalizing w with
  | nil =>
    have hlast : Spaced [w] (w ++ []) := .last (by simp [IsGap])
    rw [List.append_nil] at hlast
    rwa [List.intercalate_singleton]
  | cons v ws ih =>
    rw [List.intercalate_cons_cons, List.append_assoc]
    exact .next (by decide) (by simp) (ih v)

theorem Severity.token_ofToken (token : Text) : (ofToken token).token = token := by
  unfold ofToken
  split_ifs with hE hW hS
  · exact hE.symm
  · exact hW.symm
  · exact hS.symm
  · rfl

/-! ## Entries that were read -/

namespace Entry

/-- What holds of every entry that was read off a line. -/
structure IsRead (e : Entry) : Prop where
  severity_word : IsWord e.severity.token
  severity_named : Severity.named e.severity.token = e.severity
  name_not_blank : ∀ c ∈ e.name, isBlank c = false
  name_lower : lowerCase e.name = e.name
  condition_word : ∀ w ∈ e.condition.toList, IsWord w

theorem isRead_of_parse {raw : Text} {e : Entry} (h : parse raw = .ok e) : e.IsRead := by
  have hname := name_not_blank h
  obtain ⟨code, severity, name, rest, state, hwords, -, rfl⟩ := ofWords_eq_ok_iff.mp h
  have hword : ∀ w ∈ code :: severity :: (marker ++ name) :: rest, IsWord w := by
    intro w hw
    rw [← hwords] at hw
    exact Text.isWord_of_mem_words hw
  rw [List.forall_mem_cons, List.forall_mem_cons, List.forall_mem_cons] at hword
  obtain ⟨-, hseverity, -, hrest⟩ := hword
  refine ⟨?_, ?_, hname, Text.lowerCase_lowerCase name, ?_⟩
  · rwa [Severity.token_ofToken]
  · rw [Severity.token_ofToken, Severity.ofToken_eq_named]
  · intro w hw
    exact hrest w (List.mem_of_head? (Option.mem_toList.mp hw))

/-- An entry that was read is a record again. -/
def IsRead.record {e : Entry} (h : e.IsRead) : Record where
  code := e.state.text
  severity := e.severity.token
  label := e.name
  more := e.condition.toList
  code_length := e.state.length_text
  code_alphanum := ((SqlState.exists_parse_ok_iff e.state.text).mp ⟨e.state, e.state.parse_text⟩).2
  severity_word := h.severity_word
  label_not_blank := h.name_not_blank
  more_words := h.condition_word

/-- **The record of an entry says what the entry says.** -/
theorem IsRead.row_record {e : Entry} (h : e.IsRead) : h.record.row = e.row := by
  have hcode : e.state.text.map Char.toUpper = e.state.text :=
    (SqlState.text_of_parse_ok e.state.parse_text).symm
  rw [Record.row, row]
  simp only [record, hcode, h.severity_named, h.name_lower, Option.head?_toList]

theorem IsRead.onLine_text {e : Entry} (h : e.IsRead) : OnLine [h.record] e.text := by
  have hgap : Text.IsGap [] := by simp [Text.IsGap]
  have hspaced : Text.Spaced h.record.words e.text := Text.spaced_intercalate _ _
  have hline := OnLine.record hgap hspaced
  rwa [List.nil_append] at hline

/-- Different entries say different things. -/
theorem row_injective : Function.Injective row := by
  rintro ⟨state, severity, name, condition⟩ ⟨state', severity', name', condition'⟩ h
  simp only [row, Row.mk.injEq] at h
  obtain ⟨htext, rfl, rfl, rfl⟩ := h
  rw [SqlState.text_injective htext]

end Entry

/-- **Entries that were read are set down** by their lines. -/
theorem exists_laidOut {es : List Entry} (h : ∀ e ∈ es, e.IsRead) :
    ∃ rs, LaidOut rs (es.flatMap fun e => e.text ++ ['\n'])
      ∧ rs.map Record.row = es.map Entry.row := by
  induction es with
  | nil => exact ⟨[], .last (.noise (.blank (by simp [Text.IsGap]))), rfl⟩
  | cons e es ih =>
    rw [List.forall_mem_cons] at h
    obtain ⟨rs, hrs, hrows⟩ := ih h.2
    refine ⟨h.1.record :: rs, ?_, ?_⟩
    · rw [List.flatMap_cons, List.append_assoc]
      exact .next h.1.onLine_text (by decide) hrs
    · rw [List.map_cons, List.map_cons, h.1.row_record, hrows]

/-! ## Catalogs -/

namespace Catalog

theorem isRead_of_mem_entries {t : Text} {c : Catalog} (h : parse t = .ok c) :
    ∀ e ∈ c.entries, e.IsRead := by
  intro e he
  obtain ⟨p, hp, rfl⟩ := List.mem_map.mp he
  obtain ⟨raw, -, hraw⟩ := exists_line_of_mem_iter h hp
  exact Entry.isRead_of_parse hraw

/-- Entries of different codes all stay. -/
theorem foldl_insert_of_nodup {es : List Entry} (h : (es.map Entry.key).Nodup) :
    (es.foldl insert empty).iter = es.map (fun e => (e.key, e))
      ∧ (es.foldl insert empty).duplicates = 0 := by
  induction es using List.reverseRecOn with
  | nil => exact ⟨rfl, rfl⟩
  | append_singleton es e ih =>
    rw [List.map_append, List.nodup_append] at h
    obtain ⟨hiter, hduplicates⟩ := ih h.1
    have hnew : (es.foldl insert empty).get? e.key = none := by
      rw [(holds_foldl es).get?_eq, List.find?_eq_none]
      intro f hf heq
      exact h.2.2 f.key (List.mem_map_of_mem hf) e.key (by simp) (beq_iff_eq.mp heq)
    rw [List.foldl_append, List.foldl_cons, List.foldl_nil, iter_insert_of_none hnew,
      duplicates_insert_of_none hnew, hiter, List.map_append]
    exact ⟨rfl, hduplicates⟩

/-- Every entry of a catalog stands there with its own number. -/
theorem iter_eq_map_entries (c : Catalog) : c.iter = c.entries.map fun e => (e.key, e) := by
  have hpair : ∀ p ∈ c.iter, ((fun e => (e.key, e)) ∘ Prod.snd) p = id p := fun p hp =>
    Prod.ext (c.filed_by_key p hp).symm rfl
  rw [entries, List.map_map, List.map_congr_left hpair, List.map_id]

/-- The entries of a catalog make the same catalog, with nothing left out. -/
theorem foldl_insert_entries (c : Catalog) :
    c.entries.foldl insert empty = { c with duplicates := 0 } := by
  have hnodup : (c.entries.map Entry.key).Nodup := by
    have hkeys : c.keys.Nodup := c.filed.keys_nodup
    rw [keys, iter_eq_map_entries, List.map_map] at hkeys
    exact hkeys
  obtain ⟨hiter, hduplicates⟩ := foldl_insert_of_nodup hnodup
  rw [← iter_eq_map_entries] at hiter
  exact Catalog.ext (OrderedMap.ext hiter) hduplicates

/-- **The normal form.** The text of a catalog that was read, with one line for each entry in order,
can be read. Nothing is left out, and the catalog that is read has the same entries under the same
numbers in the same order; so it is rendered alike in either mode, and its text is the one that it
was read from. -/
theorem text_is_normal_form {t : Text} {c : Catalog} (h : parse t = .ok c) :
    ∃ again, parse c.text = .ok again ∧ again.duplicates = 0 ∧ again.iter = c.iter
      ∧ (∀ mode : Mode, mode.render again = mode.render c) ∧ again.text = c.text := by
  obtain ⟨rs, hlaid, hrows⟩ := exists_laidOut (isRead_of_mem_entries h)
  obtain ⟨hsound, haccepted⟩ := hlaid.reads
  -- the lines say what the entries say, and different entries say different things
  rw [hrows] at haccepted
  have hentries : accepted (segments c.text) = c.entries :=
    List.map_injective_iff.mpr Entry.row_injective haccepted
  have hfault : firstFault 1 (segments c.text) = none := firstFault_eq_none_iff.mpr hsound
  refine ⟨{ c with duplicates := 0 }, ?_, rfl, rfl, fun _ => rfl, rfl⟩
  rw [parse_eq_ok_iff_segments, hentries, foldl_insert_entries]
  exact ⟨hfault, rfl⟩

/-- A text with a repeat and a comment, a code in small letters, a severity without a name, capitals
that need more than one small letter, and a line with nothing after the marker. -/
def untidy : Text := "0a000\tQ ERRCODE_İΑΣ x y\n# c\r0A000 E ERRCODE_B\r\n00001  W ERRCODE_".toList

theorem text_is_normal_form_untidy :
    ∃ c again, parse untidy = .ok c ∧ c.duplicates = 1
      ∧ c.text = "0A000 Q ERRCODE_i\u0307ας x\n00001 W ERRCODE_\n".toList
      ∧ parse c.text = .ok again ∧ again.duplicates = 0 ∧ again.iter = c.iter := by
  have hok : parse untidy = .ok ((accepted (Text.lines untidy)).foldl insert empty) :=
    parse_eq_ok_iff.mpr ⟨by decide +kernel, rfl⟩
  obtain ⟨again, hagain, hduplicates, hiter, -⟩ := text_is_normal_form hok
  exact ⟨_, again, hok, by decide +kernel, by decide +kernel, hagain, hduplicates, hiter⟩

end Catalog

end SqlStates
