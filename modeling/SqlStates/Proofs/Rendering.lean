/-
Renderings: one line feed for each entry.

The line for an entry is made of its name, its number and fixed texts. A name is a word
in lower case: no word has a blank in it and lower-casing makes none, so the name has no
line feed, and the one that is put after the line is the only one. In UTF-8 the byte of
the line feed stands for nothing else, so the bytes can be counted in place of the
characters.
-/
import SqlStates.Mode
import SqlStates.Proofs.FirstWins
import SqlStates.Proofs.LowerCase

set_option autoImplicit false

namespace SqlStates

open Text (isBlank lines)

/-! ## Names -/

theorem Entry.name_not_blank {raw : Text} {e : Entry} (h : Entry.parse raw = .ok e) :
    ∀ c ∈ e.name, isBlank c = false := by
  obtain ⟨code, severity, name, rest, state, hwords, -, rfl⟩ := Entry.ofWords_eq_ok_iff.mp h
  have hlabel : Entry.marker ++ name ∈ Text.words raw := by
    rw [hwords]
    simp
  apply Text.not_blank_of_mem_lowerCase
  intro c hc
  exact (Text.isWord_of_mem_words hlabel).not_blank c (List.mem_append_right _ hc)

/-- Every entry of a catalog was read off a line. -/
theorem Catalog.exists_line_of_mem_iter {t : Text} {c : Catalog} (h : parse t = .ok c)
    {p : Nat × Entry} (hp : p ∈ c.iter) : ∃ raw ∈ lines t, Entry.parse raw = .ok p.2 := by
  have hholds : Holds c (accepted (lines t)) := by
    rw [(parse_eq_ok_iff.mp h).2]
    exact holds_foldl _
  have hfind := get?_of_mem_iter hp
  rw [hholds.get?_eq] at hfind
  obtain ⟨raw, hraw, hparse⟩ := List.mem_filterMap.mp (List.mem_of_find?_eq_some hfind)
  refine ⟨raw, hraw, ?_⟩
  cases hline : Entry.parse raw with
  | error fault =>
    rw [hline] at hparse
    cases hparse
  | ok e =>
    rw [hline] at hparse
    rw [Option.some.inj hparse]

/-! ## Line feeds -/

namespace Mode

theorem formatEntry_enumValues (value : Nat) (name : Text) :
    enumValues.formatEntry value name = name ++ '=' :: Text.decimal value ++ [','] := rfl

theorem formatEntry_switchCases (value : Nat) (name : Text) :
    switchCases.formatEntry value name
      = "case sqlstate::".toList ++ name ++ ": return ".toList ++ name.quoted ++ [';'] := rfl

/-- The line for a name without blanks has no line feed in it. -/
theorem lf_not_mem_formatEntry (mode : Mode) (value : Nat) {name : Text}
    (h : ∀ c ∈ name, isBlank c = false) : '\n' ∉ mode.formatEntry value name := by
  have hname : '\n' ∉ name := by
    intro hmem
    have hblank := h '\n' hmem
    cases hblank
  have hdecimal : '\n' ∉ Text.decimal value := by
    intro hmem
    rw [Text.decimal] at hmem
    have hdigit := Nat.isDigit_of_mem_toDigits (by decide) (by decide) hmem
    cases hdigit
  have hquoted : '\n' ∉ name.quoted := by
    rw [Text.quoted, List.cons_append, List.mem_cons, List.mem_append]
    rintro (h | h | h)
    · cases h
    · exact hname h
    · cases List.mem_singleton.mp h
  cases mode with
  | enumValues =>
    rw [formatEntry_enumValues, List.mem_append, List.mem_append, List.mem_cons]
    rintro ((h | h | h) | h)
    · exact hname h
    · cases h
    · exact hdecimal h
    · cases List.mem_singleton.mp h
  | switchCases =>
    have hfront : '\n' ∉ "case sqlstate::".toList := by decide
    have hmiddle : '\n' ∉ ": return ".toList := by decide
    rw [formatEntry_switchCases, List.mem_append, List.mem_append, List.mem_append,
      List.mem_append]
    rintro ((((h | h) | h) | h) | h)
    · exact hfront h
    · exact hname h
    · exact hmiddle h
    · exact hquoted h
    · cases List.mem_singleton.mp h

/-- No line for a catalog that was read has a line feed in it. -/
theorem lf_not_mem_of_mem_lines {mode : Mode} {t : Text} {c : Catalog} (h : Catalog.parse t = .ok c)
    {line : Text} (hline : line ∈ mode.lines c) : '\n' ∉ line := by
  obtain ⟨p, hp, rfl⟩ := List.mem_map.mp hline
  obtain ⟨raw, -, hraw⟩ := Catalog.exists_line_of_mem_iter h hp
  exact lf_not_mem_formatEntry mode p.1 (Entry.name_not_blank hraw)

theorem length_lines (mode : Mode) (c : Catalog) : (mode.lines c).length = c.size := by
  rw [lines, List.length_map]
  rfl

/-- **A rendering has one line feed for each entry.** -/
theorem count_lf_render (mode : Mode) {t : Text} {c : Catalog} (h : Catalog.parse t = .ok c) :
    (mode.render c).count '\n' = c.size := by
  have hcount : ∀ ls : List Text, (∀ line ∈ ls, '\n' ∉ line) →
      (ls.flatMap fun line => line ++ ['\n']).count '\n' = ls.length := by
    intro ls hls
    induction ls with
    | nil => rfl
    | cons line ls ih =>
      rw [List.forall_mem_cons] at hls
      rw [List.flatMap_cons, List.count_append, List.count_append, ih hls.2,
        List.count_eq_zero_of_not_mem hls.1, List.count_singleton_self, List.length_cons]
      omega
  rw [render, hcount _ fun line => lf_not_mem_of_mem_lines h, length_lines]

end Mode

/-! ## Bytes -/

namespace Utf8

theorem encode_append (t u : Text) : encode (t ++ u) = encode t ++ encode u := List.flatMap_append

/-- Outside of ASCII every byte of a character is 0x80 at least. -/
theorem lf_not_mem_utf8EncodeChar {c : Char} (h : ¬ c.val.toNat ≤ 0x7F) :
    10 ∉ String.utf8EncodeChar c := by
  have hhigh : ∀ n, 0x80 ≤ n → n < 0x100 → (10 : UInt8) ≠ UInt8.ofNat n := by
    intro n hlow hlt heq
    have hnat := congrArg UInt8.toNat heq
    rw [UInt8.toNat_ofNat', show (10 : UInt8).toNat = 10 from rfl] at hnat
    omega
  unfold String.utf8EncodeChar
  -- two, three or four bytes, the first of them and the others with the top bit set
  simp only [if_neg h]
  split
  · simp only [List.mem_cons, List.not_mem_nil, or_false, not_or]
    exact ⟨hhigh _ (by omega) (by omega), hhigh _ (by omega) (by omega)⟩
  · split
    · simp only [List.mem_cons, List.not_mem_nil, or_false, not_or]
      exact ⟨hhigh _ (by omega) (by omega), hhigh _ (by omega) (by omega),
        hhigh _ (by omega) (by omega)⟩
    · simp only [List.mem_cons, List.not_mem_nil, or_false, not_or]
      exact ⟨hhigh _ (by omega) (by omega), hhigh _ (by omega) (by omega),
        hhigh _ (by omega) (by omega), hhigh _ (by omega) (by omega)⟩

/-- The byte of the line feed occurs in the bytes of no other character. -/
theorem count_lf_utf8EncodeChar (c : Char) :
    (String.utf8EncodeChar c).count 10 = if c = '\n' then 1 else 0 := by
  by_cases hascii : c.val.toNat ≤ 0x7F
  · have hbyte : String.utf8EncodeChar c = [UInt8.ofNat c.toNat] := if_pos hascii
    -- one byte, which is tried for each of them
    have hall : ∀ n : Fin 128, List.count 10 [UInt8.ofNat n.val]
        = if Char.ofNat n.val = '\n' then 1 else 0 := by
      decide
    have hc := hall ⟨c.toNat, Nat.lt_succ_of_le hascii⟩
    rw [Char.ofNat_toNat] at hc
    rw [hbyte, hc]
  · have hne : c ≠ '\n' := by
      rintro rfl
      exact hascii (by decide)
    rw [List.count_eq_zero_of_not_mem (lf_not_mem_utf8EncodeChar hascii), if_neg hne]

theorem count_lf_encode (t : Text) : (encode t).count 10 = t.count '\n' := by
  induction t with
  | nil => rfl
  | cons c t ih =>
    have hcons : encode (c :: t) = String.utf8EncodeChar c ++ encode t := rfl
    rw [hcons, List.count_append, count_lf_utf8EncodeChar, ih, List.count_cons]
    simp only [beq_iff_eq]
    omega

end Utf8

end SqlStates
