/-
Reading generated lines back.

Neither mode escapes a name, and a name can hold any character that is not blank, the ones
that the lines are made with among them. The lines can be read back all the same. No name
has a line feed, so a rendering falls into its lines. The number after a name is made of
digits, so the equals sign before it is the last one on the line. In a case the name stands
twice between texts of known lengths, so the length of the line tells that of the name.
-/
import SqlStates.Proofs.Rendering

set_option autoImplicit false

namespace SqlStates

/-! ## Cutting texts -/

namespace Text

/-- The parts of a text before and after the last place where a character stands, if it stands
anywhere. -/
def cutLast? (c : Char) : Text → Option (Text × Text)
  | [] => none
  | b :: rest =>
    match cutLast? c rest with
    | some (before, after) => some (b :: before, after)
    | none => if b = c then some ([], rest) else none

theorem cutLast?_of_not_mem {c : Char} {t : Text} (h : c ∉ t) : cutLast? c t = none := by
  induction t with
  | nil => rfl
  | cons b t ih =>
    rw [List.mem_cons, not_or] at h
    rw [cutLast?, ih h.2]
    exact if_neg (Ne.symm h.1)

/-- **The last place is the one that no other comes after**, whatever comes before it. -/
theorem cutLast?_append {c : Char} {after : Text} (h : c ∉ after) (before : Text) :
    cutLast? c (before ++ c :: after) = some (before, after) := by
  induction before with
  | nil =>
    rw [List.nil_append, cutLast?, cutLast?_of_not_mem h]
    exact if_pos rfl
  | cons b before ih => rw [List.cons_append, cutLast?, ih]

/-- The number that decimal digits stand for. -/
def decimalValue? (digits : Text) : Option Nat :=
  if !digits.isEmpty && digits.all Char.isDigit then some (Nat.ofDigitChars 10 digits 0) else none

theorem isDigit_of_mem_decimal {n : Nat} {c : Char} (h : c ∈ decimal n) : c.isDigit = true :=
  Nat.isDigit_of_mem_toDigits (by decide) (by decide) h

theorem decimalValue?_decimal (n : Nat) : decimalValue? (decimal n) = some n := by
  have hne : decimal n ≠ [] := Nat.toDigits_ne_nil
  have hdigits : (decimal n).all Char.isDigit = true := by
    rw [List.all_eq_true]
    intro c hc
    exact isDigit_of_mem_decimal hc
  rw [decimalValue?, if_pos (by simp [hne, hdigits]), decimal, Nat.ofDigitChars_ten_toDigits]

/-- A row of lines, each with a line feed after it, is cut at its line feeds into the lines and an
empty rest. -/
theorem splitOn_flatMap_lf {ls : List Text} (h : ∀ line ∈ ls, '\n' ∉ line) :
    (ls.flatMap fun line => line ++ ['\n']).splitOn '\n' = ls ++ [[]] := by
  induction ls with
  | nil => rfl
  | cons line ls ih =>
    rw [List.forall_mem_cons] at h
    rw [List.flatMap_cons, List.append_assoc, List.singleton_append, List.splitOn_append_cons_self,
      List.splitOn_eq_singleton h.1, ih h.2]
    rfl

end Text

/-! ## Reading lines -/

/-- The names of a catalog with their numbers, in order. -/
def Catalog.namedValues (c : Catalog) : List (Text × Nat) := c.iter.map fun p => (p.2.name, p.1)

/-- The names of a catalog in order. -/
def Catalog.names (c : Catalog) : List Text := c.iter.map fun p => p.2.name

namespace Mode

/-- The name and the number on a line of an enumeration: what stands before the last equals sign,
and what stands after it without the comma at the end. -/
def readEnumValue? (line : Text) : Option (Text × Nat) := do
  let (name, rest) ← Text.cutLast? '=' line
  let digits ← [','].isSuffixOf? rest
  let value ← Text.decimalValue? digits
  return (name, value)

/-- The label and the quoted name on a line of a switch. What is left of the line when the texts at
its front and at its end are taken off is the two of them, of one length, and the text between. -/
def readSwitchCase? (line : Text) : Option (Text × Text) := do
  let rest ← "case sqlstate::".toList.isPrefixOf? line
  let body ← "\";".toList.isSuffixOf? rest
  let label := body.take ((body.length - ": return \"".length) / 2)
  let quoted ← (label ++ ": return \"".toList).isPrefixOf? body
  return (label, quoted)

theorem readEnumValue?_formatEntry (value : Nat) (name : Text) :
    readEnumValue? (enumValues.formatEntry value name) = some (name, value) := by
  have hrest : '=' ∉ Text.decimal value ++ [','] := by
    rw [List.mem_append, not_or]
    refine ⟨?_, by decide⟩
    intro h
    have hdigit := Text.isDigit_of_mem_decimal h
    cases hdigit
  have hcut : Text.cutLast? '=' (enumValues.formatEntry value name)
      = some (name, Text.decimal value ++ [',']) := by
    rw [formatEntry_enumValues, List.append_assoc, List.cons_append]
    exact Text.cutLast?_append hrest name
  have hdigits : [','].isSuffixOf? (Text.decimal value ++ [',']) = some (Text.decimal value) := by
    rw [List.isSuffixOf?_eq_some_iff_append_eq]
  simp [readEnumValue?, hcut, hdigits, Text.decimalValue?_decimal]

/-- The name is found by the length of the line: what stands around the two names is known. -/
theorem readSwitchCase?_formatEntry (value : Nat) (name : Text) :
    readSwitchCase? (switchCases.formatEntry value name) = some (name, name) := by
  have hfront : "case sqlstate::".toList.isPrefixOf? (switchCases.formatEntry value name)
      = some (name ++ ": return \"".toList ++ name ++ "\";".toList) := by
    rw [List.isPrefixOf?_eq_some_iff_append_eq, formatEntry_switchCases, Text.quoted]
    simp
  have hback : "\";".toList.isSuffixOf? (name ++ ": return \"".toList ++ name ++ "\";".toList)
      = some (name ++ ": return \"".toList ++ name) := by
    rw [List.isSuffixOf?_eq_some_iff_append_eq]
  have hhalf : ((name ++ ": return \"".toList ++ name).length - ": return \"".length) / 2
      = name.length := by
    have hmiddle : ": return \"".toList.length = ": return \"".length := rfl
    rw [List.length_append, List.length_append, hmiddle]
    omega
  have hlabel : (name ++ ": return \"".toList ++ name).take name.length = name := by
    rw [List.append_assoc]
    exact List.take_left
  have hquoted : (name ++ ": return \"".toList).isPrefixOf? (name ++ ": return \"".toList ++ name)
      = some name := by
    rw [List.isPrefixOf?_eq_some_iff_append_eq]
  rw [readSwitchCase?, hfront]
  simp only [Option.bind_eq_bind, Option.bind_some, hback, hhalf, hlabel, hquoted]
  rfl

theorem map_readEnumValue?_lines (c : Catalog) :
    (enumValues.lines c).map readEnumValue? = c.namedValues.map some := by
  rw [lines, List.map_map, Catalog.namedValues, List.map_map]
  apply List.map_congr_left
  intro p _
  exact readEnumValue?_formatEntry p.1 p.2.name

theorem map_readSwitchCase?_lines (c : Catalog) :
    (switchCases.lines c).map readSwitchCase? = c.names.map fun name => some (name, name) := by
  rw [lines, List.map_map, Catalog.names, List.map_map]
  apply List.map_congr_left
  intro p _
  exact readSwitchCase?_formatEntry p.1 p.2.name

/-! ## Reading renderings -/

section Renderings

variable {t : Text} {c : Catalog}

theorem splitOn_render (mode : Mode) (h : Catalog.parse t = .ok c) :
    (mode.render c).splitOn '\n' = mode.lines c ++ [[]] :=
  Text.splitOn_flatMap_lf fun _ => lf_not_mem_of_mem_lines h

/-- Catalogs that are rendered alike have the same lines. -/
theorem lines_eq_of_render_eq {mode : Mode} {t' : Text} {c' : Catalog} (h : Catalog.parse t = .ok c)
    (h' : Catalog.parse t' = .ok c') (heq : mode.render c = mode.render c') :
    mode.lines c = mode.lines c' := by
  have hcut := congrArg (List.splitOn '\n') heq
  rw [splitOn_render mode h, splitOn_render mode h'] at hcut
  exact List.append_cancel_right hcut

/-- The label of a case is the name on the line of the enumeration at the same place. -/
theorem label_eq_enumerator (c : Catalog) (k : Nat) :
    ((switchCases.lines c)[k]?.bind readSwitchCase?).map Prod.fst
      = ((enumValues.lines c)[k]?.bind readEnumValue?).map Prod.fst := by
  rw [lines, lines, List.getElem?_map, List.getElem?_map]
  cases c.iter[k]? with
  | none => rfl
  | some p =>
    simp only [Option.map_some, Option.bind_some, readSwitchCase?_formatEntry,
      readEnumValue?_formatEntry]

end Renderings

/-- **Renderings can be read back.** A rendering of a catalog that was read falls at its line feeds
into the lines, of which there is one for each entry. Each line of an enumeration, cut at its last
equals sign, gives the name and the number of its entry, and no two numbers are the same; each case
gives the name twice, as the label and in quotes. So catalogs with one rendering have the same names
in the same order, and with one enumeration also the same numbers, and the labels of a switch are
the names of the enumeration. The names can be any that a text can hold. -/
theorem render_reads_back {t : Text} {c : Catalog} (h : Catalog.parse t = .ok c) :
    (∀ mode : Mode, (mode.render c).splitOn '\n' = mode.lines c ++ [[]]
        ∧ (mode.lines c).length = c.size ∧ (mode.render c).count '\n' = c.size)
      ∧ (enumValues.lines c).map readEnumValue? = c.namedValues.map some
      ∧ (c.namedValues.map Prod.snd).Nodup
      ∧ (switchCases.lines c).map readSwitchCase? = (c.names.map fun name => some (name, name))
      ∧ (∀ k : Nat, ((switchCases.lines c)[k]?.bind readSwitchCase?).map Prod.fst
          = ((enumValues.lines c)[k]?.bind readEnumValue?).map Prod.fst)
      ∧ ∀ t' c', Catalog.parse t' = .ok c' →
          (enumValues.render c = enumValues.render c' → c.namedValues = c'.namedValues)
            ∧ (switchCases.render c = switchCases.render c' → c.names = c'.names) := by
  refine ⟨?_, map_readEnumValue?_lines c, ?_, map_readSwitchCase?_lines c,
    label_eq_enumerator c, ?_⟩
  · intro mode
    exact ⟨splitOn_render mode h, length_lines mode c, count_lf_render mode h⟩
  · rw [Catalog.namedValues, List.map_map]
    exact c.filed.keys_nodup
  · intro t' c' h'
    refine ⟨?_, ?_⟩
    -- renderings that are alike have the same lines, and the lines tell what they were made from
    · intro heq
      have hread := congrArg (List.map readEnumValue?) (lines_eq_of_render_eq h h' heq)
      rw [map_readEnumValue?_lines, map_readEnumValue?_lines] at hread
      exact List.map_injective_iff.mpr (Option.some_injective _) hread
    · intro heq
      have hread := congrArg (List.map readSwitchCase?) (lines_eq_of_render_eq h h' heq)
      rw [map_readSwitchCase?_lines, map_readSwitchCase?_lines] at hread
      have hinjective : Function.Injective fun name : Text => some (name, name) := by
        intro a b hab
        exact (Prod.mk.inj (Option.some.inj hab)).1
      exact List.map_injective_iff.mpr hinjective hread

/-- A name made of what the lines are made of, and an empty one. -/
def oddNames : Text := "00001 E ERRCODE_A=1,:\"return\n00002 E ERRCODE_\n".toList

theorem render_reads_back_oddNames :
    ∃ c, Catalog.parse oddNames = .ok c
      ∧ (enumValues.lines c).map readEnumValue? = [some ("a=1,:\"return".toList, 1), some ([], 2)]
      ∧ (switchCases.lines c).map readSwitchCase?
        = [some ("a=1,:\"return".toList, "a=1,:\"return".toList), some ([], [])] := by
  have hok : Catalog.parse oddNames
      = .ok ((Catalog.accepted (Text.lines oddNames)).foldl Catalog.insert Catalog.empty) :=
    Catalog.parse_eq_ok_iff.mpr ⟨by decide +kernel, rfl⟩
  obtain ⟨-, henum, -, hswitch, -⟩ := render_reads_back hok
  refine ⟨_, hok, ?_, ?_⟩
  · rw [henum]
    decide +kernel
  · rw [hswitch]
    decide +kernel

end Mode

end SqlStates
