/-
The grammar of command lines.

An option is spelled as one argument or as two, and several can be joined behind one hyphen.
`Gives` says which command lines name a mode and have a row of options before it and another
after it, however these are spelled. The grammar does not look at the reader, which is a machine
that goes from argument to argument; what ties the two together here is only what form each
spelling has as an argument.
-/
import Mathlib.Data.List.TakeWhile
import SqlStates.Proofs.Settings

set_option autoImplicit false

namespace SqlStates

/-! ## Names and forms of arguments -/

/-- The name of an option. -/
def ValueOption.name : ValueOption → Text
  | url => "url".toList
  | file => "file".toList
  | output => "output".toList
  | timeout => "timeout".toList

theorem ValueOption.ofName?_eq_some_iff {t : Text} {o : ValueOption} :
    ofName? t = some o ↔ t = o.name := by
  constructor
  · intro h
    unfold ofName? at h
    split at h
    · next ht => cases h; exact ht
    · split at h
      · next ht => cases h; exact ht
      · split at h
        · next ht => cases h; exact ht
        · split at h
          · next ht => cases h; exact ht
          · cases h
  · rintro rfl
    cases o <;> decide

theorem ValueOption.name_ne_nil (o : ValueOption) : o.name ≠ [] := by
  cases o <;> decide

/-- No name of an option has an equals sign in it. -/
theorem ValueOption.name_bne (o : ValueOption) : ∀ c ∈ o.name, (c != '=') = true := by
  apply List.all_eq_true.mp
  cases o <;> rfl

theorem Mode.ofName?_eq_some_iff {t : Text} {mode : Mode} :
    ofName? t = some mode ↔ t = mode.name := by
  constructor
  · intro h
    have hname := List.find?_some h
    exact (beq_iff_eq.mp hname).symm
  · rintro rfl
    cases mode <;> decide

namespace Argument

/-- Whether a text can be an argument that is a value: it does not start with a hyphen, unless it is
nothing else. -/
def IsPlain (t : Text) : Prop := t.head? = some '-' → t = ['-']

theorem of_eq_word_iff {t w : Text} : Argument.of t = .word w ↔ IsPlain t ∧ w = t := by
  unfold Argument.of
  split
  · simp [IsPlain]
  · simp [IsPlain]
  · simp [IsPlain]
  · next h1 h2 h3 =>
    have hplain : IsPlain t := by
      intro hhead
      obtain ⟨rest, rfl⟩ := List.head?_eq_some_iff.mp hhead
      cases rest with
      | nil => rfl
      | cons c rest => exact absurd rfl (h3 c rest)
    rw [Argument.word.injEq]
    exact ⟨fun h => ⟨hplain, h.symm⟩, fun h => h.2.symm⟩

theorem eq_of_separator {t : Text} (h : Argument.of t = .separator) : t = "--".toList := by
  unfold Argument.of at h
  split at h
  · rfl
  · cases h
  · cases h
  · cases h

theorem of_letters {c : Char} (hc : c ≠ '-') (rest : Text) :
    Argument.of ('-' :: c :: rest) = .short (c :: rest) := by
  simp [Argument.of, hc]

theorem of_long {name : Text} (hne : name ≠ []) (hname : ∀ c ∈ name, (c != '=') = true) :
    Argument.of ('-' :: '-' :: name) = .long name none := by
  obtain ⟨c, rest, rfl⟩ := List.exists_cons_of_ne_nil hne
  have htake : (c :: rest).takeWhile (· != '=') = c :: rest :=
    List.takeWhile_eq_self_iff.mpr hname
  have hdrop : (c :: rest).dropWhile (· != '=') = [] := List.dropWhile_eq_nil_iff.mpr hname
  simp only [Argument.of, htake, hdrop]

theorem of_long_attached {name : Text} (hname : ∀ c ∈ name, (c != '=') = true) (t : Text) :
    Argument.of ('-' :: '-' :: (name ++ '=' :: t)) = .long name (some t) := by
  have htake : (name ++ '=' :: t).takeWhile (· != '=') = name := by
    rw [List.takeWhile_append_of_pos hname]
    simp
  have hdrop : (name ++ '=' :: t).dropWhile (· != '=') = '=' :: t := by
    rw [List.dropWhile_append_of_pos hname]
    simp
  obtain ⟨c, rest, hcons⟩ : ∃ c rest, name ++ '=' :: t = c :: rest :=
    List.exists_cons_of_ne_nil (by simp)
  rw [hcons] at htake hdrop ⊢
  simp only [Argument.of, htake, hdrop]

/-- What a name after two hyphens was read from. -/
theorem eq_of_long {t name : Text} {attached : Option Text}
    (h : Argument.of t = .long name attached) :
    t = '-' :: '-' :: (name ++ (attached.map ('=' :: ·)).getD []) := by
  unfold Argument.of at h
  split at h
  · cases h
  · next rest hrest =>
    rw [Argument.long.injEq] at h
    obtain ⟨hname, hattached⟩ := h
    have hsplit := List.takeWhile_append_dropWhile (p := (· != '=')) (l := rest)
    have hhead := List.head?_dropWhile_not (· != '=') rest
    cases hdrop : rest.dropWhile (· != '=') with
    | nil =>
      rw [hdrop, List.append_nil, hname] at hsplit
      simp only [hdrop] at hattached
      simp [← hattached, hsplit]
    | cons c value =>
      simp only [hdrop] at hattached
      rw [hdrop, List.head?_cons] at hhead
      have hc : c = '=' := by simpa using hhead
      rw [hdrop, hname, hc] at hsplit
      simp [← hattached, hsplit]
  · cases h
  · cases h

theorem eq_of_short {t letters : Text} (h : Argument.of t = .short letters) :
    t = '-' :: letters ∧ letters ≠ [] := by
  unfold Argument.of at h
  split at h
  · cases h
  · cases h
  · cases h
    exact ⟨rfl, by simp⟩
  · cases h

end Argument

open Argument (IsPlain)

/-! ## The grammar -/

namespace CommandLine

/-- Letters after one hyphen: requests for details, and at the end maybe the option of the output.
The value of that follows in the same argument, with an equals sign before it or not, or it is the
next argument, which is listed then. -/
inductive Letters : List Setting → Text → List Text → Prop
  | none : Letters [] [] []
  | details {gs : List Setting} {letters : Text} {more : List Text} :
    Letters gs letters more → Letters (.details :: gs) ('v' :: letters) more
  | apart {t : Text} : IsPlain t → Letters [.value .output t] ['o'] [t]
  | joined {t : Text} : t ≠ [] → t.head? ≠ some '=' → Letters [.value .output t] ('o' :: t) []
  | equated (t : Text) : Letters [.value .output t] ('o' :: '=' :: t) []

/-- The spellings of options as arguments: by name, with the value in the next argument or after an
equals sign, or by letters. -/
inductive Spelled : List Setting → List Text → Prop
  | apart (o : ValueOption) {t : Text} :
    IsPlain t → Spelled [.value o t] ["--".toList ++ o.name, t]
  | equated (o : ValueOption) (t : Text) :
    Spelled [.value o t] ["--".toList ++ (o.name ++ '=' :: t)]
  | details : Spelled [.details] ["--verbose".toList]
  | letters {gs : List Setting} {letters : Text} {more : List Text} :
    Letters gs letters more → letters ≠ [] → Spelled gs (('-' :: letters) :: more)

/-- The arguments that write a row of settings, spelled one after the other. -/
inductive Writes : List Setting → List Text → Prop
  | nil : Writes [] []
  | cons {gs hs : List Setting} {a b : List Text} :
    Spelled gs a → Writes hs b → Writes (gs ++ hs) (a ++ b)

/-- What can stand at the end of a command line: nothing, or a separator. -/
def ends : List (List Text) := [[], ["--".toList]]

/-- The command lines that name a mode, with a row of settings before its name and another one after
it. -/
inductive Gives (mode : Mode) (before after : List Setting) : List Text → Prop
  | intro {b a ending : List Text} : Writes before b → Writes after a → ending ∈ ends →
    Gives mode before after (b ++ mode.name :: (a ++ ending))

end CommandLine

end SqlStates
