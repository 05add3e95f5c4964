/-
UTF-8: texts as bytes, and bytes as texts.

Bytes are read one at a time by a small machine that remembers what the
character it is inside of still needs. What it reads off is a list with one entry
for each character and one empty entry for each stretch that belongs to no
character; such a stretch is as long as the start of some character could be.
The strict reading takes no text from bytes with such a stretch in them, the
mending one puts a replacement character in its place.
-/
import SqlStates.Text.Basic

set_option autoImplicit false

namespace SqlStates.Utf8

/-- The bytes of a text. -/
def encode (t : Text) : Bytes := t.flatMap String.utf8EncodeChar

/-! ## The machine -/

/-- A character that has begun: the bits read so far, the range the next byte must lie in, and
how many bytes follow that one. -/
structure Pending where
  bits : Nat
  low : Nat
  high : Nat
  later : Nat

/-- What one byte completes, in order, and the character it leaves open. -/
structure Step where
  done : List (Option Char)
  pending : Option Pending

namespace Step

/-- The byte ends a character. -/
def whole (code : Nat) : Step := ⟨[some (Char.ofNat code)], none⟩

/-- The byte belongs to no character. -/
def stray : Step := ⟨[none], none⟩

/-- The byte leaves a character open that needs a byte from `low` to `high` and `later` more. -/
def opening (bits low high later : Nat) : Step := ⟨[], some ⟨bits, low, high, later⟩⟩

/-- The step for a byte that no character is open for. The second byte is held to a narrower
range where the full one would admit a longer form than needed, a surrogate or a code point
past the last. -/
def first (byte : Nat) : Step :=
  if byte < 0x80 then whole byte
  else if byte < 0xC2 then stray
  else if byte < 0xE0 then opening (byte - 0xC0) 0x80 0xBF 0
  else if byte = 0xE0 then opening 0 0xA0 0xBF 1
  else if byte = 0xED then opening 0xD 0x80 0x9F 1
  else if byte < 0xF0 then opening (byte - 0xE0) 0x80 0xBF 1
  else if byte = 0xF0 then opening 0 0x90 0xBF 2
  else if byte < 0xF4 then opening (byte - 0xF0) 0x80 0xBF 2
  else if byte = 0xF4 then opening 4 0x80 0x8F 2
  else stray

/-- The step for a byte while a character is open: a byte out of its range ends the stretch
read so far and is read again as a first byte. -/
def next (p : Pending) (byte : Nat) : Step :=
  if p.low ≤ byte ∧ byte ≤ p.high then
    match p.later with
    | 0 => whole (p.bits * 64 + (byte - 0x80))
    | more + 1 => opening (p.bits * 64 + (byte - 0x80)) 0x80 0xBF more
  else ⟨none :: (first byte).done, (first byte).pending⟩

/-- The step for a byte, whatever is open. -/
def of : Option Pending → Nat → Step
  | none, byte => first byte
  | some p, byte => next p byte

end Step

/-- Reads bytes on from the character that is open; one left open at the end is cut short. -/
def unitsFrom : Option Pending → Bytes → List (Option Char)
  | none, [] => []
  | some _, [] => [none]
  | pending, byte :: rest =>
    (Step.of pending byte.toNat).done ++ unitsFrom (Step.of pending byte.toNat).pending rest

/-- The characters that bytes hold, with `none` for each stretch that belongs to none. -/
def units (bytes : Bytes) : List (Option Char) := unitsFrom none bytes

/-! ## The two readings -/

/-- The text that bytes hold, if all of them belong to characters. -/
def decode? (bytes : Bytes) : Option Text := (units bytes).mapM id

/-- The text that bytes hold, with U+FFFD in place of each stretch that belongs to no
character. -/
def decodeMending (bytes : Bytes) : Text := (units bytes).map fun unit => unit.getD '\uFFFD'

/-- The text without a byte order mark at its start; of several, one is taken. -/
def dropMark : Text → Text
  | '\uFEFF' :: rest => rest
  | t => t

/-! ## Bytes of ASCII -/

/-- Bytes below 0x80 are a character each. -/
theorem units_ascii {bytes : Bytes} (h : ∀ b ∈ bytes, b.toNat < 0x80) :
    units bytes = bytes.map fun b => some (Char.ofNat b.toNat) := by
  induction bytes with
  | nil => rfl
  | cons b rest ih =>
    have hb : b.toNat < 0x80 := h b (List.mem_cons_self ..)
    have hstep : Step.of none b.toNat = Step.whole b.toNat := if_pos hb
    have hrest : units rest = rest.map fun b => some (Char.ofNat b.toNat) :=
      ih fun c hc => h c (List.mem_cons_of_mem _ hc)
    rw [List.map_cons, ← hrest]
    simp only [units, unitsFrom, hstep, Step.whole, List.singleton_append]

/-- Bytes below 0x80 are a text, with as many characters. -/
theorem decode?_ascii {bytes : Bytes} (h : ∀ b ∈ bytes, b.toNat < 0x80) :
    decode? bytes = some (bytes.map fun b => Char.ofNat b.toNat) := by
  rw [decode?, units_ascii h]
  induction bytes with
  | nil => rfl
  | cons b rest ih =>
    have hrest := ih fun c hc => h c (List.mem_cons_of_mem _ hc)
    simp only [List.map_cons, List.mapM_cons, hrest]
    rfl

end SqlStates.Utf8
