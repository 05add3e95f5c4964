/-
Two sources for one text: what a file and a URL have in common, and where they part.

A file is read strictly and keeps a byte order mark, a body is read mendingly and loses
one. Of the bytes of a text neither makes anything but that text, so without a mark the two
sources give the same text, and all that follows is a matter of the text. A mark that stays
is no blank, no digit and no comment sign. So it is the start of a first word that is no
code, in a line that is not passed over, whatever comes after it.
-/
import SqlStates.Proofs.EncodedTexts
import SqlStates.Proofs.Outcome
import SqlStates.Proofs.Reading
import SqlStates.Proofs.Redirects

set_option autoImplicit false

namespace SqlStates

/-! ## A mark that stays -/

namespace Catalog

open Text (lines trim isBlank isBreak)

/-- A line that starts with a character which is neither blank nor a digit nor the comment sign is
malformed. -/
theorem malformed_of_cons {c : Char} (hblank : isBlank c = false) (hdigit : c.isAlphanum = false)
    (hsign : c ≠ '#') (t : Text) : Malformed (c :: t) := by
  have hunblank : ∀ d ∈ [c], isBlank d = false := by simpa using hblank
  constructor
  · -- trimming leaves the character in front, where only the sign or the heading is passed over
    obtain ⟨rest, hrest⟩ : [c] <+: trim ([] ++ ([c] ++ t)) :=
      Text.prefix_trim (by simp) ⟨by simp, hunblank⟩ t
    have htrim : trim (c :: t) = c :: rest := hrest.symm
    rw [htrim, Bool.eq_false_iff, Ne, isSkipped_iff]
    rintro (hnil | hcomment | hheading)
    · cases hnil
    · exact hsign (List.cons_prefix_cons.mp hcomment).1.symm
    · rw [← (List.cons_prefix_cons.mp hheading).1] at hdigit
      cases hdigit
  · -- the first word has the character in it, so it is no code
    obtain ⟨u, ws, hws⟩ := Text.exists_words_append (w := [c]) (by simp) hunblank t
    obtain ⟨e, he⟩ := SqlState.exists_parse_error (t := [c] ++ u) (.inr ⟨c, by simp, hdigit⟩)
    have hwords : Text.words (c :: t) = ([c] ++ u) :: ws := hws
    rw [Entry.parse_trim, Entry.parse, hwords]
    exact Entry.ofWords_of_parse_error ws he

/-- A text that starts with a byte order mark cannot be read, its first line being malformed. -/
theorem parse_mark (t : Text) : ∃ e, parse ('\uFEFF' :: t) = .error e ∧ e.line = 1 := by
  obtain ⟨first, rest, hlines⟩ := List.exists_cons_of_ne_nil (Text.lines_ne_nil t)
  have hcons : lines ('\uFEFF' :: t) = ('\uFEFF' :: first) :: rest := by
    rw [Text.lines_other (by decide), hlines, List.modifyHead_cons]
  obtain ⟨hread, fault, hfault⟩ : Malformed ('\uFEFF' :: first) :=
    malformed_of_cons (by decide) (by decide) (by decide) first
  have hfirst : fault? 1 ('\uFEFF' :: first) = some ⟨1, trim ('\uFEFF' :: first), fault⟩ :=
    fault?_eq_some_iff.mpr ⟨hread, hfault, rfl, rfl⟩
  refine ⟨⟨1, trim ('\uFEFF' :: first), fault⟩, ?_, rfl⟩
  rw [parse_eq_error_iff, hcons, firstFault, hfirst, Option.some_or]

end Catalog

/-! ## What the sources hold -/

/-- Without the name of an encoding, the bytes of a text are read as that text, less a mark. -/
theorem Decoder.decode_encode (decoder : Decoder) {contentType : Option Text}
    (h : ∀ t ∈ contentType, namesCharset t = false) (t : Text) :
    decoder.decode contentType (Utf8.encode t) = Utf8.dropMark t := by
  have hunmarked : ∀ mark ∈ foreignMarks, ¬ mark <+: Utf8.encode t := by
    rintro mark hmark ⟨rest, hrest⟩
    -- every mark starts with a byte that no character starts with
    have hstray : ∀ mark ∈ foreignMarks, ∃ b, mark.head? = some b ∧ 0xF5 ≤ b.toNat := by
      simp [foreignMarks]
    obtain ⟨b, hb, hle⟩ := hstray mark hmark
    have hhead : (Utf8.encode t).head? = some b := by
      rw [← hrest, List.head?_append, hb, Option.some_or]
    exact absurd (Utf8.toNat_lt_of_head?_encode hhead) (Nat.not_lt.mpr hle)
  rw [decoder.decode_unnamed contentType _ h hunmarked, Utf8.decodeMending_encode]

/-- Whether an answer has what was asked for: it is a success, all of it has arrived, and it names
no encoding. -/
structure Answer.IsPlain (a : Answer) : Prop where
  success : a.isSuccess = true
  complete : a.isComplete = true
  unnamed : ∀ t ∈ a.contentType, namesCharset t = false

/-- Whether asking for a URL ends in a plain answer with the given body. -/
def Network.Serves (net : Network) (asked : Text) (body : Bytes) : Prop :=
  ∃ written a, Url.parse? asked = some written
    ∧ written.withoutCredentials.isRequestable = true
    ∧ (net.get written.withoutCredentials).ending = .answered a ∧ a.IsPlain ∧ a.content = body

/-- A server that has a plain answer for a URL serves the body of the answer. -/
theorem Network.serves_of_reply? {net : Network} {asked : Text} {body : Bytes} {written : Url}
    {a : Answer} (hparse : Url.parse? asked = some written)
    (hrequest : written.withoutCredentials.isRequestable = true)
    (hreply : net.reply? written.withoutCredentials = some (.answer a)) (hplain : a.IsPlain)
    (hbody : a.content = body) : net.Serves asked body := by
  refine ⟨written, a, hparse, hrequest, ?_, hplain, hbody⟩
  rw [get, follow_of_final hreply (Answer.redirect?_of_isSuccess hplain.success _)]

namespace Source

/-- The text in a file that holds the bytes of a text, a byte order mark being part of it. -/
theorem fetch_file_encode {files : FileTree} {path t : Text}
    (h : files.readBytes path = .ok (Utf8.encode t)) (net : Network) :
    ((file path).fetch files net).result = .ok t := by
  refine result_fetchFile_of_ok ?_
  simp only [FileTree.readText, h, FileTree.textOf, Utf8.decode?_encode]

/-- The text at a URL whose server answers with the bytes of a text. -/
theorem fetch_url_encode {net : Network} {asked t : Text} (h : net.Serves asked (Utf8.encode t))
    (files : FileTree) :
    ((url asked).fetch files net).result = .ok (Utf8.dropMark t) := by
  obtain ⟨written, a, hparse, hrequest, hending, ⟨hsuccess, hcomplete, hunnamed⟩, hbody⟩ := h
  have htext : net.decoder.decode a.contentType a.content = Utf8.dropMark t := by
    rw [hbody, net.decoder.decode_encode hunnamed]
  simp only [fetch, fetchUrl, hparse, hrequest, hending, ofEnding, hsuccess, hcomplete, htext]
  rfl

end Source

/-! ## What comes of a text -/

/-- Two runs that both had a text to read come to the same, whatever they did on the way. -/
structure Run.SameOutcome (r s : Run) : Prop where
  fetched : ∀ e, r.result ≠ .error (.fetch e)
  result : r.result = s.result
  sink : r.sink = s.sink

/-- The outcome of a run that has a text depends on the text alone. -/
theorem Run.sameOutcome_of_text {one other : Fetched} {t : Text} (mode : Mode) (sink : Sink)
    (hone : one.result = .ok t) (hother : other.result = .ok t) :
    (ofFetched mode sink one).SameOutcome (ofFetched mode sink other) := by
  cases hparse : Catalog.parse t with
  | error e =>
    obtain ⟨hresult, hsink⟩ := ofFetched_of_format_error mode sink hone hparse
    obtain ⟨hresult', hsink'⟩ := ofFetched_of_format_error mode sink hother hparse
    refine ⟨?_, by rw [hresult, hresult'], by rw [hsink, hsink']⟩
    intro e' he'
    rw [hresult] at he'
    cases he'
  | ok c =>
    obtain ⟨hresult, hsink⟩ := ofFetched_of_ok mode sink hone hparse
    obtain ⟨hresult', hsink'⟩ := ofFetched_of_ok mode sink hother hparse
    refine ⟨?_, by rw [hresult, hresult'], by rw [hsink, hsink']⟩
    intro e' he'
    rw [hresult] at he'
    cases hwritten : (sink.pour (Utf8.encode (mode.render c))).2 with
    | error e => rw [hwritten] at he'; cases he'
    | ok _ => rw [hwritten] at he'; cases he'

/-! ## Agreement -/

/-- **A file and a URL agree**, but for a byte order mark. If a text does not start with one, a run
from a file that holds its bytes and a run from a URL that serves them have the same outcome. Bytes
that do start with one are, from a URL, the text after it, whatever that is; from a file they always
fail to be a catalog in line 1, and nothing reaches the sink. -/
theorem generate_agrees_up_to_mark (t : Text) (mode : Mode) (sink : Sink) :
    (t.head? ≠ some '\uFEFF' →
        ∀ (files files' : FileTree) (net net' : Network) (path asked : Text),
          files.readBytes path = .ok (Utf8.encode t) → net'.Serves asked (Utf8.encode t) →
          (generate files net (.file path) mode sink).SameOutcome
            (generate files' net' (.url asked) mode sink))
      ∧ (∀ (files files' : FileTree) (net net' : Network) (path asked : Text),
          files.readBytes path = .ok (Utf8.encode t) →
          net'.Serves asked (Utf8.encode ('\uFEFF' :: t)) →
          (generate files net (.file path) mode sink).SameOutcome
            (generate files' net' (.url asked) mode sink))
      ∧ ∀ (files : FileTree) (net : Network) (path : Text),
          files.readBytes path = .ok (Utf8.encode ('\uFEFF' :: t)) →
          (∃ e, (generate files net (.file path) mode sink).result = .error (.format e)
              ∧ e.line = 1)
            ∧ (generate files net (.file path) mode sink).sink = sink := by
  refine ⟨?_, ?_, ?_⟩
  · intro hmark files files' net net' path asked hfile hurl
    have htext : ((Source.url asked).fetch files' net').result = .ok t := by
      rw [Source.fetch_url_encode hurl, Utf8.dropMark_of_head? hmark]
    exact Run.sameOutcome_of_text mode sink (Source.fetch_file_encode hfile net) htext
  · intro files files' net net' path asked hfile hurl
    -- of the body just the one mark is taken off, even if the text starts with another
    have htext : ((Source.url asked).fetch files' net').result = .ok t :=
      Source.fetch_url_encode hurl files'
    exact Run.sameOutcome_of_text mode sink (Source.fetch_file_encode hfile net) htext
  · intro files net path hfile
    obtain ⟨e, hparse, hline⟩ := Catalog.parse_mark t
    obtain ⟨hresult, hsink⟩ := Run.ofFetched_of_format_error mode sink
      (Source.fetch_file_encode hfile net) hparse
    exact ⟨⟨e, hresult, hline⟩, hsink⟩

/-- A catalog of one entry in a file, and the same after a byte order mark in another. -/
def markedFiles : FileTree where
  nodes := [([['w'], ['p']], .file (Utf8.encode "00000 S ERRCODE_OK\n".toList)),
    ([['w'], ['m']], .file (Utf8.encode ('\uFEFF' :: "00000 S ERRCODE_OK\n".toList)))]
  workDir := [['w']]

/-- A server that has the same two. -/
def markedServer : Network where
  servers := [⟨.ipv4 2130706433, 8080,
    [("/p".toList, .answer ⟨200, none, none, Utf8.encode "00000 S ERRCODE_OK\n".toList, 0⟩),
      ("/m".toList, .answer
        ⟨200, none, none, Utf8.encode ('\uFEFF' :: "00000 S ERRCODE_OK\n".toList), 0⟩)]⟩]
  decoder := .utf8

/-- The file without a mark has the outcome of both URLs; the file with one has that of neither. -/
theorem generate_agrees_up_to_mark_markedFiles :
    (generate markedFiles ⟨[], .utf8⟩ (.file ['p']) .enumValues .unbounded).SameOutcome
        (generate ⟨[], []⟩ markedServer (.url "http://127.0.0.1:8080/p".toList) .enumValues
          .unbounded)
      ∧ (generate markedFiles ⟨[], .utf8⟩ (.file ['p']) .enumValues .unbounded).SameOutcome
        (generate ⟨[], []⟩ markedServer (.url "http://127.0.0.1:8080/m".toList) .enumValues
          .unbounded)
      ∧ (∃ e, (generate markedFiles ⟨[], .utf8⟩ (.file ['m']) .enumValues .unbounded).result
          = .error (.format e) ∧ e.line = 1)
      ∧ (generate markedFiles ⟨[], .utf8⟩ (.file ['m']) .enumValues .unbounded).sink
        = .unbounded := by
  have hplain : markedFiles.readBytes ['p'] = .ok (Utf8.encode "00000 S ERRCODE_OK\n".toList) := by
    decide +kernel
  have hmarked : markedFiles.readBytes ['m']
      = .ok (Utf8.encode ('\uFEFF' :: "00000 S ERRCODE_OK\n".toList)) := by
    decide +kernel
  have hparse : Url.parse? "http://127.0.0.1:8080/p".toList
      = some ⟨"http".toList, some ⟨none, .ipv4 2130706433, some 8080⟩, .segments [['p']], none,
        none⟩ := by
    decide +kernel
  have hparse' : Url.parse? "http://127.0.0.1:8080/m".toList
      = some ⟨"http".toList, some ⟨none, .ipv4 2130706433, some 8080⟩, .segments [['m']], none,
        none⟩ := by
    decide +kernel
  have hserves : markedServer.Serves "http://127.0.0.1:8080/p".toList
      (Utf8.encode "00000 S ERRCODE_OK\n".toList) :=
    Network.serves_of_reply? hparse (by decide +kernel) rfl ⟨rfl, rfl, nofun⟩ rfl
  have hserves' : markedServer.Serves "http://127.0.0.1:8080/m".toList
      (Utf8.encode ('\uFEFF' :: "00000 S ERRCODE_OK\n".toList)) :=
    Network.serves_of_reply? hparse' (by decide +kernel) rfl ⟨rfl, rfl, nofun⟩ rfl
  obtain ⟨hunmarked, hdropped, hkept⟩ :=
    generate_agrees_up_to_mark "00000 S ERRCODE_OK\n".toList .enumValues .unbounded
  exact ⟨hunmarked (by decide) _ _ _ _ _ _ hplain hserves, hdropped _ _ _ _ _ _ hplain hserves',
    hkept _ _ _ hmarked⟩

end SqlStates
