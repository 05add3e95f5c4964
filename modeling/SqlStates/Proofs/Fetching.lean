/-
Fetching a URL: every table of answers, and what comes of it.

The chain of requests that a text starts is bounded, whatever the servers answer, and its
end is judged in a fixed order. So there are a few ways for a fetch to come out, each with
its own condition on where redirects lead from the URL that was asked for, and none of them
speaks of another answer than the one at the end. An error names the URL that was asked
for, however far the redirects have led. A server whose locations keep to it answers every
request of the chain, and there any redirect status with a location is a redirect.
-/
import SqlStates.Proofs.Redirects

set_option autoImplicit false

namespace SqlStates

/-! ## From a text to a chain -/

/-- The URL that is asked for first when a text is to be fetched: the one it is read as, without
credentials, if that can be asked for. -/
def Url.ofRequest? (asked : Text) : Option Url :=
  ((Url.parse? asked).map Url.withoutCredentials).filter Url.isRequestable

namespace Network

/-- So many redirects lead from the URL asked for first to another. -/
def Reaches (net : Network) (asked : Text) (n : Nat) (v : Url) : Prop :=
  ∃ u, Url.ofRequest? asked = some u ∧ net.Leads n u v

/-- Ten redirects at most lead to a URL with this answer. -/
def Meets (net : Network) (asked : Text) (v : Url) (a : Answer) : Prop :=
  ∃ n, n ≤ 10 ∧ net.Reaches asked n v ∧ net.reply? v = some (.answer a)

variable {net : Network} {asked : Text}

theorem reaches_iff {u : Url} (hu : Url.ofRequest? asked = some u) {n : Nat} {v : Url} :
    net.Reaches asked n v ↔ net.Leads n u v := by
  rw [Reaches, hu]
  simp only [Option.some.injEq, exists_eq_left']

theorem not_reaches (hnone : Url.ofRequest? asked = none) {n : Nat} {v : Url} :
    ¬ net.Reaches asked n v := by
  rintro ⟨u, hu, -⟩
  rw [hnone] at hu
  cases hu

/-- The end is an answer exactly if ten redirects at most lead to it and it does not redirect. -/
theorem get_ending_eq_answered_iff {u : Url} (hu : Url.ofRequest? asked = some u) {a : Answer} :
    (net.get u).ending = .answered a
      ↔ ∃ v, net.Meets asked v a ∧ ∀ w, ¬ net.Redirects v w := by
  rw [get, follow_ending_eq_iff]
  constructor
  · rintro (_ | _ | @⟨n, v, _, hle, hleads, hreply, hfinal⟩)
    refine ⟨v, ⟨n, hle, (reaches_iff hu).mpr hleads, hreply⟩, fun w hw => ?_⟩
    rw [redirects_iff hreply, hfinal] at hw
    cases hw
  · rintro ⟨v, ⟨n, hle, hreaches, hreply⟩, hfinal⟩
    refine .answered hle ((reaches_iff hu).mp hreaches) hreply ?_
    rw [Option.eq_none_iff_forall_ne_some]
    exact fun w hw => hfinal w ((redirects_iff hreply).mpr hw)

/-- An answer of success does not redirect. -/
theorem Meets.not_redirects {v w : Url} {a : Answer} (h : net.Meets asked v a)
    (hsuccess : a.isSuccess = true) : ¬ net.Redirects v w := by
  obtain ⟨n, -, -, hreply⟩ := h
  rw [redirects_iff hreply, Answer.redirect?_of_isSuccess hsuccess]
  exact nofun

end Network

/-! ## Judging an end -/

namespace Source

variable {decoder : Decoder}

theorem ofEnding_eq_ok_iff {asked t : Text} {e : Ending} :
    ofEnding decoder asked e = .ok t
      ↔ ∃ a, e = .answered a ∧ a.isSuccess = true ∧ a.isComplete = true
        ∧ decoder.decode a.contentType a.content = t := by
  cases e with
  | unanswered u => exact iff_of_false nofun (by rintro ⟨_, ⟨⟩, -⟩)
  | tooManyRedirects u => exact iff_of_false nofun (by rintro ⟨_, ⟨⟩, -⟩)
  | answered a =>
    -- all four: the status is looked at first, and the body only of a success
    cases hsuccess : a.isSuccess <;> cases hcomplete : a.isComplete <;>
      simp [ofEnding, hsuccess, hcomplete]

theorem ofEnding_eq_status_iff {asked named : Text} {e : Ending} {code : Nat} :
    ofEnding decoder asked e = .error (.status named code)
      ↔ asked = named ∧ ∃ a, e = .answered a ∧ a.isSuccess = false ∧ a.status = code := by
  cases e with
  | unanswered u => exact iff_of_false nofun (by rintro ⟨-, _, ⟨⟩, -⟩)
  | tooManyRedirects u => exact iff_of_false nofun (by rintro ⟨-, _, ⟨⟩, -⟩)
  | answered a =>
    cases hsuccess : a.isSuccess <;> cases hcomplete : a.isComplete <;>
      simp [ofEnding, hsuccess, hcomplete]

/-- The text or URL an error names is the one that was asked for. -/
theorem named_of_ofEnding {asked : Text} {e : Ending} {error : FetchError}
    (h : ofEnding decoder asked e = .error error) :
    (∃ code, error = .status asked code) ∨ ∃ fault, error = .http asked fault := by
  cases e with
  | unanswered u => exact .inr ⟨_, (Except.error.inj h).symm⟩
  | tooManyRedirects u => exact .inr ⟨_, (Except.error.inj h).symm⟩
  | answered a =>
    rw [ofEnding] at h
    split at h
    · exact .inl ⟨_, (Except.error.inj h).symm⟩
    · split at h
      · exact .inr ⟨_, (Except.error.inj h).symm⟩
      · cases h

variable (files : FileTree) (net : Network) {asked : Text}

theorem fetch_of_ofRequest?_eq_some {u : Url} (h : Url.ofRequest? asked = some u) :
    ((url asked).fetch files net).requests = (net.get u).requests
      ∧ ((url asked).fetch files net).result = ofEnding net.decoder asked (net.get u).ending := by
  rw [Url.ofRequest?, Option.filter_eq_some_iff, Option.map_eq_some_iff] at h
  obtain ⟨⟨written, hparse, rfl⟩, hrequest⟩ := h
  simp [fetch, fetchUrl, hparse, hrequest]

theorem fetch_of_ofRequest?_eq_none (h : Url.ofRequest? asked = none) :
    ((url asked).fetch files net).requests = []
      ∧ ∃ fault, ((url asked).fetch files net).result = .error (.http asked fault) := by
  cases hparse : Url.parse? asked with
  | none => simp [fetch, fetchUrl, hparse]
  | some written =>
    have hrequest : written.withoutCredentials.isRequestable = false := by
      simpa [Url.ofRequest?, hparse] using h
    simp [fetch, fetchUrl, hparse, hrequest]

end Source

/-! ## What a fetch comes to -/

/-- What fetching a URL from a network comes to, by where redirects lead. -/
structure Fetched.Follows (f : Fetched) (net : Network) (asked : Text) : Prop where
  /-- There are eleven requests at most. -/
  bounded : f.requests.length ≤ 11
  /-- They are for the URLs that ten redirects at most lead to, in order, as far as there are
  servers. -/
  requested : ∀ i r, f.requests[i]? = some r
    ↔ i ≤ 10 ∧ net.Reaches asked i r.url ∧ (net.reply? r.url).isSome = true
  /-- Each but the first is for the URL that the answer before redirects to. -/
  redirected : f.requests.IsChain fun r next => net.Redirects r.url next.url
  /-- A text is fetched exactly if it is what the body of a whole answer of success is read as. -/
  ok_iff : ∀ text, f.result = .ok text
    ↔ ∃ v a, net.Meets asked v a ∧ a.isSuccess = true ∧ a.isComplete = true
        ∧ net.decoder.decode a.contentType a.content = text
  /-- A status is reported exactly if it is no success and does not redirect, whole or not. -/
  status_iff : ∀ named code, f.result = .error (.status named code)
    ↔ asked = named ∧ ∃ v a, net.Meets asked v a ∧ (∀ w, ¬ net.Redirects v w)
        ∧ a.isSuccess = false ∧ a.status = code
  unanswered : ∀ n v, n ≤ 10 → net.Reaches asked n v →
    net.reply? v = none ∨ net.reply? v = some .hangUp →
    f.result = .error (.http asked (.unanswered v))
  eleventh : ∀ v w, net.Reaches asked 10 v → net.Redirects v w →
    f.result = .error (.http asked (.tooManyRedirects v))
  cut_short : ∀ v a, net.Meets asked v a → a.isSuccess = true → a.isComplete = false →
    f.result = .error (.http asked .bodyBrokeOff)
  names_asked : ∀ e, f.result = .error e →
    (∃ code, e = .status asked code) ∨ ∃ fault, e = .http asked fault

namespace Source

variable (files : FileTree) (net : Network) {asked : Text}

/-- A text that starts no chain leads nowhere, and is reported. -/
theorem follows_of_ofRequest?_eq_none (h : Url.ofRequest? asked = none) :
    ((url asked).fetch files net).Follows net asked := by
  obtain ⟨hrequests, fault, hresult⟩ := fetch_of_ofRequest?_eq_none files net h
  have hmeets : ∀ v a, ¬ net.Meets asked v a := by
    rintro v a ⟨n, -, hreaches, -⟩
    exact Network.not_reaches h hreaches
  constructor
  case bounded => simp [hrequests]
  case requested =>
    intro i r
    rw [hrequests]
    exact iff_of_false nofun fun hr => Network.not_reaches h hr.2.1
  case redirected => simp [hrequests]
  case ok_iff =>
    intro text
    rw [hresult]
    exact iff_of_false nofun fun ⟨v, a, hva, _⟩ => hmeets v a hva
  case status_iff =>
    intro named code
    rw [hresult]
    exact iff_of_false nofun fun ⟨_, v, a, hva, _⟩ => hmeets v a hva
  case unanswered => exact fun n v _ hreaches => absurd hreaches (Network.not_reaches h)
  case eleventh => exact fun v w hreaches => absurd hreaches (Network.not_reaches h)
  case cut_short => exact fun v a hva => absurd hva (hmeets v a)
  case names_asked =>
    intro e he
    rw [hresult] at he
    exact .inr ⟨fault, (Except.error.inj he).symm⟩

theorem follows_of_ofRequest?_eq_some {u : Url} (h : Url.ofRequest? asked = some u) :
    ((url asked).fetch files net).Follows net asked := by
  obtain ⟨hrequests, hresult⟩ := fetch_of_ofRequest?_eq_some files net h
  constructor
  case bounded =>
    rw [hrequests]
    exact net.length_requests_le 10 u
  case requested =>
    intro i r
    rw [hrequests, Network.get, Network.getElem?_requests, Network.reaches_iff h]
    rfl
  case redirected =>
    rw [hrequests]
    exact net.isChain_requests 10 u
  case ok_iff =>
    intro text
    simp only [hresult, ofEnding_eq_ok_iff, Network.get_ending_eq_answered_iff h]
    -- only the order of the parts differs, since a success is always the end of its chain
    constructor
    · rintro ⟨a, ⟨v, hva, -⟩, hsuccess, hcomplete, htext⟩
      exact ⟨v, a, hva, hsuccess, hcomplete, htext⟩
    · rintro ⟨v, a, hva, hsuccess, hcomplete, htext⟩
      exact ⟨a, ⟨v, hva, fun w => hva.not_redirects hsuccess⟩, hsuccess, hcomplete, htext⟩
  case status_iff =>
    intro named code
    simp only [hresult, ofEnding_eq_status_iff, Network.get_ending_eq_answered_iff h]
    constructor
    · rintro ⟨hnamed, a, ⟨v, hva, hfinal⟩, hstatus, hcode⟩
      exact ⟨hnamed, v, a, hva, hfinal, hstatus, hcode⟩
    · rintro ⟨hnamed, v, a, hva, hfinal, hstatus, hcode⟩
      exact ⟨hnamed, a, ⟨v, hva, hfinal⟩, hstatus, hcode⟩
  case unanswered =>
    intro n v hle hreaches hreply
    have hending : (net.get u).ending = .unanswered v :=
      Network.follow_ending_eq_iff.mpr
        (.unanswered hle ((Network.reaches_iff h).mp hreaches) hreply)
    rw [hresult, hending]
    rfl
  case eleventh =>
    intro v w hreaches hnext
    have hending : (net.get u).ending = .tooManyRedirects v :=
      Network.follow_ending_eq_iff.mpr
        (.tooManyRedirects ((Network.reaches_iff h).mp hreaches) hnext)
    rw [hresult, hending]
    rfl
  case cut_short =>
    intro v a hva hsuccess hcomplete
    have hending : (net.get u).ending = .answered a :=
      (Network.get_ending_eq_answered_iff h).mpr ⟨v, hva, fun w => hva.not_redirects hsuccess⟩
    simp [hresult, hending, ofEnding, hsuccess, hcomplete]
  case names_asked =>
    intro e he
    rw [hresult] at he
    exact named_of_ofEnding he

theorem follows_fetch (asked : Text) : ((url asked).fetch files net).Follows net asked := by
  cases h : Url.ofRequest? asked with
  | none => exact follows_of_ofRequest?_eq_none files net h
  | some u => exact follows_of_ofRequest?_eq_some files net h

/-- The first thing that is noticed of a fetch is that it is made. -/
theorem head?_notices_fetchUrl (asked : Text) :
    (fetchUrl net asked).notices.head? = some (.fetching asked) := by
  unfold fetchUrl
  split
  · rfl
  · dsimp only
    split
    · rfl
    · rfl

/-- **Fetching over any table of answers.** A fetch follows redirects, whatever the network: it ends
after eleven requests at most, and what it comes to is told by where ten redirects at most lead from
the URL that was asked for, which every error names. At a server whose locations keep to it, all of
these requests are answered out of its table, and an answer redirects exactly if it has one of the
five statuses and a location. -/
theorem fetch_follows_redirects (files : FileTree) (net : Network) (asked : Text) :
    ((url asked).fetch files net).Follows net asked
      ∧ ∀ s u, Url.ofRequest? asked = some u → net.server? u = some s → net.SelfContained s →
        ∀ n v, net.Reaches asked n v →
          net.reply? v = some (s.reply v.target)
            ∧ ∀ a, s.reply v.target = .answer a →
              ((∃ w, net.Redirects v w)
                ↔ a.status ∈ [301, 302, 303, 307, 308] ∧ a.location ≠ none) := by
  constructor
  · exact follows_fetch files net asked
  · intro s u hu hserver hself n v hreaches
    have hv : net.server? v = some s :=
      ((Network.reaches_iff hu).mp hreaches).server? hself hserver
    have hreply := Network.reply?_of_server? hv
    refine ⟨hreply, fun a ha => ?_⟩
    rw [ha] at hreply
    simp only [Network.redirects_iff hreply, Answer.redirect?_eq_some_iff,
      Option.ne_none_iff_exists']
    constructor
    · rintro ⟨w, hstatus, location, hlocation, -⟩
      exact ⟨hstatus, location, hlocation⟩
    · rintro ⟨hstatus, location, hlocation⟩
      obtain ⟨w, hjoin, -⟩ := hself.exists_join? hv ha hlocation
      exact ⟨w, hstatus, location, hlocation, hjoin⟩

/-- A text, its body starting with a byte order mark. -/
def ringText : Answer :=
  ⟨200, none, none, Utf8.encode ('\uFEFF' :: "00000 S ERRCODE_É\n".toList), 0⟩

/-- A server with a circle on it: a path leads to another, and that one back by the full URL. A
third leads to a text, and at a fifth the same text is cut short. -/
def ringServer : Server where
  host := .ipv4 2130706433
  portNumber := 8080
  routes := [("/a".toList, .answer ⟨302, some "/b".toList, none, [], 0⟩),
    ("/b".toList, .answer ⟨308, some "http://127.0.0.1:8080/a".toList, none, [], 0⟩),
    ("/c".toList, .answer ⟨301, some "/d".toList, none, [], 0⟩),
    ("/d".toList, .answer ringText), ("/e".toList, .answer { ringText with missing := 1 })]

/-- The network of the one server. -/
def ring : Network := ⟨[ringServer], .utf8⟩

/-- A URL of the server. -/
def ringUrl (letter : Char) : Url :=
  ⟨"http".toList, some ⟨none, .ipv4 2130706433, some 8080⟩, .segments [[letter]], none, none⟩

/-- The text that a URL of the server is read from. -/
def ringAsked (letter : Char) : Text := "http://127.0.0.1:8080/".toList ++ [letter]

/-- What the program reads from the texts. -/
theorem ofRequest?_ringAsked : Url.ofRequest? (ringAsked 'a') = some (ringUrl 'a')
    ∧ Url.ofRequest? (ringAsked 'c') = some (ringUrl 'c')
    ∧ Url.ofRequest? (ringAsked 'e') = some (ringUrl 'e')
    ∧ Url.ofRequest? (ringAsked 'f') = some (ringUrl 'f') := by
  refine ⟨?_, ?_, ?_, ?_⟩
  · decide +kernel
  · decide +kernel
  · decide +kernel
  · decide +kernel

/-- All locations of the server are its own. -/
theorem ring_selfContained : ring.SelfContained ringServer := by
  intro path a hroute location hlocation
  simp only [ringServer, List.mem_cons, List.not_mem_nil, or_false, Prod.mk.injEq,
    Reply.answer.injEq] at hroute
  rcases hroute with ⟨-, rfl⟩ | ⟨-, rfl⟩ | ⟨-, rfl⟩ | ⟨-, rfl⟩ | ⟨-, rfl⟩
  · cases hlocation
    refine .path "b".toList (by decide +kernel) ?_
    rintro c ⟨⟩
    decide
  · cases hlocation
    exact .url "http".toList "127.0.0.1:8080/a".toList (ringUrl 'a') (by decide +kernel)
      (by decide +kernel) rfl
  · cases hlocation
    refine .path "d".toList (by decide +kernel) ?_
    rintro c ⟨⟩
    decide
  · cases hlocation
  · cases hlocation

/-- Where the server redirects to. -/
theorem ring_redirects : ring.Redirects (ringUrl 'a') (ringUrl 'b')
    ∧ ring.Redirects (ringUrl 'b') (ringUrl 'a') ∧ ring.Redirects (ringUrl 'c') (ringUrl 'd') := by
  refine ⟨⟨_, _, rfl, by decide, rfl, ?_⟩, ⟨_, _, rfl, by decide, rfl, ?_⟩,
    ⟨_, _, rfl, by decide, rfl, ?_⟩⟩
  · decide +kernel
  · decide +kernel
  · decide +kernel

/-- Once round the circle is two redirects. -/
theorem ring_leads (k : Nat) : ring.Leads (2 * k) (ringUrl 'a') (ringUrl 'a') := by
  obtain ⟨hab, hba, -⟩ := ring_redirects
  induction k with
  | zero => exact .here _
  | succ k ih => exact .on hab (.on hba ih)

/-- The server keeps its locations to itself. The circle is left after eleven requests; a redirect
to the text ends with the text; the text that is cut short is not taken, and where the table has no
path there is nothing. -/
theorem fetch_follows_redirects_ring :
    ring.SelfContained ringServer
      ∧ ring.reply? (ringUrl 'a') = some (ringServer.reply (ringUrl 'a').target)
      ∧ ((url (ringAsked 'a')).fetch ⟨[], []⟩ ring).requests.length = 11
      ∧ ((url (ringAsked 'a')).fetch ⟨[], []⟩ ring).result
        = .error (.http (ringAsked 'a') (.tooManyRedirects (ringUrl 'a')))
      ∧ ((url (ringAsked 'c')).fetch ⟨[], []⟩ ring).result = .ok "00000 S ERRCODE_É\n".toList
      ∧ ((url (ringAsked 'e')).fetch ⟨[], []⟩ ring).result
        = .error (.http (ringAsked 'e') .bodyBrokeOff)
      ∧ ((url (ringAsked 'f')).fetch ⟨[], []⟩ ring).result
        = .error (.status (ringAsked 'f') 404) := by
  obtain ⟨hasked, haskedText, haskedCut, haskedNothing⟩ := ofRequest?_ringAsked
  obtain ⟨hab, -, hcd⟩ := ring_redirects
  have htenth : ring.Reaches (ringAsked 'a') 10 (ringUrl 'a') := ⟨_, hasked, ring_leads 5⟩
  have htext : ring.Meets (ringAsked 'c') (ringUrl 'd') ringText :=
    ⟨1, by decide, ⟨_, haskedText, .on hcd (.here _)⟩, rfl⟩
  have hcut : ring.Meets (ringAsked 'e') (ringUrl 'e') { ringText with missing := 1 } :=
    ⟨0, by decide, ⟨_, haskedCut, .here _⟩, rfl⟩
  have hnothing : ring.Meets (ringAsked 'f') (ringUrl 'f') .notFound :=
    ⟨0, by decide, ⟨_, haskedNothing, .here _⟩, rfl⟩
  have hends : ∀ w, ¬ ring.Redirects (ringUrl 'f') w := by
    intro w hw
    rw [Network.redirects_iff (a := .notFound) rfl] at hw
    cases hw
  obtain ⟨hfollows, htable⟩ := fetch_follows_redirects ⟨[], []⟩ ring (ringAsked 'a')
  obtain ⟨htaken, -⟩ := fetch_follows_redirects ⟨[], []⟩ ring (ringAsked 'c')
  obtain ⟨hbroken, -⟩ := fetch_follows_redirects ⟨[], []⟩ ring (ringAsked 'e')
  obtain ⟨hmissed, -⟩ := fetch_follows_redirects ⟨[], []⟩ ring (ringAsked 'f')
  obtain ⟨hreply, -⟩ := htable _ _ hasked rfl ring_selfContained _ _ htenth
  -- that there is an eleventh request is the lower bound of their number
  have hlast := (hfollows.requested 10 ⟨ringUrl 'a'⟩).mpr
    ⟨Nat.le_refl _, htenth, by rw [hreply]; rfl⟩
  refine ⟨ring_selfContained, hreply, ?_, hfollows.eleventh _ _ htenth hab, ?_, ?_, ?_⟩
  · have hlength := (List.getElem?_eq_some_iff.mp hlast).1
    exact Nat.le_antisymm hfollows.bounded hlength
  · exact (htaken.ok_iff _).mpr ⟨_, _, htext, rfl, rfl, by decide +kernel⟩
  · exact hbroken.cut_short _ _ hcut rfl rfl
  · exact (hmissed.status_iff _ _).mpr ⟨rfl, _, _, hnothing, hends, rfl, rfl⟩

end Source

end SqlStates
