/-
Redirects: how far a chain of requests goes, and what its end comes to.

`Network.Leads` says that so many redirects lead from one URL to another; it knows nothing
of a limit, and on a table that goes in circles it never stops. A chain with some number
of redirects left asks for exactly the URLs that no more redirects than that lead to, and
it ends at the first of them that does not redirect, or at the last if all do
(`Network.follow_ending_eq_iff`). What is fetched is judged from that end in one order: an
answer at all, then a redirect too many, then the status, and the body last.
-/
import Mathlib.Data.List.Chain
import SqlStates.Source
import SqlStates.Proofs.Locations

set_option autoImplicit false

namespace SqlStates

namespace Answer

theorem redirect?_eq_some_iff {a : Answer} {u v : Url} :
    a.redirect? u = some v ↔ a.status ∈ redirectStatuses
      ∧ ∃ location, a.location = some location ∧ u.join? location = some v := by
  rw [redirect?, ← Option.bind_eq_some_iff, ← List.contains_iff_mem]
  split
  · next h => exact (and_iff_right h).symm
  · next h => exact iff_of_false nofun fun hboth => h hboth.1

/-- The statuses of success send nobody elsewhere. -/
theorem redirect?_of_isSuccess {a : Answer} (h : a.isSuccess = true) (u : Url) :
    a.redirect? u = none := by
  rw [Option.eq_none_iff_forall_ne_some]
  intro v hv
  have hstatus := (redirect?_eq_some_iff.mp hv).1
  simp only [redirectStatuses, List.mem_cons, List.not_mem_nil, or_false] at hstatus
  simp only [isSuccess, Bool.and_eq_true, decide_eq_true_eq] at h
  omega

end Answer

namespace Network

/-! ## Redirects and chains of them -/

/-- Whether the answer to one URL redirects to another: it has one of the five statuses, and a
location that means the other URL. -/
def Redirects (net : Network) (u v : Url) : Prop :=
  ∃ a location, net.reply? u = some (.answer a) ∧ a.status ∈ Answer.redirectStatuses
    ∧ a.location = some location ∧ u.join? location = some v

/-- So many redirects lead from one URL to another. -/
inductive Leads (net : Network) : Nat → Url → Url → Prop where
  | here (u : Url) : Leads net 0 u u
  | on {n : Nat} {u v w : Url} : net.Redirects u v → Leads net n v w → Leads net (n + 1) u w

variable {net : Network}

theorem redirects_iff {u v : Url} {a : Answer} (h : net.reply? u = some (.answer a)) :
    net.Redirects u v ↔ a.redirect? u = some v := by
  rw [Answer.redirect?_eq_some_iff]
  constructor
  · rintro ⟨b, location, hb, hstatus, hlocation, hjoin⟩
    rw [h, Option.some.injEq, Reply.answer.injEq] at hb
    rw [hb]
    exact ⟨hstatus, location, hlocation, hjoin⟩
  · rintro ⟨hstatus, location, hlocation, hjoin⟩
    exact ⟨a, location, h, hstatus, hlocation, hjoin⟩

theorem Redirects.exists_answer {u v : Url} (h : net.Redirects u v) :
    ∃ a, net.reply? u = some (.answer a) ∧ a.redirect? u = some v := by
  obtain ⟨a, location, ha, hstatus, hlocation, hjoin⟩ := h
  exact ⟨a, ha, Answer.redirect?_eq_some_iff.mpr ⟨hstatus, location, hlocation, hjoin⟩⟩

/-- An answer redirects to one URL at most. -/
theorem Redirects.unique {u v w : Url} (hv : net.Redirects u v) (hw : net.Redirects u w) :
    v = w := by
  obtain ⟨a, ha, hav⟩ := hv.exists_answer
  rw [redirects_iff ha, hav, Option.some.injEq] at hw
  exact hw

theorem leads_zero_iff {u v : Url} : net.Leads 0 u v ↔ u = v := by
  constructor
  · rintro ⟨⟩
    rfl
  · rintro rfl
    exact .here u

theorem leads_succ_iff {n : Nat} {u w : Url} :
    net.Leads (n + 1) u w ↔ ∃ v, net.Redirects u v ∧ net.Leads n v w := by
  constructor
  · rintro (_ | ⟨huv, hvw⟩)
    exact ⟨_, huv, hvw⟩
  · rintro ⟨v, huv, hvw⟩
    exact .on huv hvw

/-- No redirects lead away from a server that keeps its locations to itself. -/
theorem Leads.server? {s : Server} (hself : net.SelfContained s) {n : Nat} {u v : Url}
    (h : net.Leads n u v) (hu : net.server? u = some s) : net.server? v = some s := by
  induction h with
  | here => exact hu
  | on hredirects _ ih =>
    obtain ⟨a, location, ha, -, hlocation, hjoin⟩ := hredirects
    rw [reply?_of_server? hu, Option.some.injEq] at ha
    obtain ⟨v', hv', hserver⟩ := hself.exists_join? hu ha hlocation
    rw [hjoin, Option.some.injEq] at hv'
    exact ih (by rw [hv', hserver])

/-! ## One request -/

/-- What one request can come to: no server, no answer, an answer that ends the chain, or one that
redirects. -/
theorem request_cases (net : Network) (u : Url) :
    net.reply? u = none ∨ net.reply? u = some .hangUp
      ∨ (∃ a, net.reply? u = some (.answer a) ∧ a.redirect? u = none)
      ∨ ∃ v, net.Redirects u v := by
  cases hreply : net.reply? u with
  | none => exact .inl rfl
  | some reply =>
    cases reply with
    | hangUp => exact .inr (.inl rfl)
    | answer a =>
      cases hnext : a.redirect? u with
      | none => exact .inr (.inr (.inl ⟨a, rfl, hnext⟩))
      | some v => exact .inr (.inr (.inr ⟨v, (redirects_iff hreply).mpr hnext⟩))

theorem follow_of_none {u : Url} (h : net.reply? u = none) (left : Nat) :
    net.follow left u = ⟨[], .unanswered u⟩ := by
  unfold follow
  simp only [h]

theorem follow_of_hangUp {u : Url} (h : net.reply? u = some .hangUp) (left : Nat) :
    net.follow left u = ⟨[⟨u⟩], .unanswered u⟩ := by
  unfold follow
  simp only [h]

theorem follow_of_final {u : Url} {a : Answer} (h : net.reply? u = some (.answer a))
    (hfinal : a.redirect? u = none) (left : Nat) :
    net.follow left u = ⟨[⟨u⟩], .answered a⟩ := by
  unfold follow
  simp only [h, hfinal]

theorem Redirects.follow_zero {u v : Url} (h : net.Redirects u v) :
    net.follow 0 u = ⟨[⟨u⟩], .tooManyRedirects u⟩ := by
  obtain ⟨a, ha, hnext⟩ := h.exists_answer
  unfold follow
  simp only [ha, hnext]

theorem Redirects.follow_succ {u v : Url} (h : net.Redirects u v) (left : Nat) :
    net.follow (left + 1) u
      = ⟨⟨u⟩ :: (net.follow left v).requests, (net.follow left v).ending⟩ := by
  obtain ⟨a, ha, hnext⟩ := h.exists_answer
  rw [follow]
  simp only [ha, hnext]

/-- The recursion of a chain: it stops at a URL that does not redirect, however many redirects are
left, and at one that does it stops if none is left, and else goes on. -/
theorem chain_induction (net : Network) {motive : Nat → Url → Prop}
    (stops : ∀ left u, (∀ v, ¬ net.Redirects u v) → motive left u)
    (exhausted : ∀ u v, net.Redirects u v → motive 0 u)
    (goes_on : ∀ left u v, net.Redirects u v → motive left v → motive (left + 1) u)
    (left : Nat) (u : Url) : motive left u := by
  induction left generalizing u with
  | zero =>
    by_cases h : ∃ v, net.Redirects u v
    · obtain ⟨v, hv⟩ := h
      exact exhausted u v hv
    · exact stops 0 u (not_exists.mp h)
  | succ left ih =>
    by_cases h : ∃ v, net.Redirects u v
    · obtain ⟨v, hv⟩ := h
      exact goes_on left u v hv (ih v)
    · exact stops (left + 1) u (not_exists.mp h)

/-! ## The end of a chain -/

/-- The ends that a chain can come to from a URL with some number of redirects left. -/
inductive Ends (net : Network) (left : Nat) (u : Url) : Ending → Prop where
  | unanswered {n : Nat} {v : Url} : n ≤ left → net.Leads n u v →
      net.reply? v = none ∨ net.reply? v = some .hangUp → Ends net left u (.unanswered v)
  | tooManyRedirects {v w : Url} : net.Leads left u v → net.Redirects v w →
      Ends net left u (.tooManyRedirects v)
  | answered {n : Nat} {v : Url} {a : Answer} : n ≤ left → net.Leads n u v →
      net.reply? v = some (.answer a) → a.redirect? v = none → Ends net left u (.answered a)

/-- An end behind a redirect is an end before it, with one redirect more left. -/
theorem Ends.on {left : Nat} {u v : Url} {e : Ending} (huv : net.Redirects u v)
    (h : net.Ends left v e) : net.Ends (left + 1) u e := by
  cases h with
  | unanswered hle hleads hreply => exact .unanswered (Nat.succ_le_succ hle) (.on huv hleads) hreply
  | tooManyRedirects hleads hnext => exact .tooManyRedirects (.on huv hleads) hnext
  | answered hle hleads hreply hfinal =>
    exact .answered (Nat.succ_le_succ hle) (.on huv hleads) hreply hfinal

theorem ends_follow (net : Network) (left : Nat) (u : Url) :
    net.Ends left u (net.follow left u).ending := by
  induction left, u using chain_induction net with
  | stops left u h =>
    rcases net.request_cases u with hnone | hhang | ⟨a, ha, hfinal⟩ | ⟨v, hv⟩
    · rw [follow_of_none hnone]
      exact .unanswered (Nat.zero_le _) (.here u) (.inl hnone)
    · rw [follow_of_hangUp hhang]
      exact .unanswered (Nat.zero_le _) (.here u) (.inr hhang)
    · rw [follow_of_final ha hfinal]
      exact .answered (Nat.zero_le _) (.here u) ha hfinal
    · exact absurd hv (h v)
  | exhausted u v hv =>
    rw [hv.follow_zero]
    exact .tooManyRedirects (.here u) hv
  | goes_on left u v hv ih =>
    rw [hv.follow_succ]
    exact ih.on hv

/-- A chain ends where it would end if it started further on, with fewer redirects left. -/
theorem Leads.follow_ending {n : Nat} {u v : Url} (h : net.Leads n u v) (left : Nat) :
    (net.follow (n + left) u).ending = (net.follow left v).ending := by
  induction h with
  | here => rw [Nat.zero_add]
  | @on n u v w huv _ ih => rw [Nat.add_right_comm, huv.follow_succ, ih]

/-- **A chain ends in one way only**: where redirects have led to something else than a redirect,
or where none is left. -/
theorem follow_ending_eq_iff {left : Nat} {u : Url} {e : Ending} :
    (net.follow left u).ending = e ↔ net.Ends left u e := by
  constructor
  · rintro rfl
    exact net.ends_follow left u
  · intro h
    cases h with
    | unanswered hle hleads hreply =>
      -- the end does not depend on how many redirects would have been left there
      obtain ⟨more, rfl⟩ := Nat.exists_eq_add_of_le hle
      rw [hleads.follow_ending]
      rcases hreply with hnone | hhang
      · rw [follow_of_none hnone]
      · rw [follow_of_hangUp hhang]
    | tooManyRedirects hleads hnext =>
      rw [← Nat.add_zero left, hleads.follow_ending, hnext.follow_zero]
    | answered hle hleads hreply hfinal =>
      obtain ⟨more, rfl⟩ := Nat.exists_eq_add_of_le hle
      rw [hleads.follow_ending, follow_of_final hreply hfinal]

/-! ## The requests of a chain -/

theorem Redirects.isSome_reply? {u v : Url} (h : net.Redirects u v) :
    (net.reply? u).isSome = true := by
  obtain ⟨a, ha, -⟩ := h.exists_answer
  rw [ha]
  rfl

/-- A URL that does not redirect gets one request, if its server can be reached. -/
theorem requests_of_not_redirects {u : Url} (h : ∀ v, ¬ net.Redirects u v) (left : Nat) :
    (net.follow left u).requests = if (net.reply? u).isSome then [⟨u⟩] else [] := by
  rcases net.request_cases u with hnone | hhang | ⟨a, ha, hfinal⟩ | ⟨v, hv⟩
  · rw [follow_of_none hnone, hnone]
    rfl
  · rw [follow_of_hangUp hhang, hhang]
    rfl
  · rw [follow_of_final ha hfinal, ha]
    rfl
  · exact absurd hv (h v)

theorem getElem?_request_iff {u : Url} {i : Nat} {r : Request} :
    ([⟨u⟩] : List Request)[i]? = some r ↔ i = 0 ∧ u = r.url := by
  rw [List.getElem?_singleton, ite_eq_iff]
  cases r
  simp

/-- **The requests of a chain** are for the URLs that redirects lead to, as many as are left at
most, in order, and for those only. One whose server cannot be reached gets no request. -/
theorem getElem?_requests {left : Nat} {u : Url} {i : Nat} {r : Request} :
    (net.follow left u).requests[i]? = some r
      ↔ i ≤ left ∧ net.Leads i u r.url ∧ (net.reply? r.url).isSome = true := by
  induction left, u using chain_induction net generalizing i with
  | stops left u h =>
    -- nothing leads on, so both sides speak of this URL alone
    rw [requests_of_not_redirects h]
    constructor
    · intro hr
      split at hr
      · next hsome =>
        obtain ⟨rfl, rfl⟩ := getElem?_request_iff.mp hr
        exact ⟨Nat.zero_le _, .here _, hsome⟩
      · cases hr
    · rintro ⟨-, hleads, hsome⟩
      cases hleads with
      | here =>
        rw [if_pos hsome]
        rfl
      | on hnext _ => exact absurd hnext (h _)
  | exhausted u v hv =>
    -- something leads on, but the bound allows no redirect
    rw [hv.follow_zero, getElem?_request_iff]
    constructor
    · rintro ⟨rfl, rfl⟩
      exact ⟨Nat.le_refl _, .here _, hv.isSome_reply?⟩
    · rintro ⟨hle, hleads, -⟩
      obtain rfl := Nat.le_zero.mp hle
      exact ⟨rfl, leads_zero_iff.mp hleads⟩
  | goes_on left u v hv ih =>
    rw [hv.follow_succ]
    cases i with
    | zero =>
      rw [List.getElem?_cons_zero, leads_zero_iff]
      constructor
      · rintro ⟨⟩
        exact ⟨Nat.zero_le _, rfl, hv.isSome_reply?⟩
      · rintro ⟨-, rfl, -⟩
        rfl
    | succ i =>
      rw [List.getElem?_cons_succ, ih, Nat.succ_le_succ_iff, leads_succ_iff]
      constructor
      · rintro ⟨hle, hleads, hsome⟩
        exact ⟨hle, ⟨v, hv, hleads⟩, hsome⟩
      · rintro ⟨hle, ⟨w, hw, hleads⟩, hsome⟩
        -- the redirects on the right start with this one, since it is the only one
        rw [hv.unique hw]
        exact ⟨hle, hleads, hsome⟩

theorem length_requests_le (net : Network) (left : Nat) (u : Url) :
    (net.follow left u).requests.length ≤ left + 1 := by
  rw [← List.getElem?_eq_none_iff, Option.eq_none_iff_forall_ne_some]
  intro r hr
  exact absurd (getElem?_requests.mp hr).1 (Nat.not_succ_le_self left)

/-- Each request but the first is for the URL that the answer to the one before redirects to. -/
theorem isChain_requests (net : Network) (left : Nat) (u : Url) :
    (net.follow left u).requests.IsChain fun r next => net.Redirects r.url next.url := by
  induction left, u using chain_induction net with
  | stops left u h =>
    rw [requests_of_not_redirects h]
    split
    · exact .singleton _
    · exact .nil
  | exhausted u v hv =>
    rw [hv.follow_zero]
    exact .singleton _
  | goes_on left u v hv ih =>
    rw [hv.follow_succ]
    cases hrest : (net.follow left v).requests with
    | nil => exact .singleton _
    | cons r rest =>
      -- the next request, if there is one, is for the URL the redirect leads to
      have hfirst : (net.follow left v).requests[0]? = some r := by rw [hrest]; rfl
      have hr : v = r.url := leads_zero_iff.mp (getElem?_requests.mp hfirst).2.1
      rw [hrest] at ih
      exact .cons_cons (hr ▸ hv) ih

end Network

end SqlStates
