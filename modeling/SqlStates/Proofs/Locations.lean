/-
Locations: where an answer that redirects sends the asker.

A location is read against the URL that was asked for. A path means a URL with the same
scheme and the same host, so the server stays the same; a URL in full, with two slashes
after its scheme, means what it means anywhere. A server whose locations are all of one
of these kinds, the URLs being its own, sends nobody away: every redirect from one of its
URLs leads to another of its URLs (`Network.SelfContained.exists_join?`).
-/
import Mathlib.Data.List.TakeWhile
import SqlStates.Network

set_option autoImplicit false

namespace SqlStates

/-! ## References -/

namespace Url

theorem fst_cutAt (mark : Char) (t : Text) : (cutAt mark t).1 = t.takeWhile (· != mark) := by
  unfold cutAt
  split
  · next h => exact (List.takeWhile_eq_self_iff.mpr (List.dropWhile_eq_nil_iff.mp h)).symm
  · rfl

theorem body_reference (t : Text) :
    (Reference.of t).body = (t.takeWhile (· != '#')).takeWhile (· != '?') := by
  rw [← fst_cutAt, ← fst_cutAt]
  rfl

/-- A text that starts with one slash is read as a path at the host of the URL it is found at. -/
theorem relative?_of_slash (u : Url) {rest : Text}
    (h : ∀ c ∈ rest.head?, isSlash true c = false) :
    ∃ v, u.relative? (Reference.of ('/' :: rest)) = some v ∧ v.scheme = u.scheme
      ∧ v.authority = u.authority := by
  have hbody : (Reference.of ('/' :: rest)).body
      = '/' :: (rest.takeWhile (· != '#')).takeWhile (· != '?') := body_reference _
  rw [relative?, hbody]
  cases hmore : (rest.takeWhile (· != '#')).takeWhile (· != '?') with
  | nil => exact ⟨_, rfl, rfl, rfl⟩
  | cons d more =>
    -- what follows the slash is what followed it in the text, so it is no second slash
    have hd : d ∈ rest.head? := by
      have hhead := congrArg List.head? hmore
      rw [List.head?_takeWhile, List.head?_takeWhile, List.head?_cons,
        Option.filter_eq_some_iff, Option.filter_eq_some_iff] at hhead
      exact hhead.1.1
    have hslash : isSlash true '/' = true := by decide
    simp only [hslash, h d hd]
    exact ⟨_, rfl, rfl, rfl⟩

/-- A path means a URL with the scheme and the host of the URL it is found at. -/
theorem join?_of_path (u : Url) {t rest : Text} (ht : clean t = '/' :: rest)
    (h : ∀ c ∈ rest.head?, isSlash true c = false) :
    ∃ v, u.join? t = some v ∧ v.scheme = u.scheme ∧ v.authority = u.authority := by
  have hscheme : scheme? ('/' :: rest) = none := rfl
  rw [join?, ht, hscheme]
  exact u.relative?_of_slash h

/-- A URL in full means the same wherever it is found. -/
theorem join?_of_absolute (u : Url) {t scheme rest : Text}
    (h : scheme? (clean t) = some (scheme, '/' :: '/' :: rest)) : u.join? t = parse? t := by
  have hslash : isSlash true '/' = true := by decide
  rw [join?, parse?, h]
  simp only [hslash, Bool.and_self, Bool.not_true, Bool.and_false, Bool.false_eq_true, if_false]

end Url

/-! ## Servers -/

namespace Network

theorem server?_congr (net : Network) {u v : Url} (hscheme : v.scheme = u.scheme)
    (hauthority : v.authority = u.authority) : net.server? v = net.server? u := by
  unfold server? Url.host Url.portNumber
  rw [hscheme, hauthority]

theorem reply?_of_server? {net : Network} {s : Server} {u : Url} (h : net.server? u = some s) :
    net.reply? u = some (s.reply u.target) := by
  rw [reply?, h]
  rfl

/-- The locations that keep to a server: the paths, and the URLs of the server in full. -/
inductive KeepsTo (net : Network) (s : Server) (location : Text) : Prop where
  | path (rest : Text) : Url.clean location = '/' :: rest →
      (∀ c ∈ rest.head?, Url.isSlash true c = false) → KeepsTo net s location
  | url (scheme rest : Text) (v : Url) :
      Url.scheme? (Url.clean location) = some (scheme, '/' :: '/' :: rest) →
      Url.parse? location = some v → net.server? v = some s → KeepsTo net s location

/-- Whether all locations in the table of a server keep to the server. -/
def SelfContained (net : Network) (s : Server) : Prop :=
  ∀ path a, (path, Reply.answer a) ∈ s.routes →
    ∀ location, a.location = some location → net.KeepsTo s location

theorem KeepsTo.exists_join? {net : Network} {s : Server} {location : Text}
    (h : net.KeepsTo s location) {u : Url} (hu : net.server? u = some s) :
    ∃ v, u.join? location = some v ∧ net.server? v = some s := by
  cases h with
  | path rest hclean hrest =>
    obtain ⟨v, hv, hscheme, hauthority⟩ := u.join?_of_path hclean hrest
    exact ⟨v, hv, by rw [net.server?_congr hscheme hauthority, hu]⟩
  | url scheme rest v hscheme hparse hserver =>
    exact ⟨v, by rw [u.join?_of_absolute hscheme, hparse], hserver⟩

end Network

/-- An answer of a server stands in its table, or it is the one for paths that do not. -/
theorem Server.mem_or_eq_of_reply {s : Server} {target : Text} {a : Answer}
    (h : s.reply target = .answer a) :
    (target, Reply.answer a) ∈ s.routes ∨ a = .notFound := by
  rw [reply] at h
  cases hfound : s.routes.lookup target with
  | none =>
    rw [hfound] at h
    cases h
    exact .inr rfl
  | some found =>
    rw [hfound] at h
    obtain ⟨before, after, hsplit, -⟩ := List.lookup_eq_some_iff.mp hfound
    cases h
    exact .inl (by rw [hsplit]; simp)

/-- **A server that keeps its locations to itself is never left.** Whatever location one of its
answers has, it means a URL of the server at every URL of the server. -/
theorem Network.SelfContained.exists_join? {net : Network} {s : Server} (h : net.SelfContained s)
    {u : Url} (hu : net.server? u = some s) {target location : Text} {a : Answer}
    (ha : s.reply target = .answer a) (hlocation : a.location = some location) :
    ∃ v, u.join? location = some v ∧ net.server? v = some s := by
  rcases Server.mem_or_eq_of_reply ha with hmem | rfl
  · exact (h target a hmem location hlocation).exists_join? hu
  · cases hlocation

end SqlStates
