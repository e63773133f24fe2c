import HostBoard.Proofs.Service.Provenance
import Mathlib.Data.List.Chain

/-!
# Requests and their redirects

A request is answered by the resource at its address, if the network reaches that address
(`Network.Answers`), and some resources send it on to another address. However a network is made, with redirects in circles or without end, the client follows no
more than ten of them, so it makes eleven requests at most. What it then has is the answer to its
last request, if that one was sent no further (`Network.get_eq_ok_iff`), and otherwise a failure,
which carries the address as it was asked for.

The requests that were made are a `Network.Trail`. One request of the client is one step on a trail,
and a trail is taken apart at its first address (`Network.trail_cons_iff`), so the induction goes on
the number of redirects that are left.
-/

namespace HostBoard

/-- The resource sends a request for an address on to another one. -/
def Resource.Redirects (idna : Idna) (r : Resource) (url next : Url) : Prop :=
  r.status ∈ redirectStatuses ∧
    ∃ location, r.location = some location ∧ url.resolve idna location = .ok next

lemma Resource.redirect?_eq_some_iff (idna : Idna) (r : Resource) (url next : Url) :
    r.redirect? idna url = some next ↔ r.Redirects idna url next := by
  unfold redirect? Redirects
  by_cases sends : r.status ∈ redirectStatuses
  · rw [if_pos (List.contains_iff_mem.mpr sends), Option.bind_eq_some_iff]
    simp only [sends, true_and]
    refine exists_congr fun location => and_congr_right fun _ => ?_
    cases url.resolve idna location with
    | ok found => simp [Except.toOption]
    | error e => simp [Except.toOption]
  · rw [if_neg (mt List.contains_iff_mem.mp sends)]
    simp [sends]

lemma Resource.redirect?_eq_none_iff (idna : Idna) (r : Resource) (url : Url) :
    r.redirect? idna url = none ↔ ∀ next, ¬r.Redirects idna url next := by
  rw [Option.eq_none_iff_forall_ne_some]
  exact forall_congr' fun next => not_congr (r.redirect?_eq_some_iff idna url next)

namespace Network

/-- What a network holds at an address, which is nothing while it is out of reach. -/
def resource? : Network → Url → Option Resource
  | outOfReach, _ => none
  | resources _ find, url => find (key url)

/-- A network reaches an address: one that is secure only through a tunnel. -/
def Reaches : Network → Url → Prop
  | outOfReach, _ => False
  | resources tunnels _, url => url.scheme = "https" → tunnels (tunnelEnd url) = true

variable (idna : Idna) (net : Network)

/-- A request for the address is answered by the resource. -/
structure Answers (url : Url) (r : Resource) : Prop where
  sendable : url.isSendable = true
  reached : net.Reaches url
  found : net.resource? url = some r

/-- A request for one address is answered with a redirect to another one. -/
def SendsOn (url next : Url) : Prop :=
  ∃ r, Answers net url r ∧ r.Redirects idna url next

/-- The requests that an address leads to: some that are sent on, each to the next, and a last one
that is answered by a resource and sent no further. -/
structure Trail (url : Url) (passed : List Url) (last : Url) (r : Resource) : Prop where
  starts : (passed ++ [last]).head? = some url
  linked : (passed ++ [last]).IsChain (SendsOn idna net)
  answered : Answers net last r
  stays : ∀ next, ¬r.Redirects idna last next

variable {idna} {net} {url last : Url} {r : Resource} {passed : List Url}

lemma trail_nil_iff :
    Trail idna net url [] last r ↔
      last = url ∧ Answers net url r ∧ ∀ next, ¬r.Redirects idna url next := by
  constructor
  · intro trail
    obtain rfl : last = url := Option.some.inj trail.starts
    exact ⟨rfl, trail.answered, trail.stays⟩
  · rintro ⟨rfl, answered, stays⟩
    exact ⟨rfl, .singleton last, answered, stays⟩

/-- The first request of a trail is sent on to where the others start. -/
lemma trail_cons_iff {u : Url} :
    Trail idna net url (u :: passed) last r ↔
      u = url ∧ ∃ next, SendsOn idna net url next ∧ Trail idna net next passed last r := by
  obtain ⟨next, more, rest⟩ : ∃ next more, passed ++ [last] = next :: more :=
    List.exists_cons_of_ne_nil (by simp)
  constructor
  · intro trail
    obtain rfl : u = url := Option.some.inj trail.starts
    have linked := trail.linked
    rw [List.cons_append, rest, List.isChain_cons_cons, ← rest] at linked
    exact ⟨rfl, next, linked.1, by rw [rest]; rfl, linked.2, trail.answered, trail.stays⟩
  · rintro ⟨rfl, other, sends, trail⟩
    have head := trail.starts
    rw [rest] at head
    obtain rfl : next = other := Option.some.inj head
    refine ⟨rfl, ?_, trail.answered, trail.stays⟩
    rw [List.cons_append, rest, List.isChain_cons_cons, ← rest]
    exact ⟨sends, trail.linked⟩

/-! ### One request -/

lemma Answers.deliver (answers : Answers net url r) :
    net.deliver url = (.answered r, [sighting url]) := by
  obtain ⟨sendable, reached, found⟩ := answers
  cases net with
  | outOfReach => cases found
  | resources tunnels find =>
    have unblocked : ¬(url.scheme = "https" ∧ (!tunnels (tunnelEnd url)) = true) := by
      rintro ⟨secure, blocked⟩
      rw [reached secure] at blocked
      cases blocked
    rw [resource?] at found
    rw [Network.deliver, if_pos sendable]
    simp only [if_neg unblocked, found]

lemma deliver_unsendable (unsendable : ¬url.isSendable = true) :
    net.deliver url = (.refused, []) := by
  cases net with
  | outOfReach => exact if_neg unsendable
  | resources tunnels find => exact if_neg unsendable

/-- A request that no resource answers is refused or lost, and the network sees it once at most. -/
lemma deliver_unanswered (nobody : ∀ r, ¬Answers net url r) :
    net.deliver url = (.refused, []) ∨
      ∃ seen, net.deliver url = (.unanswered, seen) ∧ seen.length ≤ 1 := by
  by_cases sendable : url.isSendable = true
  · right
    cases net with
    | outOfReach => exact ⟨[], if_pos sendable, Nat.zero_le 1⟩
    | resources tunnels find =>
      rw [Network.deliver, if_pos sendable]
      by_cases blocked : url.scheme = "https" ∧ (!tunnels (tunnelEnd url)) = true
      · exact ⟨["CONNECT " ++ tunnelEnd url], if_pos blocked, Nat.le_refl 1⟩
      · have reached : (resources tunnels find).Reaches url := by
          intro secure
          simpa [secure] using blocked
        cases found : find (key url) with
        | some r => exact absurd ⟨sendable, reached, found⟩ (nobody r)
        | none => exact ⟨[sighting url], by simp only [if_neg blocked], Nat.le_refl 1⟩
  · exact .inl (deliver_unsendable sendable)

variable {first next : Url} {left : Nat}

lemma send_unanswered (nobody : ∀ r, ¬Answers net url r) :
    (∃ e, (net.send idna first left url).1 = .error e) ∧
      (net.send idna first left url).2.length ≤ 1 := by
  rw [send]
  obtain refused | ⟨seen, unanswered, once⟩ := deliver_unanswered nobody
  · rw [refused]
    exact ⟨⟨_, rfl⟩, Nat.zero_le 1⟩
  · rw [unanswered]
    exact ⟨⟨_, rfl⟩, once⟩

lemma send_stays (answers : Answers net url r) (stays : ∀ next, ¬r.Redirects idna url next) :
    net.send idna first left url = (respond r, [sighting url]) := by
  rw [send]
  simp only [answers.deliver, (r.redirect?_eq_none_iff idna url).mpr stays]

lemma send_exhausted (sends : SendsOn idna net url next) :
    net.send idna first 0 url = (.error (.tooManyRedirects url), [sighting url]) := by
  obtain ⟨r, answers, redirects⟩ := sends
  rw [send]
  simp only [answers.deliver, (r.redirect?_eq_some_iff idna url next).mpr redirects]

lemma send_onward (sends : SendsOn idna net url next) :
    net.send idna first (left + 1) url =
      ((net.send idna first left next).1,
        sighting url :: (net.send idna first left next).2) := by
  obtain ⟨r, answers, redirects⟩ := sends
  rw [send]
  simp only [answers.deliver, (r.redirect?_eq_some_iff idna url next).mpr redirects]
  rfl

/-- A request that is sent no further is the last one, and what comes of it is its own answer. -/
lemma send_ends (ends : ∀ next, ¬SendsOn idna net url next) :
    (net.send idna first left url).2.length ≤ 1 ∧
      ∀ response seen, net.send idna first left url = (.ok response, seen) →
        ∃ r, Trail idna net url [] url r ∧ respond r = .ok response ∧ seen = [sighting url] := by
  by_cases somebody : ∃ r, Answers net url r
  · obtain ⟨r, answers⟩ := somebody
    have stays : ∀ next, ¬r.Redirects idna url next :=
      fun next redirects => ends next ⟨r, answers, redirects⟩
    rw [send_stays answers stays]
    refine ⟨Nat.le_refl 1, fun response seen sent => ?_⟩
    obtain ⟨responded, rfl⟩ := Prod.mk.inj sent
    exact ⟨r, trail_nil_iff.mpr ⟨rfl, answers, stays⟩, responded, rfl⟩
  · obtain ⟨⟨e, lost⟩, once⟩ := @send_unanswered idna net url first left (not_exists.mp somebody)
    refine ⟨once, fun response seen sent => ?_⟩
    rw [sent] at lost
    cases lost

/-! ### All requests -/

/-- Every request but the first takes a redirect, whatever the network holds. -/
lemma length_seen_send (left : Nat) (url : Url) :
    (net.send idna first left url).2.length ≤ left + 1 := by
  induction left generalizing url with
  | zero =>
    by_cases onward : ∃ next, SendsOn idna net url next
    · obtain ⟨next, sends⟩ := onward
      rw [send_exhausted sends]
      exact Nat.le_refl 1
    · exact (send_ends (not_exists.mp onward)).1
  | succ left ih =>
    by_cases onward : ∃ next, SendsOn idna net url next
    · obtain ⟨next, sends⟩ := onward
      rw [send_onward sends]
      exact Nat.succ_le_succ (ih next)
    · exact (send_ends (not_exists.mp onward)).1.trans (Nat.le_add_left 1 (left + 1))

/-- Whoever gets an answer has made the requests of a trail. -/
lemma trail_of_send {response : Response} {seen : List String}
    (sent : net.send idna first left url = (.ok response, seen)) :
    ∃ passed last r, Trail idna net url passed last r ∧ passed.length ≤ left ∧
      respond r = .ok response ∧ seen = (passed ++ [last]).map sighting := by
  induction left generalizing url seen with
  | zero =>
    by_cases onward : ∃ next, SendsOn idna net url next
    · obtain ⟨next, sends⟩ := onward
      rw [send_exhausted sends] at sent
      cases sent
    · obtain ⟨r, trail, responded, seen⟩ := (send_ends (not_exists.mp onward)).2 _ _ sent
      exact ⟨[], url, r, trail, Nat.le_refl 0, responded, seen⟩
  | succ left ih =>
    by_cases onward : ∃ next, SendsOn idna net url next
    · obtain ⟨next, sends⟩ := onward
      rw [send_onward sends] at sent
      obtain ⟨answered, rfl⟩ := Prod.mk.inj sent
      obtain ⟨passed, last, r, trail, short, responded, seen⟩ := ih (Prod.ext answered rfl)
      refine ⟨url :: passed, last, r, trail_cons_iff.mpr ⟨rfl, next, sends, trail⟩,
        Nat.succ_le_succ short, responded, congrArg (sighting url :: ·) seen⟩
    · obtain ⟨r, trail, responded, seen⟩ := (send_ends (not_exists.mp onward)).2 _ _ sent
      exact ⟨[], url, r, trail, Nat.zero_le _, responded, seen⟩

/-- A trail is followed to its end, if there are redirects enough left for it. -/
lemma send_of_trail (trail : Trail idna net url passed last r) (short : passed.length ≤ left) :
    net.send idna first left url = (respond r, (passed ++ [last]).map sighting) := by
  induction passed generalizing url left with
  | nil =>
    obtain ⟨rfl, answers, stays⟩ := trail_nil_iff.mp trail
    exact send_stays answers stays
  | cons u passed ih =>
    obtain ⟨rfl, next, sends, rest⟩ := trail_cons_iff.mp trail
    cases left with
    | zero => cases short
    | succ left =>
      rw [send_onward sends, ih rest (Nat.le_of_succ_le_succ short)]
      rfl

lemma respond_eq_ok_iff (r : Resource) (response : Response) :
    respond r = .ok response ↔
      r.truncated = false ∧ response = ⟨r.status, Text.ofOctetsLenient r.body⟩ := by
  rw [respond]
  cases r.truncated with
  | true => exact iff_of_false nofun (fun hoped => nomatch hoped.1)
  | false =>
    refine ⟨fun responded => ⟨rfl, (Except.ok.inj responded).symm⟩, ?_⟩
    rintro ⟨-, rfl⟩
    rfl

/-! ### Asking -/

variable {base : Url} {href : String}

lemma get_of_resolved (resolved : base.resolve idna href = .ok url) :
    net.get idna base href =
      ((net.send idna url redirectLimit url).1.mapError fun e => ⟨href, e.message⟩,
        (net.send idna url redirectLimit url).2) := by
  simp only [Network.get, Url.resolveHref, resolved]

lemma get_of_unresolved {e : UrlError} (unresolved : base.resolve idna href = .error e) :
    net.get idna base href = (.error ⟨href, e.message⟩, []) := by
  simp only [Network.get, Url.resolveHref, unresolved]

lemma length_seen_get (base : Url) (href : String) :
    (net.get idna base href).2.length ≤ 11 := by
  cases resolved : base.resolve idna href with
  | ok url =>
    rw [get_of_resolved resolved]
    exact length_seen_send redirectLimit url
  | error e =>
    rw [get_of_unresolved resolved]
    exact Nat.zero_le 11

/-- There is an answer exactly if a trail starts where the reference leads and is not too long. -/
lemma get_eq_ok_iff (base : Url) (href : String) (response : Response) :
    (net.get idna base href).1 = .ok response ↔
      ∃ url passed last r, base.resolve idna href = .ok url ∧ Trail idna net url passed last r ∧
        passed.length ≤ redirectLimit ∧ r.truncated = false ∧
        response = ⟨r.status, Text.ofOctetsLenient r.body⟩ ∧
        (net.get idna base href).2 = (passed ++ [last]).map sighting := by
  constructor
  · intro answered
    cases resolved : base.resolve idna href with
    | error e =>
      rw [get_of_unresolved resolved] at answered
      cases answered
    | ok url =>
      rw [get_of_resolved resolved] at answered ⊢
      cases sent : net.send idna url redirectLimit url with
      | mk result seen =>
        rw [sent] at answered
        cases result with
        | error e => cases answered
        | ok found =>
          cases answered
          obtain ⟨passed, last, r, trail, short, responded, seen⟩ := trail_of_send sent
          obtain ⟨whole, response⟩ := (respond_eq_ok_iff r _).mp responded
          exact ⟨url, passed, last, r, rfl, trail, short, whole, response, seen⟩
  · rintro ⟨url, passed, last, r, resolved, trail, short, whole, rfl, -⟩
    have responded := (respond_eq_ok_iff r _).mpr ⟨whole, rfl⟩
    rw [get_of_resolved resolved, send_of_trail trail short, responded]
    rfl

/-- Without an address of a scheme that is spoken nothing is asked. -/
lemma get_unsupported
    (unsupported : ∀ url, base.resolve idna href = .ok url →
      url.scheme ≠ "http" ∧ url.scheme ≠ "https") :
    (net.get idna base href).2 = [] := by
  cases resolved : base.resolve idna href with
  | error e => rw [get_of_unresolved resolved]
  | ok url =>
    obtain ⟨not_plain, not_tunnelled⟩ := unsupported url resolved
    have unsendable : ¬url.isSendable = true := by
      simp [Url.isSendable, not_plain, not_tunnelled]
    rw [get_of_resolved resolved, send, deliver_unsendable unsendable]

/-- A request over any network, with redirects of any kind, from any base address. The network sees
eleven requests at most. There is an answer exactly if the reference leads over at most ten
redirects to a resource that sends the request no further and whose body is whole; the answer then
has the status of that resource, whatever it is, and its body as text, and the requests that were
seen are those on the way to it, the last one for that resource. Any failure carries the reference
as it was given. A reference that cannot be resolved, or that has a scheme which is not spoken,
leads to no request and no answer. -/
theorem get_ends_on_every_network (idna : Idna) (net : Network) (base : Url) (href : String) :
    let asked := net.get idna base href
    asked.2.length ≤ 11 ∧
    (∀ response, asked.1 = .ok response ↔
      ∃ url passed last r, base.resolve idna href = .ok url ∧ Trail idna net url passed last r ∧
        passed.length ≤ 10 ∧ r.truncated = false ∧
        response = ⟨r.status, Text.ofOctetsLenient r.body⟩ ∧
        asked.2 = (passed ++ [last]).map sighting) ∧
    (∀ e, asked.1 = .error e → e.url = href) ∧
    ((∀ url, base.resolve idna href = .ok url → url.scheme ≠ "http" ∧ url.scheme ≠ "https") →
      asked.2 = [] ∧ ∃ e, asked.1 = .error e) := by
  intro asked
  have answered := @get_eq_ok_iff idna net base href
  refine ⟨length_seen_get base href, answered, ?_, fun unsupported => ?_⟩
  · exact fun e failed => client_namesAddress idna net base [] href e failed
  · have unasked : asked.2 = [] := get_unsupported unsupported
    refine ⟨unasked, ?_⟩
    cases result : asked.1 with
    | error e => exact ⟨e, rfl⟩
    | ok response =>
      obtain ⟨url, passed, last, r, -, -, -, -, -, seen⟩ := (answered response).mp result
      rw [unasked] at seen
      simp at seen

/-- A network with an address that has moved, to where nothing is any more, one that sends every
request back to itself, and one that sends requests on to a secure address. There is a tunnel to
that address, and none to any other. -/
def movedNetwork : Network :=
  resources (· == "vault:443") fun key => List.lookup key
    [("http://localhost/old", ⟨302, [], some "/new", false⟩),
      ("http://localhost/new", ⟨404, [0x68, 0xff], none, false⟩),
      ("http://localhost/loop", ⟨301, [], some "loop", false⟩),
      ("http://localhost/keys", ⟨307, [], some "https://vault/keys", false⟩),
      ("https://vault/keys", ⟨200, [0x6b], none, false⟩),
      ("https://other/keys", ⟨200, [0x6b], none, false⟩)]

/-- The address that has moved is answered after two requests, and so is the one that leads through
a tunnel; without a tunnel there is no answer. The address that sends requests back to itself fails
after eleven, and what is no address of the web is not asked for. -/
theorem get_ends_on_every_network_movedNetwork :
    let ask := movedNetwork.get .asciiOnly Load.localBase
    (ask "/old").1 = .ok ⟨404, "h\uFFFD"⟩ ∧
    (∃ url passed last r, Load.localBase.resolve .asciiOnly "/old" = .ok url ∧
      Trail .asciiOnly movedNetwork url passed last r ∧ passed.length ≤ 10 ∧ r.truncated = false ∧
      (⟨404, "h\uFFFD"⟩ : Response) = ⟨r.status, Text.ofOctetsLenient r.body⟩ ∧
      (ask "/old").2 = (passed ++ [last]).map sighting) ∧
    (ask "/old").2 = ["GET http://localhost/old", "GET http://localhost/new"] ∧
    (ask "/keys").1 = .ok ⟨200, "k"⟩ ∧
    (∃ url passed last r, Load.localBase.resolve .asciiOnly "/keys" = .ok url ∧
      Trail .asciiOnly movedNetwork url passed last r ∧ passed.length ≤ 10 ∧ r.truncated = false ∧
      (⟨200, "k"⟩ : Response) = ⟨r.status, Text.ofOctetsLenient r.body⟩ ∧
      (ask "/keys").2 = (passed ++ [last]).map sighting) ∧
    (ask "/keys").2 = ["GET http://localhost/keys", "GET https://vault/keys"] ∧
    (ask "https://other/keys").2 = ["CONNECT other:443"] ∧
    (∃ e, (ask "https://other/keys").1 = .error e ∧ e.url = "https://other/keys") ∧
    (ask "/loop").2.length ≤ 11 ∧
    (ask "/loop").2 = List.replicate 11 "GET http://localhost/loop" ∧
    (∃ e, (ask "/loop").1 = .error e ∧ e.url = "/loop") ∧
    (ask "mailto:web").2 = [] ∧ ∃ e, (ask "mailto:web").1 = .error e := by
  intro ask
  have ends := get_ends_on_every_network .asciiOnly movedNetwork Load.localBase
  obtain ⟨-, old, -, -⟩ := ends "/old"
  obtain ⟨-, keys, -, -⟩ := ends "/keys"
  obtain ⟨-, -, named_other, -⟩ := ends "https://other/keys"
  obtain ⟨bounded, -, named_loop, -⟩ := ends "/loop"
  obtain ⟨-, -, -, unasked⟩ := ends "mailto:web"
  have found : (ask "/old").1 = .ok ⟨404, "h\uFFFD"⟩ := by decide +kernel
  have opened : (ask "/keys").1 = .ok ⟨200, "k"⟩ := by decide +kernel
  have blocked : (ask "https://other/keys").1 =
      .error ⟨"https://other/keys", "error sending request for url (https://other/keys)"⟩ := by
    decide +kernel
  have circled : (ask "/loop").1 =
      .error ⟨"/loop", "error following redirect for url (http://localhost/loop)"⟩ := by
    decide +kernel
  have mail : ∀ url, Load.localBase.resolve .asciiOnly "mailto:web" = .ok url →
      url.scheme ≠ "http" ∧ url.scheme ≠ "https" := by
    intro url resolved
    have scheme : (Load.localBase.resolve .asciiOnly "mailto:web").toOption.map Url.scheme =
        some "mailto" := by decide +kernel
    rw [resolved] at scheme
    rw [Option.some.inj scheme]
    decide
  exact ⟨found, (old _).mp found, by decide +kernel, opened, (keys _).mp opened, by decide +kernel,
    by decide +kernel, ⟨_, blocked, named_other _ blocked⟩, bounded, by decide +kernel,
    ⟨_, circled, named_loop _ circled⟩, unasked mail⟩

end Network

end HostBoard
