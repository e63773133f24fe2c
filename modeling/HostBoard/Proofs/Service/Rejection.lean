import HostBoard.Client.Routes
import HostBoard.Proofs.Json.Accepting
import HostBoard.Proofs.Payload.Reading
import HostBoard.Proofs.Service.Requests

/-!
# Rejected host lists

A host list whose status is no success is read all the same, and its body is handed back as a value.
Both readings are of one text but not of the same kind: the members of an entry that nobody asked
for are skipped in the list and kept in the value. So a list may be read whose body cannot be kept,
and then nothing is handed back. This happens exactly where the body goes beyond a limit of values,
for what reads as a host list is spelled correctly (`HostEntry.accepts_list`).
-/

namespace HostBoard

namespace HostEntry

open Json (Accepts Reader)

lemma accepts_wrapper {inner : Reader String} (each : ∀ budget, Accepts (inner budget))
    (label name : String) (budget : Nat) : Accepts ((wrapper label name inner).read budget) := by
  refine Json.Shape.accepts ?_ ?_ budget
  · intro field listed
    obtain rfl := List.mem_singleton.mp listed
    rfl
  · intro field listed budget draft
    obtain rfl := List.mem_singleton.mp listed
    exact (each budget).map some

/-- What reads as a host list is spelled correctly. -/
lemma accepts_list (budget : Nat) : Accepts (Json.list read budget) := by
  refine Json.accepts_list (fun budget => ?_) budget
  have accepts_link := accepts_wrapper Json.accepts_text "Link" "href"
  have accepts_links := accepts_wrapper accepts_link "Links" "self"
  exact (accepts_wrapper accepts_links "HostListEntry" "_links" budget).map HostEntry.mk

end HostEntry

namespace HostLinks

/-- A body that reads as a host list reads as a value, unless it goes beyond a limit. -/
lemma body_reads_or_limit {url body : String} {entries : List HostEntry}
    (decoded : HostEntry.decodeList url body = .ok entries) :
    (∃ v, Json.document Json.value body = .ok v) ∨
    ∃ fault, Json.document Json.value body = .error fault ∧ fault.cause.IsLimit := by
  unfold HostEntry.decodeList Payload.decode at decoded
  split at decoded
  · next given => exact Json.document_of_accepts (HostEntry.accepts_list _) given
  · cases decoded

lemma ofResponse_eq_ok {url : String} {response : Response} {links : HostLinks}
    (listed : ofResponse url response = .ok links) :
    ∃ entries, HostEntry.decodeList url response.body = .ok entries ∧
      links.rejected = rejectionOf url response := by
  unfold ofResponse at listed
  split at listed
  · next entries decoded =>
    obtain rfl := Except.ok.inj listed
    exact ⟨entries, decoded, rfl⟩
  · cases listed

lemma ofResponse_unreadable {url : String} {response : Response} {entries : List HostEntry}
    {error : DecodeError} (decoded : HostEntry.decodeList url response.body = .ok entries)
    (unreadable : Payload.decodeValue url response.body = .error error) :
    ofResponse url response = .ok ⟨entries.map HostEntry.href, none⟩ := by
  rw [ofResponse, decoded]
  dsimp only
  rw [rejectionOf, unreadable, ite_self]

/-- A host list with a status of success has no rejection. With any other status its body is handed
back, if it can be read as a value, and it cannot exactly if it goes beyond a limit. -/
theorem rejection_is_handed_back_within_limits {σ : Type} (client : Client σ) (s : Session σ)
    (url : String) {response : Response} {links : HostLinks}
    (answered : (client.get s.state url).1 = .ok response)
    (listed : (s.fetchHostLinks client url).1 = .ok links) :
    (200 ≤ response.status ∧ response.status ≤ 209 → links.rejected = none) ∧
    (¬(200 ≤ response.status ∧ response.status ≤ 209) →
      (∀ v, Payload.decodeValue url response.body = .ok v →
        links.rejected = some ⟨response.status, v⟩) ∧
      (links.rejected = none ↔
        ∃ fault, Json.document Json.value response.body = .error fault ∧ fault.cause.IsLimit)) := by
  rw [Session.outcome_fetchHostLinks, answered] at listed
  obtain ⟨entries, decoded, rejected⟩ := ofResponse_eq_ok listed
  rw [rejected, rejectionOf, ← accepts_firstTen_iff]
  constructor
  · intro accepted
    rw [if_pos accepted]
  · intro refused
    rw [if_neg refused, Payload.decodeValue, Payload.decode]
    rcases body_reads_or_limit decoded with ⟨v, read⟩ | ⟨fault, failed, limit⟩
    · rw [read]
      refine ⟨?_, by simp⟩
      intro w same
      rw [Except.ok.inj same]
    · rw [failed]
      refine ⟨?_, by simpa using limit⟩
      intro w same
      cases same

/-- A script that answers for the host list with a body and a status of no success. -/
def refusingScript (body : String) : Routes :=
  [("/hosts", [.ok ⟨500, body⟩])]

lemma links_refusing {body : String} {entries : List HostEntry} {error : DecodeError}
    (decoded : HostEntry.decodeList "/hosts" body = .ok entries)
    (unreadable : Payload.decodeValue "/hosts" body = .error error) :
    ((Session.start (refusingScript body)).fetchHostLinks Routes.client "/hosts").1 =
      .ok ⟨entries.map HostEntry.href, none⟩ :=
  @ofResponse_unreadable "/hosts" ⟨500, body⟩ entries error decoded unreadable

/-- A host list whose one entry has a member that is nested in as many lists as given. -/
def nestedList (depth : Nat) : Json :=
  .array [.object [("_links", .object [("self", .object [("href", .string "/web")])]),
    ("x", Nat.repeat (fun v => .array [v]) depth (.array []))]]

/-- A host list with a member that is nested too deeply to be kept. -/
def overfullBody : String :=
  (nestedList 125).compact

lemma decodeList_overfullBody : HostEntry.decodeList "/hosts" overfullBody = .ok [⟨"/web"⟩] := by
  have whole : (nestedList 125).Whole := by decide +kernel
  have reads : Json.Reads (Json.list HostEntry.read Json.nestingLimit) (nestedList 125)
      (some [⟨"/web"⟩]) := HostEntry.reads_entries whole
  exact Payload.decode_ok reads "/hosts"

lemma decodeValue_overfullBody :
    ∃ error, Payload.decodeValue "/hosts" overfullBody = .error error := by
  -- Evaluation goes from the characters, since taking the text apart again is costly.
  have start : Cursor.start overfullBody = ⟨(nestedList 125).chars, ⟨1, 0⟩⟩ := by
    rw [Cursor.start, overfullBody, Json.compact, String.toList_ofList]
  have failed :
      (Json.value Json.nestingLimit ⟨(nestedList 125).chars, ⟨1, 0⟩⟩).toOption.isNone := by
    decide +kernel
  rw [Payload.decodeValue, Payload.decode, Json.document, start]
  cases read : Json.value Json.nestingLimit ⟨(nestedList 125).chars, ⟨1, 0⟩⟩ with
  | error fault => exact ⟨_, rfl⟩
  | ok r =>
    rw [read] at failed
    cases failed

/-- The list is read and nothing is handed back. -/
lemma links_overfullBody :
    ((Session.start (refusingScript overfullBody)).fetchHostLinks Routes.client "/hosts").1 =
      .ok ⟨["/web"], none⟩ := by
  obtain ⟨error, unreadable⟩ := decodeValue_overfullBody
  exact links_refusing decodeList_overfullBody unreadable

/-- The member that nobody asked for is beyond a limit, so its list has no rejection. -/
theorem rejection_is_handed_back_within_limits_overfull :
    (Routes.client.get (refusingScript overfullBody) "/hosts").1 = .ok ⟨500, overfullBody⟩ ∧
    ((Session.start (refusingScript overfullBody)).fetchHostLinks Routes.client "/hosts").1 =
      .ok ⟨["/web"], none⟩ ∧
    ∃ fault, Json.document Json.value overfullBody = .error fault ∧ fault.cause.IsLimit := by
  have answered : (Routes.client.get (refusingScript overfullBody) "/hosts").1 =
      .ok ⟨500, overfullBody⟩ := rfl
  have spec := rejection_is_handed_back_within_limits Routes.client
    (Session.start (refusingScript overfullBody)) "/hosts" answered links_overfullBody
  exact ⟨answered, links_overfullBody, (spec.2 (by decide)).2.mp rfl⟩

/-- The list is read under a status of no success, and no value is handed back with it. -/
theorem rejection_of_overfull_list_is_lost :
    ∃ links, ((Session.start (refusingScript overfullBody)).fetchHostLinks Routes.client
        "/hosts").1 = .ok links ∧
      links.hrefs = ["/web"] ∧ ¬∃ v, links.rejected = some ⟨500, v⟩ := by
  refine ⟨_, links_overfullBody, rfl, ?_⟩
  rintro ⟨v, handed⟩
  cases handed

end HostLinks

end HostBoard
