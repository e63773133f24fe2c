import HostBoard.Proofs.Service.Requests

/-!
# How fetches end

A host and the logs are fetched alike. The status of the response is tested, the body is then read
as what was fetched or else as any JSON value, and a warning is called for unless something was
loaded. The two differ in the test, in the reader and in the words of the warnings only, and what
is said of both is said of their common `Ending`. The host list is fetched in a way of its own,
without any rejections; how it can fail is told by `HostLinks.ofReply_eq_error`.

A failure carries the address of its fetch, if the failures of the client do: a body that cannot be
read is charged to that address by its decoder.
-/

namespace HostBoard

/-- How the fetch of a host or of the logs ends, whatever was loaded. -/
inductive Ending where
  | loaded
  | rejected (rejection : Rejection)
  | failed (failure : Failure)

namespace Ending

/-- The ending that a reply calls for, by a test of its status and a reader of its body. -/
def ofReply {α : Type} (check : SuccessCheck) (read : String → Except DecodeError α) (url : String) :
    Reply → Ending
  | .ok response =>
    if check.accepts response.status then
      match read response.body with
      | .ok _ => .loaded
      | .error e => .failed (.decode e)
    else
      match Payload.decodeValue url response.body with
      | .ok body => .rejected ⟨response.status, body⟩
      | .error e => .failed (.decode e)
  | .error e => .failed (.transport e)

/-- The warning that an ending calls for, when a response was received. -/
def warnings (span : Span) (rejection payload : String) : Ending → List Event
  | .rejected r => [span.warn rejection r.fields]
  | .failed (.decode e) => [span.warn payload [("error", e.text)]]
  | _ => []

end Ending

def HostOutcome.ending : HostOutcome → Ending
  | .loaded _ => .loaded
  | .rejected r => .rejected r
  | .failed failure => .failed failure

def LogsOutcome.ending : LogsOutcome → Ending
  | .entries _ => .loaded
  | .rejected r => .rejected r
  | .failed failure => .failed failure

namespace Ending

lemma mem_warnings {span : Span} {rejection payload : String} {ending : Ending} {event : Event}
    (among : event ∈ ending.warnings span rejection payload) :
    event.level = .warn ∧ event.span = span := by
  cases ending with
  | loaded => cases among
  | rejected r =>
    cases List.mem_singleton.mp among
    exact ⟨rfl, rfl⟩
  | failed failure =>
    cases failure with
    | transport e => cases among
    | decode e =>
      cases List.mem_singleton.mp among
      exact ⟨rfl, rfl⟩

lemma length_warnings_le (span : Span) (rejection payload : String) (ending : Ending) :
    (ending.warnings span rejection payload).length ≤ 1 := by
  cases ending with
  | loaded => exact Nat.zero_le 1
  | rejected r => exact Nat.le_refl 1
  | failed failure =>
    cases failure with
    | transport e => exact Nat.zero_le 1
    | decode e => exact Nat.le_refl 1

variable {α : Type} (check : SuccessCheck) (read : String → Except DecodeError α) (url : String)

/-- A response calls for no warning exactly if its status is a success and its body can be read. -/
lemma warnings_ofReply_ok_eq_nil_iff (span : Span) (rejection payload : String)
    (response : Response) :
    (ofReply check read url (.ok response)).warnings span rejection payload = [] ↔
      check.accepts response.status = true ∧ ∃ v, read response.body = .ok v := by
  by_cases accepted : check.accepts response.status = true
  · simp only [ofReply, if_pos accepted]
    cases read response.body with
    | ok v => exact iff_of_true rfl ⟨accepted, v, rfl⟩
    | error e => exact iff_of_false nofun nofun
  · simp only [ofReply, if_neg accepted]
    refine iff_of_false ?_ fun hoped => accepted hoped.1
    cases Payload.decodeValue url response.body with
    | ok body => exact nofun
    | error e => exact nofun

/-- A failure is that of the request, or else a body that cannot be read. -/
lemma ofReply_eq_failed {reply : Reply} {failure : Failure}
    (failed : ofReply check read url reply = .failed failure) :
    (∃ e, reply = .error e ∧ failure = .transport e) ∨
      ∃ response e, reply = .ok response ∧ failure = .decode e ∧
        (read response.body = .error e ∨ Payload.decodeValue url response.body = .error e) := by
  cases reply with
  | error e =>
    cases failed
    exact .inl ⟨e, rfl, rfl⟩
  | ok response =>
    right
    simp only [ofReply] at failed
    split at failed
    · split at failed
      · cases failed
      next e unread =>
        cases failed
        exact ⟨response, e, rfl, rfl, .inl unread⟩
    · split at failed
      · cases failed
      next e unread =>
        cases failed
        exact ⟨response, e, rfl, rfl, .inr unread⟩

end Ending

lemma HostOutcome.warnings_eq (span : Span) (outcome : HostOutcome) :
    outcome.warnings span =
      outcome.ending.warnings span "host request rejected" "host payload rejected" := by
  cases outcome with
  | loaded host => rfl
  | rejected r => rfl
  | failed failure => cases failure <;> rfl

lemma HostOutcome.ending_ofReply (url : String) (reply : Reply) :
    (HostOutcome.ofReply url reply).ending =
      Ending.ofReply .wholeClass (HostDescriptor.decode url) url reply := by
  cases reply with
  | error e => rfl
  | ok response =>
    simp only [HostOutcome.ofReply, HostOutcome.ofResponse, Ending.ofReply]
    split
    · cases HostDescriptor.decode url response.body <;> rfl
    · cases Payload.decodeValue url response.body <;> rfl

lemma LogsOutcome.warnings_eq (span : Span) (outcome : LogsOutcome) :
    outcome.warnings span =
      outcome.ending.warnings span "log request rejected" "log payload rejected" := by
  cases outcome with
  | entries read => rfl
  | rejected r => rfl
  | failed failure => cases failure <;> rfl

lemma LogsOutcome.ending_ofReply (url : String) (reply : Reply) :
    (LogsOutcome.ofReply url reply).ending =
      Ending.ofReply .firstTen (LogEntry.decodeList url) url reply := by
  cases reply with
  | error e => rfl
  | ok response =>
    simp only [LogsOutcome.ofReply, LogsOutcome.ofResponse, Ending.ofReply]
    split
    · cases LogEntry.decodeList url response.body <;> rfl
    · cases Payload.decodeValue url response.body <;> rfl

lemma Payload.url_of_decode_error {α : Type} {read : Json.Reader α} {url body : String}
    {e : DecodeError} (unread : Payload.decode read url body = .error e) : e.url = url := by
  unfold Payload.decode at unread
  split at unread
  · cases unread
  · cases unread
    rfl

section

variable {url : String} {reply : Reply} {failure : Failure}

lemma Ending.url_of_failed {α : Type} {check : SuccessCheck} {read : String → Except DecodeError α}
    (named : ∀ e, reply = .error e → e.url = url)
    (charged : ∀ body e, read body = .error e → e.url = url)
    (failed : Ending.ofReply check read url reply = .failed failure) : failure.url = url := by
  obtain ⟨e, lost, rfl⟩ | ⟨response, e, -, rfl, unread | unread⟩ := ofReply_eq_failed _ _ _ failed
  · exact named e lost
  · exact charged response.body e unread
  · exact Payload.url_of_decode_error unread

lemma HostOutcome.url_of_failed (named : ∀ e, reply = .error e → e.url = url)
    (failed : HostOutcome.ofReply url reply = .failed failure) : failure.url = url := by
  have ended := HostOutcome.ending_ofReply url reply
  rw [failed] at ended
  exact Ending.url_of_failed named (fun _ _ => Payload.url_of_decode_error) ended.symm

lemma LogsOutcome.url_of_failed (named : ∀ e, reply = .error e → e.url = url)
    (failed : LogsOutcome.ofReply url reply = .failed failure) : failure.url = url := by
  have ended := LogsOutcome.ending_ofReply url reply
  rw [failed] at ended
  exact Ending.url_of_failed named (fun _ _ => Payload.url_of_decode_error) ended.symm

/-- Without a host list the request has failed, or the body is no host list. -/
lemma HostLinks.ofReply_eq_error (failed : HostLinks.ofReply url reply = .error failure) :
    (∃ e, reply = .error e ∧ failure = .transport e) ∨
      ∃ response e, reply = .ok response ∧ failure = .decode e ∧
        HostEntry.decodeList url response.body = .error e := by
  cases reply with
  | error e =>
    cases failed
    exact .inl ⟨e, rfl, rfl⟩
  | ok response =>
    right
    simp only [HostLinks.ofReply, HostLinks.ofResponse] at failed
    split at failed
    · cases failed
    next e unread =>
      cases failed
      exact ⟨response, e, rfl, rfl, unread⟩

lemma HostLinks.url_of_error (named : ∀ e, reply = .error e → e.url = url)
    (failed : HostLinks.ofReply url reply = .error failure) : failure.url = url := by
  obtain ⟨e, lost, rfl⟩ | ⟨response, e, -, rfl, unread⟩ := ofReply_eq_error failed
  · exact named e lost
  · exact Payload.url_of_decode_error unread

end

end HostBoard
