import HostBoard.Client.Routes
import HostBoard.Proofs.Service.Requests
import Mathlib.Logic.Basic

/-!
# Clients with a table of answers

A client may treat every address on its own. What it answers to a request then depends on the
address and on how often that address was asked for before, and on no other request; a table with
one row for each address says everything about it (`Client.Tabled`).

Scripted clients are of this kind (`Routes.client_tabled`). A request changes the row of its own
address, which loses its first answer unless that is its last (`Routes.answers_get`), and from one
request to the next the table of what is left is the old table, shifted by one in that row.

What such a client answers does not depend on the order in which different addresses were asked for
(`Client.Tabled.answers_eq`). Its state may still remember that order. Where it does not, as in the
client that counts the requests for each address and keeps nothing else, the state depends on the
requests up to their order (`Client.Unordered.state_eq`).
-/

namespace HostBoard

/-- The client answers from a table: the row is the address, and the column is the number of
requests for that address before. -/
def Client.Tabled {σ : Type} (client : Client σ) (state : σ) (table : String → Nat → Reply) :
    Prop :=
  ∀ (asked : List String) (url : String),
    (client.get (client.answers state asked).2 url).1 = table url (asked.count url)

namespace Client

variable {σ : Type} {client : Client σ} {state : σ}

/-- Two states from which everything is answered alike. -/
def Alike (client : Client σ) (first second : σ) : Prop :=
  ∀ asked, (client.answers first asked).1 = (client.answers second asked).1

/-- The state does not remember in which order two requests were made. -/
def Unordered (client : Client σ) (state : σ) : Prop :=
  ∀ (asked : List String) (u v : String),
    (client.answers state (asked ++ [u, v])).2 = (client.answers state (asked ++ [v, u])).2

/-- The client of a table that counts the requests for each address. -/
def ofTable (table : String → Nat → Reply) : Client (String → Nat) where
  get counts url := (table url (counts url), fun other => counts other + [url].count other)

lemma state_answers_append (client : Client σ) (state : σ) (first second : List String) :
    (client.answers state (first ++ second)).2 =
      (client.answers (client.answers state first).2 second).2 := by
  induction first generalizing state with
  | nil => rfl
  | cons url first ih => exact ih (client.get state url).2

lemma replies_answers_append (client : Client σ) (state : σ) (first second : List String) :
    (client.answers state (first ++ second)).1 =
      (client.answers state first).1 ++
        (client.answers (client.answers state first).2 second).1 := by
  induction first generalizing state with
  | nil => rfl
  | cons url first ih => exact congrArg (_ :: ·) (ih (client.get state url).2)

lemma Tabled.reply_eq {table : String → Nat → Reply} (tabled : client.Tabled state table)
    {first second : List String} {url : String} (same : first.count url = second.count url) :
    (client.get (client.answers state first).2 url).1 =
      (client.get (client.answers state second).2 url).1 := by
  rw [tabled first url, tabled second url, same]

/-- Addresses that were asked for equally often before are answered alike. -/
lemma Tabled.answers_eq {table : String → Nat → Reply} (tabled : client.Tabled state table)
    {first second urls : List String}
    (same : ∀ url ∈ urls, first.count url = second.count url) :
    (client.answers (client.answers state first).2 urls).1 =
      (client.answers (client.answers state second).2 urls).1 := by
  induction urls generalizing first second with
  | nil => rfl
  | cons url urls ih =>
    have here := tabled.reply_eq (same url List.mem_cons_self)
    -- Both sides have now been asked for the address once more.
    have rest := @ih (first ++ [url]) (second ++ [url]) fun other among => by
      rw [List.count_append, List.count_append, same other (List.mem_cons_of_mem url among)]
    rw [state_answers_append, state_answers_append] at rest
    exact congrArg₂ List.cons here rest

lemma Tabled.alike {table : String → Nat → Reply} (tabled : client.Tabled state table)
    {first second : List String} (perm : first.Perm second) :
    client.Alike (client.answers state first).2 (client.answers state second).2 :=
  fun _ => tabled.answers_eq fun url _ => perm.count_eq url

lemma Unordered.state_append_eq (unordered : client.Unordered state) {first second : List String}
    (perm : first.Perm second) (asked : List String) :
    (client.answers state (asked ++ first)).2 = (client.answers state (asked ++ second)).2 := by
  induction perm generalizing asked with
  | nil => rfl
  | cons url _ ih =>
    have moved := ih (asked ++ [url])
    rw [List.append_assoc, List.append_assoc] at moved
    exact moved
  | swap u v rest =>
    have swapped := congrArg (fun s => (client.answers s rest).2) (unordered asked v u)
    rw [← state_answers_append, ← state_answers_append, List.append_assoc,
      List.append_assoc] at swapped
    exact swapped
  | trans _ _ one two => exact (one asked).trans (two asked)

lemma Unordered.state_eq (unordered : client.Unordered state) {first second : List String}
    (perm : first.Perm second) :
    (client.answers state first).2 = (client.answers state second).2 :=
  unordered.state_append_eq perm []

lemma state_answers_ofTable (table : String → Nat → Reply) (counts : String → Nat)
    (asked : List String) :
    ((ofTable table).answers counts asked).2 = fun url => counts url + asked.count url := by
  induction asked generalizing counts with
  | nil => rfl
  | cons first asked ih =>
    refine (ih _).trans (funext fun url => ?_)
    rw [Nat.add_assoc, ← List.count_append]
    rfl

lemma tabled_ofTable (table : String → Nat → Reply) :
    (ofTable table).Tabled (fun _ => 0) table := by
  intro asked url
  rw [state_answers_ofTable]
  exact congrArg (table url) (Nat.zero_add _)

lemma unordered_ofTable (table : String → Nat → Reply) (counts : String → Nat) :
    (ofTable table).Unordered counts := by
  intro asked u v
  have perm : (asked ++ [u, v]).Perm (asked ++ [v, u]) := (List.Perm.swap v u []).append_left asked
  rw [state_answers_ofTable, state_answers_ofTable]
  exact funext fun url => congrArg (counts url + ·) (perm.count_eq url)

end Client

namespace Routes

/-- The answers that are left after some requests, of which the last one always is. -/
def remaining (replies : List ScriptedReply) (count : Nat) : List ScriptedReply :=
  replies.drop (min count (replies.length - 1))

/-- The table of a script. -/
def table (routes : Routes) (url : String) (count : Nat) : Reply :=
  match remaining (routes.answers url) count with
  | [] => .error ⟨url, "connection refused"⟩
  | reply :: _ => reply.mapError (TransportError.mk url)

@[simp]
lemma remaining_zero (replies : List ScriptedReply) : remaining replies 0 = replies := by
  rw [remaining, Nat.zero_min, List.drop_zero]

lemma remaining_one_cons (reply next : ScriptedReply) (replies : List ScriptedReply) :
    remaining (reply :: next :: replies) 1 = next :: replies := by
  have one : min 1 ((reply :: next :: replies).length - 1) = 1 := by simp
  rw [remaining, one]
  rfl

lemma remaining_remaining (replies : List ScriptedReply) (first second : Nat) :
    remaining (remaining replies first) second = remaining replies (second + first) := by
  simp only [remaining, List.drop_drop, List.length_drop]
  congr 1
  omega

lemma answers_replace_self (routes : Routes) (url : String) (replies : List ScriptedReply) :
    (routes.replace url replies).answers url = replies := by
  rw [answers, replace, List.lookup_cons_self, Option.getD_some]

lemma lookup_filter_ne {url other : String} (differ : other ≠ url) (routes : Routes) :
    (routes.filter fun route => route.1 ≠ url).lookup other = routes.lookup other := by
  induction routes with
  | nil => rfl
  | cons route routes ih =>
    obtain ⟨key, replies⟩ := route
    by_cases dropped : key = url
    · have skipped : (other == key) = false := beq_false_of_ne (dropped ▸ differ)
      rw [List.filter_cons_of_neg (by simp [dropped]), ih, List.lookup_cons, skipped]
    · rw [List.filter_cons_of_pos (by simp [dropped]), List.lookup_cons, List.lookup_cons, ih]

lemma answers_replace_ne {url other : String} (differ : other ≠ url) (routes : Routes)
    (replies : List ScriptedReply) :
    (routes.replace url replies).answers other = routes.answers other := by
  have skipped : (other == url) = false := beq_false_of_ne differ
  rw [answers, replace, List.lookup_cons, skipped, lookup_filter_ne differ, answers]

/-- A request takes the first answer of its own address, unless it is the last one. -/
lemma answers_get (routes : Routes) (url other : String) :
    (routes.get url).2.answers other =
      remaining (routes.answers other) (if url = other then 1 else 0) := by
  by_cases same : url = other
  · subst same
    rw [if_pos rfl, get]
    cases left : routes.answers url with
    | nil => exact left
    | cons reply replies =>
      cases replies with
      | nil => exact left
      | cons next replies =>
        rw [remaining_one_cons]
        exact answers_replace_self routes url (next :: replies)
  · rw [if_neg same, remaining_zero, get]
    cases routes.answers url with
    | nil => rfl
    | cons reply replies =>
      cases replies with
      | nil => rfl
      | cons next replies => exact answers_replace_ne (Ne.symm same) routes (next :: replies)

lemma reply_get (routes : Routes) (url : String) : (routes.get url).1 = routes.table url 0 := by
  rw [table, remaining_zero, get]
  cases routes.answers url with
  | nil => rfl
  | cons reply replies => cases replies <;> rfl

/-- A request shifts the row of its own address by one. -/
lemma table_get (routes : Routes) (url other : String) (count : Nat) :
    (routes.get url).2.table other count =
      routes.table other (count + if url = other then 1 else 0) := by
  rw [table, table, answers_get, remaining_remaining]

/-- Replacing the answers of an address changes its own row only. -/
lemma table_replace_ne {url other : String} (differ : other ≠ url) (routes : Routes)
    (replies : List ScriptedReply) :
    (routes.replace url replies).table other = routes.table other := by
  funext count
  rw [table, table, answers_replace_ne differ]

/-- Scripted clients answer from a table. -/
lemma client_tabled (routes : Routes) : client.Tabled routes routes.table := by
  intro asked url
  induction asked generalizing routes with
  | nil => exact reply_get routes url
  | cons first asked ih =>
    have rest := ih (routes.get first).2
    rw [table_get] at rest
    rw [List.count_cons]
    simp only [beq_iff_eq]
    exact rest

end Routes

end HostBoard
