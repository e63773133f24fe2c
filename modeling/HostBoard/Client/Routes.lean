import HostBoard.Client.Basic

/-!
# Scripted clients

A client that answers from a script. Each address has a list of answers; a request takes the first
of them, and the last one stays for all further requests. An address without answers cannot be
connected to.
-/

namespace HostBoard

/-- An answer of a script: a response, or why there is none. -/
abbrev ScriptedReply := Except String Response

/-- The answers of every address that has some. -/
abbrev Routes := List (String × List ScriptedReply)

namespace Routes

/-- The answers that are left for an address. -/
def answers (routes : Routes) (url : String) : List ScriptedReply :=
  (routes.lookup url).getD []

/-- Replace the answers of an address. -/
def replace (routes : Routes) (url : String) (replies : List ScriptedReply) : Routes :=
  (url, replies) :: routes.filter fun route => route.1 ≠ url

/-- The answer to a request, and the routes that are left. -/
def get (routes : Routes) (url : String) : Reply × Routes :=
  match routes.answers url with
  | [] => (.error ⟨url, "connection refused"⟩, routes)
  | [reply] => (reply.mapError (TransportError.mk url), routes)
  | reply :: replies => (reply.mapError (TransportError.mk url), routes.replace url replies)

/-- The client that answers from routes. -/
def client : Client Routes where
  get := get

end Routes

end HostBoard
