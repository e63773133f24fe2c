import HostBoard.Url.Host

/-!
# Addresses

An address has a scheme, perhaps an authority, a path, and perhaps a query and a fragment. Its
text is put together from these parts, all of which are kept percent-encoded.
-/

namespace HostBoard

namespace Url

/-- Who is asked: credentials, a host and a port. A port that the scheme implies is left out. -/
structure Authority where
  username : String
  password : Option String
  host : Option Host
  port : Option Nat
deriving DecidableEq, Repr

/-- A path from the root in segments, or a text without any structure. -/
inductive Path where
  | segments (names : List String)
  | rootless (name : String)
deriving DecidableEq, Repr

/-- The text of a path. -/
def Path.text : Path → String
  | .segments names => String.join (names.map ("/" ++ ·))
  | .rootless name => name

end Url

/-- An address. -/
structure Url where
  scheme : String
  authority : Option Url.Authority
  path : Url.Path
  query : Option String
  fragment : Option String
deriving DecidableEq, Repr

namespace Url

/-- The port that a scheme of the web implies. -/
def defaultPort? : String → Option Nat
  | "http" => some 80
  | "ws" => some 80
  | "https" => some 443
  | "wss" => some 443
  | "ftp" => some 21
  | _ => none

/-- The families of schemes that are read differently. -/
inductive Family where
  | web
  | file
  | other
deriving DecidableEq, Repr

/-- The family of a scheme. -/
def family (scheme : String) : Family :=
  if scheme = "file" then .file
  else if (defaultPort? scheme).isSome then .web
  else .other

/-- In these families a backslash separates like a slash. -/
def Family.isSpecial : Family → Bool
  | .web => true
  | .file => true
  | .other => false

namespace Authority

/-- The credentials with the sign behind them, or nothing. -/
def credentials (a : Authority) : String :=
  match a.password with
  | some password => a.username ++ ":" ++ password ++ "@"
  | none => if a.username.isEmpty then "" else a.username ++ "@"

/-- The text of an authority. -/
def text (a : Authority) : String :=
  "//" ++ a.credentials ++ (a.host.map Host.text).getD "" ++
    (a.port.map fun p => ":" ++ toString p).getD ""

/-- An authority without credentials. -/
def withoutCredentials (a : Authority) : Authority :=
  { a with username := "", password := none }

end Authority

/-- The text of an address. A path that would read as an authority is set off by a dot. -/
def text (u : Url) : String :=
  let path := u.path.text
  u.scheme ++ ":" ++
    (match u.authority with
      | some a => a.text
      | none => if path.startsWith "//" then "/." else "") ++
    path ++
    (u.query.map ("?" ++ ·)).getD "" ++
    (u.fragment.map ("#" ++ ·)).getD ""

/-- The host, if there is one. -/
def host (u : Url) : Option Host :=
  u.authority.bind Authority.host

/-- The port, whether written or implied. -/
def port (u : Url) : Option Nat :=
  (u.authority.bind Authority.port).or (defaultPort? u.scheme)

/-- The user name, which may be empty. -/
def username (u : Url) : String :=
  (u.authority.map Authority.username).getD ""

/-- The password, if there is one. -/
def password (u : Url) : Option String :=
  u.authority.bind Authority.password

/-- The address without credentials. -/
def withoutCredentials (u : Url) : Url :=
  { u with authority := u.authority.map Authority.withoutCredentials }

/-- The address without its fragment. -/
def withoutFragment (u : Url) : Url :=
  { u with fragment := none }

end Url

end HostBoard
