import HostBoard.Url.FilePath

/-!
# Reading addresses

An address is read alone or relative to another one. What has no scheme is relative; so is what has
the scheme of its base and no two slashes behind it.
-/

namespace HostBoard.Url

/-- A character of a scheme behind its first. -/
def isSchemeChar (c : Char) : Bool :=
  c.isAlphanum || c = '+' || c = '-' || c = '.'

/-- The scheme in lower case, and what stands behind its colon. -/
def splitScheme (text : List Char) : Option (String × List Char) :=
  match text with
  | [] => none
  | first :: _ =>
    if first.isAlpha then
      match text.dropWhile isSchemeChar with
      | ':' :: rest => some (String.ofList ((text.takeWhile isSchemeChar).map Char.toLower), rest)
      | _ => none
    else none

/-- A slash, or a backslash that stands for one. -/
def isSlash (c : Char) : Bool :=
  c = '/' || c = '\\'

/-- The query and the fragment, from the end of the path on. -/
def queryAndFragment (special : Bool) (text : List Char) : Option String × Option String :=
  let fragmentOf (text : List Char) : String := String.ofList (percentEncode inFragment text)
  match text with
  | '?' :: text =>
    let query := String.ofList (percentEncode (inQuery special) (text.takeWhile (· ≠ '#')))
    match text.dropWhile (· ≠ '#') with
    | _ :: fragment => (some query, some (fragmentOf fragment))
    | [] => (some query, none)
  | '#' :: fragment => (none, some (fragmentOf fragment))
  | _ => (none, none)

/-- An address whose path and later parts are read from a text. -/
def assemble (scheme : String) (authority : Option Authority) (path : List Char → Path)
    (text : List Char) : Url :=
  let rest := text.dropWhile fun c => !isPathEnd c
  let (query, fragment) := queryAndFragment (family scheme).isSpecial rest
  ⟨scheme, authority, path (text.takeWhile fun c => !isPathEnd c), query, fragment⟩

/-- The end of an authority. -/
def isAuthorityEnd (special : Bool) (c : Char) : Bool :=
  c = '/' || c = '?' || c = '#' || (special && c = '\\')

/-- Split at the last of the signs that close credentials. -/
def splitCredentials (text : List Char) : Option (List Char × List Char) :=
  match text.reverse.dropWhile (· ≠ '@') with
  | [] => none
  | _ :: before => some (before.reverse, (text.reverse.takeWhile (· ≠ '@')).reverse)

/-- The user name and the password of credentials; an empty password is none. -/
def userAndPassword (text : List Char) : String × Option String :=
  let user := String.ofList (percentEncode inUserinfo (text.takeWhile (· ≠ ':')))
  match text.dropWhile (· ≠ ':') with
  | [] => (user, none)
  | [_] => (user, none)
  | _ :: password => (user, some (String.ofList (percentEncode inUserinfo password)))

/-- Split a host from its port, at the first colon outside brackets. -/
def splitPort (inside : Bool) : List Char → List Char × Option (List Char)
  | [] => ([], none)
  | c :: text =>
    if c = ':' ∧ !inside then ([], some text)
    else
      let inside := if c = '[' then true else if c = ']' then false else inside
      let (host, port) := splitPort inside text
      (c :: host, port)

/-- The port, unless it is empty or implied. -/
def parsePort (scheme : String) (digits : List Char) : Except UrlError (Option Nat) :=
  if digits.isEmpty then .ok none
  else if digits.all Char.isDigit then
    match Text.digitsValue? 10 digits with
    | some port =>
      if 65535 < port then .error .badPort
      else if defaultPort? scheme = some port then .ok none
      else .ok (some port)
    | none => .error .badPort
  else .error .badPort

/-- Read the host of an authority. -/
def parseHost (idna : Idna) (scheme : String) (text : List Char) (hasPort : Bool) :
    Except UrlError (Option Host) :=
  if (family scheme).isSpecial then
    if text.isEmpty then .error .emptyHost else some <$> Host.parse idna text
  else do
    let host ← Host.parseOther text
    if host.isNone ∧ hasPort then .error .emptyHost else return host

/-- Read the host and the port behind the credentials. Outside the web a backslash may end the
port, and starts the path. -/
def parseHostAndPort (idna : Idna) (scheme : String) (text : List Char) :
    Except UrlError (Option Host × Option Nat × List Char) := do
  let (hostText, portText) := splitPort false text
  let host ← parseHost idna scheme hostText portText.isSome
  match portText with
  | none => return (host, none, [])
  | some text =>
    let port ← parsePort scheme (text.takeWhile (· ≠ '\\'))
    return (host, port, text.dropWhile (· ≠ '\\'))

/-- Credentials that are empty must have a host behind them. -/
def checkEmptyCredentials (credentials hostAndPort rest : List Char) : Except UrlError Unit :=
  if credentials.isEmpty ∧ hostAndPort.isEmpty ∧ !rest.isEmpty then .error .emptyHost else .ok ()

/-- Read an authority up to its end; what `rest` holds stands behind it. The result holds the
characters that turned out to belong to the path. -/
def parseAuthority (idna : Idna) (scheme : String) (text rest : List Char) :
    Except UrlError (Authority × List Char) :=
  match splitCredentials text with
  | none => do
    let (host, port, left) ← parseHostAndPort idna scheme text
    return (⟨"", none, host, port⟩, left)
  | some (credentials, hostAndPort) => do
    checkEmptyCredentials credentials hostAndPort rest
    let (username, password) := userAndPassword credentials
    let (host, port, left) ← parseHostAndPort idna scheme hostAndPort
    if host.isNone ∧ (username ≠ "" ∨ password.isSome) then .error .emptyHost
    else return (⟨username, password, host, port⟩, left)

/-- Read an address from its authority on. -/
def fromAuthority (idna : Idna) (scheme : String) (text : List Char) : Except UrlError Url := do
  let special := (family scheme).isSpecial
  let rest := text.dropWhile fun c => !isAuthorityEnd special c
  let (authority, left) ←
    parseAuthority idna scheme (text.takeWhile fun c => !isAuthorityEnd special c) rest
  return assemble scheme (some authority)
    (fun path => .segments (pathBehindAuthority special path)) (left ++ rest)

/-- Read an address relative to another one. -/
def relativeTo (idna : Idna) (base : Url) (text : List Char) : Except UrlError Url :=
  let special := (family base.scheme).isSpecial
  match base.path, text with
  | _, '#' :: _ => .ok { base with fragment := (queryAndFragment special text).2 }
  | .rootless _, _ => .error .rootlessBase
  | .segments _, [] => .ok base.withoutFragment
  | .segments _, '?' :: _ =>
    let (query, fragment) := queryAndFragment special text
    .ok { base with query := query, fragment := fragment }
  | .segments names, c :: rest =>
    if isSlash c then
      if (rest.head?.map isSlash).getD false then
        match text with
        | '/' :: '/' :: text => fromAuthority idna base.scheme text
        | text => fromAuthority idna base.scheme (text.dropWhile isSlash)
      else .ok (assemble base.scheme base.authority
        (fun path => .segments (pathFrom special [] path)) rest)
    else .ok (assemble base.scheme base.authority
      (fun path => .segments (pathFrom special names.dropLast path)) text)

/-- Read the host of a file; the local host is none. -/
def fileHost (idna : Idna) (text : List Char) : Except UrlError (Option Host) :=
  if text.isEmpty then .ok none
  else
    match Host.parse idna text with
    | .ok (.domain "localhost") => .ok none
    | .ok host => .ok (some host)
    | .error e => .error e

/-- An authority that is only a host. -/
def hostOnly (host : Option Host) : Authority :=
  ⟨"", none, host, none⟩

/-- The address of a file, from its path on. A path that starts at a drive leaves no host. -/
def fileAt (host : Option Host) (text : List Char) : Url :=
  let walk := walkFile (text.takeWhile fun c => !isPathEnd c)
  let rest := significant (text.dropWhile fun c => !isPathEnd c)
  let (query, fragment) := queryAndFragment true rest
  ⟨"file", some (hostOnly (if walk.onDrive then none else host)), .segments walk.path, query,
    fragment⟩

/-- Read the address of a file from its host on. A drive takes the place of a host. The slash that
ends a host starts the path; where there is no host, it is an empty segment in front of the path. -/
def fromFileHost (idna : Idna) (text : List Char) : Except UrlError Url := do
  let name := significant (text.takeWhile fun c => !isAuthorityEnd true c)
  let behind := text.dropWhile fun c => !isAuthorityEnd true c
  if isDrive name then return fileAt none text
  else
    match ← fileHost idna name with
    | none => return fileAt none behind
    | some host => return fileAt (some host) (dropSeparator true behind)

/-- What stands behind a slash, if the first character that counts is one. -/
def behindSlash? (text : List Char) : Option (List Char) :=
  match text.dropWhile isInnerBlank with
  | [] => none
  | c :: rest => if isSlash c then some rest else none

/-- Read the address of a file, with its blanks still in place. -/
def fromFile (idna : Idna) (text : List Char) : Except UrlError Url :=
  match behindSlash? text with
  | none => .ok (fileAt none text)
  | some path =>
    match behindSlash? path with
    | none => .ok (fileAt none path)
    | some host => fromFileHost idna host

/-- Read an address of a scheme outside the web. -/
def fromOther (idna : Idna) (scheme : String) (text : List Char) : Except UrlError Url :=
  match text with
  | '/' :: '/' :: text => fromAuthority idna scheme text
  | '/' :: text => .ok (assemble scheme none (fun path => .segments (pathFrom false [] path)) text)
  | text => .ok (assemble scheme none
      (fun path => .rootless (String.ofList (percentEncode alwaysEncoded path))) text)

/-- Read an address of the web; with the scheme of its base it may be relative. -/
def fromWeb (idna : Idna) (base : Option Url) (scheme : String) (text : List Char) :
    Except UrlError Url :=
  let absolute := fromAuthority idna scheme (text.dropWhile isSlash)
  match base with
  | none => absolute
  | some base =>
    if (text.takeWhile isSlash).length < 2 ∧ base.scheme = scheme then relativeTo idna base text
    else absolute

/-- Read an address, relative to a base if there is one. -/
def parse (idna : Idna) (base : Option Url) (raw : String) : Except UrlError Url :=
  let written := trimmed raw
  let text := significant written
  match splitScheme text with
  | some (scheme, rest) =>
    match family scheme with
    | .web => fromWeb idna base scheme rest
    | .file => fromFile idna (written.dropWhile (· ≠ ':')).tail
    | .other => fromOther idna scheme rest
  | none =>
    match base with
    | some base => relativeTo idna base text
    | none => .error .relativeWithoutBase

/-- Read an address relative to another one. -/
def resolve (idna : Idna) (base : Url) (href : String) : Except UrlError Url :=
  parse idna (some base) href

end HostBoard.Url
