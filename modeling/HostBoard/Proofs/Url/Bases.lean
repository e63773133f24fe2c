import HostBoard.Url.BaseUrl
import Mathlib.Tactic.Common

/-!
# Accepted base addresses

What is known of an address once it has been accepted as a base (`IsBase`): it has an authority, its
path starts at the root, and a port that its scheme implies is left out. So it is known by its
parts: two bases with the same scheme, credentials, host and port have the same authority
(`IsBase.authority_eq`).

Reading is followed from the port outwards, one lemma for each function that reads a part.
-/

namespace HostBoard.Url

/-- The port of an authority is not the one that a scheme implies. -/
def Authority.Explicit (scheme : String) (a : Authority) : Prop :=
  ∀ port, a.port = some port → defaultPort? scheme ≠ some port

/-- An address that may be a base. -/
structure IsBase (u : Url) : Prop where
  scheme : u.scheme = "http" ∨ u.scheme = "https"
  authority : ∃ a, u.authority = some a ∧ a.Explicit u.scheme
  path : ∃ names, u.path = .segments names

/-- Two addresses of one scheme on one host and port, with the same credentials. -/
structure SameOrigin (u v : Url) : Prop where
  scheme : u.scheme = v.scheme
  username : u.username = v.username
  password : u.password = v.password
  host : u.host = v.host
  port : u.port = v.port

/-! ### Reading an authority -/

lemma bind_eq_ok {α β : Type} {x : Except UrlError α} {f : α → Except UrlError β} {b : β}
    (read : x >>= f = .ok b) : ∃ a, x = .ok a ∧ f a = .ok b := by
  cases x with
  | error e => cases read
  | ok a => exact ⟨a, rfl, read⟩

variable {idna : Idna} {scheme : String} {text rest left : List Char} {u v : Url}

lemma parsePort_explicit {port : Nat} (read : parsePort scheme text = .ok (some port)) :
    defaultPort? scheme ≠ some port := by
  unfold parsePort at read
  split_ifs at read
  · cases read
  · split at read
    · split_ifs at read with large implied
      · cases read
      · cases read
        exact implied
    · cases read

lemma parseHostAndPort_explicit {host : Option Host} {port : Nat}
    (read : parseHostAndPort idna scheme text = .ok (host, some port, left)) :
    defaultPort? scheme ≠ some port := by
  obtain ⟨host, -, read⟩ := bind_eq_ok read
  split at read
  · cases read
  · obtain ⟨port, parsed, read⟩ := bind_eq_ok read
    cases read
    exact parsePort_explicit parsed

lemma parseAuthority_explicit {a : Authority}
    (read : parseAuthority idna scheme text rest = .ok (a, left)) : a.Explicit scheme := by
  intro port written
  unfold parseAuthority at read
  split at read
  · obtain ⟨⟨host, found, left⟩, parsed, read⟩ := bind_eq_ok read
    cases read
    cases written
    exact parseHostAndPort_explicit parsed
  · obtain ⟨-, -, read⟩ := bind_eq_ok read
    obtain ⟨⟨host, found, left⟩, parsed, read⟩ := bind_eq_ok read
    dsimp only at read
    split_ifs at read
    cases read
    cases written
    exact parseHostAndPort_explicit parsed

/-- What reading an address from its authority on gives. -/
lemma fromAuthority_eq_ok (read : fromAuthority idna scheme text = .ok u) :
    u.scheme = scheme ∧ (∃ a, u.authority = some a ∧ a.Explicit scheme) ∧
      ∃ names, u.path = .segments names := by
  obtain ⟨⟨a, left⟩, parsed, read⟩ := bind_eq_ok read
  cases read
  exact ⟨rfl, ⟨a, rfl, parseAuthority_explicit parsed⟩, _, rfl⟩

/-! ### Reading a base -/

lemma scheme_fromOther (read : fromOther idna scheme text = .ok u) : u.scheme = scheme := by
  unfold fromOther at read
  split at read
  · exact (fromAuthority_eq_ok read).1
  · cases read
    rfl
  · cases read
    rfl

lemma scheme_fromFileHost (read : fromFileHost idna text = .ok u) : u.scheme = "file" := by
  unfold fromFileHost at read
  dsimp only at read
  split_ifs at read
  · cases read
    rfl
  · obtain ⟨host, -, read⟩ := bind_eq_ok read
    cases host with
    | none =>
      cases read
      rfl
    | some host =>
      cases read
      rfl

lemma scheme_fromFile (read : fromFile idna text = .ok u) : u.scheme = "file" := by
  unfold fromFile at read
  split at read
  · cases read
    rfl
  · split at read
    · cases read
      rfl
    · exact scheme_fromFileHost read

lemma family_eq_web (web : scheme = "http" ∨ scheme = "https") : family scheme = .web := by
  rcases web with rfl | rfl
  · rfl
  · rfl

lemma isBase_of_parseBase {raw : String} (accepted : parseBase idna raw = .ok u) : IsBase u := by
  obtain ⟨read, web⟩ := parseBase_eq_ok_iff.mp accepted
  unfold parse at read
  dsimp only at read
  split at read
  · next scheme rest _ =>
    split at read
    · obtain ⟨rfl, authority, path⟩ := fromAuthority_eq_ok read
      exact ⟨web, authority, path⟩
    -- The readers of the other families keep to their schemes, and those are not of the web.
    · rw [scheme_fromFile read] at web
      exact absurd web (by decide)
    · next other =>
      rw [← scheme_fromOther read, family_eq_web web] at other
      cases other
  · cases read

lemma IsBase.isSpecial (base : IsBase u) : (family u.scheme).isSpecial = true := by
  rw [family_eq_web base.scheme]
  rfl

/-- Explicit ports that come to the same port are written alike. -/
lemma Authority.Explicit.port_eq {a b : Authority} (first : a.Explicit scheme)
    (second : b.Explicit scheme)
    (same : a.port.or (defaultPort? scheme) = b.port.or (defaultPort? scheme)) :
    a.port = b.port := by
  cases ours : a.port with
  | none =>
    cases theirs : b.port with
    | none => rfl
    | some port =>
      rw [ours, theirs] at same
      exact absurd same (second port theirs)
  | some port =>
    cases theirs : b.port with
    | none =>
      rw [ours, theirs] at same
      exact absurd same.symm (first port ours)
    | some other =>
      rw [ours, theirs] at same
      exact same

lemma IsBase.authority_eq (first : IsBase u) (second : IsBase v) (same : SameOrigin u v) :
    u.authority = v.authority := by
  obtain ⟨⟨username, password, host, port⟩, ours, explicit⟩ := first.authority
  obtain ⟨⟨username', password', host', port'⟩, theirs, explicit'⟩ := second.authority
  obtain ⟨sameScheme, sameUser, samePassword, sameHost, samePort⟩ := same
  rw [Url.username, Url.username, ours, theirs] at sameUser
  rw [Url.password, Url.password, ours, theirs] at samePassword
  rw [Url.host, Url.host, ours, theirs] at sameHost
  rw [Url.port, Url.port, ours, theirs, ← sameScheme] at samePort
  rw [← sameScheme] at explicit'
  rw [ours, theirs, Option.some_inj, Authority.mk.injEq]
  exact ⟨sameUser, samePassword, sameHost, explicit.port_eq explicit' samePort⟩

end HostBoard.Url
