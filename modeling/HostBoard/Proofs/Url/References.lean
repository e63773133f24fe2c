import HostBoard.Net.HttpClient
import HostBoard.Proofs.Url.Bases
import Mathlib.Data.List.DropRight

/-!
# References

How a reference is resolved against a base address, for the two kinds of references that a service
hands out. One that starts with a single slash (`IsRooted`) stays on the origin of the base, and of
the base nothing else matters. One that starts with a scheme of the web and two slashes
(`IsAbsolute`) does not depend on the base at all: it is read as a base address would be.

Both rest on what reading makes of the first characters of a reference. These are no blanks, so they
stay in front (`trimmed_append`), whatever follows them.
-/

namespace HostBoard.Url

/-- A reference that starts with one slash. A backslash would count as another one, and a tab or a
line break would be dropped from between them. -/
structure IsRooted (href : String) : Prop where
  slash : href.toList.head? = some '/'
  single : ∀ c ∈ href.toList[1]?, c ≠ '/' ∧ c ≠ '\\'
  unbroken : ∀ c ∈ href.toList, c ≠ '\t' ∧ c ≠ '\n' ∧ c ≠ '\r'

/-- A reference that starts with a scheme of the web, in letters of either case, and two slashes. -/
def IsAbsolute (href : String) : Prop :=
  ∃ letters rest : List Char, href.toList = letters ++ ':' :: '/' :: '/' :: rest ∧
    (String.ofList (letters.map Char.toLower) = "http" ∨
      String.ofList (letters.map Char.toLower) = "https")

/-! ### The start of a reference -/

/-- Behind a text without blanks, only the end of what follows it is trimmed. -/
lemma trimmed_append {raw : String} {front back : List Char} (nonempty : front ≠ [])
    (solid : ∀ c ∈ front, ¬isOuterBlank c) (here : raw.toList = front ++ back) :
    ∃ kept, kept <+: back ∧ trimmed raw = front ++ kept := by
  have starts : (front ++ back).dropWhile isOuterBlank = front ++ back := by
    obtain ⟨c, more, rfl⟩ := List.exists_cons_of_ne_nil nonempty
    exact List.dropWhile_cons_of_neg (solid c List.mem_cons_self)
  have ends : front.rdropWhile isOuterBlank = front :=
    List.rdropWhile_eq_self_iff.mpr fun some => solid _ (List.getLast_mem some)
  refine ⟨back.rdropWhile isOuterBlank, List.rdropWhile_prefix .., ?_⟩
  rw [trimmed, here, starts, List.reverse_append, List.dropWhile_append]
  split
  · next gone =>
    have nothing : back.rdropWhile isOuterBlank = [] := by
      rw [List.rdropWhile, List.isEmpty_iff.mp gone, List.reverse_nil]
    rw [nothing, List.append_nil]
    exact ends
  · rw [List.reverse_append, List.reverse_reverse, List.rdropWhile]

lemma isOuterBlank_of_isInnerBlank {c : Char} (blank : isInnerBlank c) : isOuterBlank c := by
  simp only [isInnerBlank, Bool.or_eq_true, decide_eq_true_eq] at blank
  rcases blank with (rfl | rfl) | rfl
  · rfl
  · rfl
  · rfl

/-- A text without blanks stands in front of what is read, too. -/
lemma significant_trimmed_append {raw : String} {front back : List Char} (nonempty : front ≠ [])
    (solid : ∀ c ∈ front, ¬isOuterBlank c) (here : raw.toList = front ++ back) :
    ∃ kept, kept <+: back ∧ significant (trimmed raw) = front ++ significant kept := by
  obtain ⟨kept, within, trim⟩ := trimmed_append nonempty solid here
  refine ⟨kept, within, ?_⟩
  have whole : significant front = front := by
    apply List.filter_eq_self.mpr
    intro c member
    have := mt isOuterBlank_of_isInnerBlank (solid c member)
    simpa using this
  calc significant (trimmed raw)
      = significant front ++ significant kept := by rw [trim, significant, List.filter_append]; rfl
    _ = front ++ significant kept := by rw [whole]

/-! ### References from the root -/

variable {idna : Idna} {href : String} {base : Url}

/-- What is read of a reference from the root: a slash, and no other slash behind it. -/
lemma IsRooted.significant_trimmed (rooted : IsRooted href) :
    ∃ path, significant (trimmed href) = '/' :: path ∧
      (path.head?.map isSlash).getD false = false := by
  obtain ⟨slash, single, unbroken⟩ := rooted
  obtain ⟨path, here⟩ : ∃ path, href.toList = '/' :: path := List.head?_eq_some_iff.mp slash
  rw [here] at single unbroken
  have solid : ∀ c ∈ ['/'], ¬isOuterBlank c := by simp [isOuterBlank]
  obtain ⟨kept, within, read⟩ := significant_trimmed_append (by simp) solid here
  have whole : significant kept = kept := by
    apply List.filter_eq_self.mpr
    intro c member
    obtain ⟨tab, feed, carriage⟩ := unbroken c (List.mem_cons_of_mem _ (within.subset member))
    simp [isInnerBlank, tab, feed, carriage]
  refine ⟨kept, by rw [read, whole]; rfl, ?_⟩
  -- Trimming may take all that follows the slash, but it brings nothing else there.
  cases kept with
  | nil => rfl
  | cons c kept =>
    obtain ⟨more, rfl⟩ := within
    obtain ⟨slash, backslash⟩ := single c (by simp)
    simp [isSlash, slash, backslash]

lemma splitScheme_slash (text : List Char) : splitScheme ('/' :: text) = none := rfl

lemma relativeTo_slash {names : List String} {text : List Char} (path : base.path = .segments names)
    (single : (text.head?.map isSlash).getD false = false) :
    relativeTo idna base ('/' :: text) =
      .ok (assemble base.scheme base.authority
        (fun path => .segments (pathFrom (family base.scheme).isSpecial [] path)) text) := by
  have other : ¬(text.head?.map isSlash).getD false = true := by
    rw [single]
    exact Bool.false_ne_true
  simp only [relativeTo, path]
  exact (if_pos rfl).trans (if_neg other)

/-- A reference from the root says all that stands behind the authority of a base, whatever stood
there. -/
lemma IsRooted.resolve_eq (rooted : IsRooted href) :
    ∃ path query fragment, ∀ base, IsBase base →
      base.resolve idna href =
        .ok { base with path := path, query := query, fragment := fragment } := by
  obtain ⟨text, read, single⟩ := rooted.significant_trimmed
  -- The schemes of a base are read alike, so either of them shows what stands in the reference.
  let found := assemble "http" none (fun path => .segments (pathFrom true [] path)) text
  refine ⟨found.path, found.query, found.fragment, fun base isBase => ?_⟩
  obtain ⟨names, path⟩ := isBase.path
  have step : parse idna (some base) href = relativeTo idna base ('/' :: text) := by
    simp only [parse, read, splitScheme_slash]
  rw [Url.resolve, step, relativeTo_slash path single, assemble, isBase.isSpecial]
  rfl

lemma resolveHref_of_ok {url : Url} (resolved : base.resolve idna href = .ok url) :
    base.resolveHref idna href = .ok url := by
  rw [resolveHref, resolved]

/-- A reference from the root stays on the origin of any base that was accepted. It can be resolved,
the result has the scheme, user name, password, host and port of the base, and it is the same for
every other base of which this can be said: neither path nor query nor fragment of a base
matters. -/
theorem rooted_reference_stays_on_origin {idna : Idna} {raw href : String} {base : Url}
    (accepted : parseBase idna raw = .ok base) (rooted : IsRooted href) :
    ∃ url, base.resolveHref idna href = .ok url ∧ SameOrigin url base ∧
      ∀ raw' base', parseBase idna raw' = .ok base' → SameOrigin base' base →
        base'.resolveHref idna href = .ok url := by
  obtain ⟨path, query, fragment, resolves⟩ := rooted.resolve_eq
  have isBase := isBase_of_parseBase accepted
  refine ⟨_, resolveHref_of_ok (resolves base isBase), ⟨rfl, rfl, rfl, rfl, rfl⟩, ?_⟩
  intro raw' base' accepted' same
  have isBase' := isBase_of_parseBase accepted'
  rw [resolveHref_of_ok (resolves base' isBase'), same.scheme, isBase'.authority_eq isBase same]

/-- A base with credentials, an address of numbers and a port of its own, and with a path, a query
and a fragment. -/
def crowdedBase : Url :=
  ⟨"https", some ⟨"me", some "pw", some (.ipv6 [0, 0, 0, 0, 0, 0, 0, 1]), some 8443⟩,
    .segments ["a", "b"], some "c", some "d"⟩

/-- The same base with nothing behind its authority. -/
def bareBase : Url :=
  { crowdedBase with path := .segments [""], query := none, fragment := none }

theorem rooted_reference_stays_on_origin_crowdedBase :
    parseBase .asciiOnly "https://me:pw@[::1]:8443/a/b?c#d" = .ok crowdedBase ∧
    parseBase .asciiOnly "https://me:pw@[::1]:8443" = .ok bareBase ∧ IsRooted "/x/../y z?q " ∧
    ∃ url, crowdedBase.resolveHref .asciiOnly "/x/../y z?q " = .ok url ∧
      SameOrigin url crowdedBase ∧
      bareBase.resolveHref .asciiOnly "/x/../y z?q " = .ok url ∧
      url.text = "https://me:pw@[::1]:8443/y%20z?q" := by
  have accepted : parseBase .asciiOnly "https://me:pw@[::1]:8443/a/b?c#d" = .ok crowdedBase := by
    decide +kernel
  have bare : parseBase .asciiOnly "https://me:pw@[::1]:8443" = .ok bareBase := by decide +kernel
  have rooted : IsRooted "/x/../y z?q " := ⟨rfl, by simp, by simp⟩
  obtain ⟨url, resolved, same, unique⟩ := rooted_reference_stays_on_origin accepted rooted
  refine ⟨accepted, bare, rooted, url, resolved, same,
    unique _ bareBase bare ⟨rfl, rfl, rfl, rfl, rfl⟩, ?_⟩
  have text : (crowdedBase.resolveHref .asciiOnly "/x/../y z?q ").toOption.map Url.text =
      some "https://me:pw@[::1]:8443/y%20z?q" := by
    decide +kernel
  rw [resolved] at text
  exact Option.some.inj text

-- A tab between two slashes is dropped, and what follows them is then a host.
example : ((parse .asciiOnly none "http://here").bind
    (·.resolve .asciiOnly "/\t/there")).map Url.text = .ok "http://there/" := by
  decide +kernel

/-! ### Absolute references -/

lemma not_isOuterBlank_of_isAlpha {c : Char} (letter : c.isAlpha) : ¬isOuterBlank c := by
  rw [isOuterBlank, decide_eq_true_eq, Nat.not_le]
  rcases Bool.or_eq_true_iff.mp letter with upper | lower
  · have above := (of_decide_eq_true upper).1
    exact Nat.lt_of_lt_of_le (by decide) (UInt32.le_iff_toNat_le.mp above)
  · have above := of_decide_eq_true (Bool.and_eq_true_iff.mp lower).1
    exact Nat.lt_of_lt_of_le (by decide) (UInt32.le_iff_toNat_le.mp above)

lemma isAlpha_of_isAlpha_toLower {c : Char} (letter : c.toLower.isAlpha) : c.isAlpha := by
  by_cases upper : c.isUpper
  · exact Bool.or_eq_true_iff.mpr (.inl upper)
  · have same : c.toLower = c := dif_neg fun within => upper (decide_eq_true within)
    rwa [same] at letter

lemma splitScheme_append {letters rest : List Char} (nonempty : letters ≠ [])
    (alpha : ∀ c ∈ letters, c.isAlpha) :
    splitScheme (letters ++ ':' :: rest) =
      some (String.ofList (letters.map Char.toLower), rest) := by
  have schemeChars : ∀ c ∈ letters, isSchemeChar c := by
    intro c member
    simp [isSchemeChar, Char.isAlphanum, alpha c member]
  have name : (letters ++ ':' :: rest).takeWhile isSchemeChar = letters := by
    rw [List.takeWhile_append_of_pos schemeChars]
    exact List.append_nil letters
  have behind : (letters ++ ':' :: rest).dropWhile isSchemeChar = ':' :: rest := by
    rw [List.dropWhile_append_of_pos schemeChars]
    rfl
  obtain ⟨first, more, rfl⟩ := List.exists_cons_of_ne_nil nonempty
  have starts : first.isAlpha := alpha first List.mem_cons_self
  rw [List.cons_append] at name behind ⊢
  simp only [splitScheme, starts, if_true, name, behind]

/-- With two slashes behind its scheme, an address of the web is read without a look at the base. -/
lemma fromWeb_slashes (idna : Idna) (base : Option Url) (scheme : String) (text : List Char) :
    fromWeb idna base scheme ('/' :: '/' :: text) =
      fromAuthority idna scheme (text.dropWhile isSlash) := by
  cases base with
  | none => rfl
  | some base =>
    have slashes :
        ¬((('/' :: '/' :: text).takeWhile isSlash).length < 2 ∧ base.scheme = scheme) := by
      rintro ⟨few, -⟩
      have counted : (('/' :: '/' :: text).takeWhile isSlash).length =
          (text.takeWhile isSlash).length + 2 := rfl
      omega
    simp only [fromWeb]
    rw [if_neg slashes]
    rfl

/-- The letters of a scheme of the web are letters, whatever their case. -/
lemma isAlpha_of_scheme {letters : List Char} {scheme : String}
    (spelled : String.ofList (letters.map Char.toLower) = scheme)
    (alpha : ∀ c ∈ scheme.toList, c.isAlpha) : ∀ c ∈ letters, c.isAlpha := by
  intro c member
  apply isAlpha_of_isAlpha_toLower
  apply alpha
  rw [← spelled, String.toList_ofList]
  exact List.mem_map_of_mem member

/-- What is read of an absolute reference: its scheme in lower case, and two slashes behind it. -/
lemma IsAbsolute.splitScheme_eq (absolute : IsAbsolute href) :
    ∃ scheme text, (scheme = "http" ∨ scheme = "https") ∧
      splitScheme (significant (trimmed href)) = some (scheme, '/' :: '/' :: text) := by
  obtain ⟨letters, rest, here, spelled⟩ := absolute
  have alpha : ∀ c ∈ letters, c.isAlpha := by
    rcases spelled with http | https
    · exact isAlpha_of_scheme http (by simp)
    · exact isAlpha_of_scheme https (by simp)
  have nonempty : letters ≠ [] := by
    rintro rfl
    exact absurd spelled (by decide)
  have marks : ∀ c ∈ [':', '/', '/'], ¬isOuterBlank c := by simp [isOuterBlank]
  have solid : ∀ c ∈ letters ++ [':', '/', '/'], ¬isOuterBlank c := by
    intro c member
    rcases List.mem_append.mp member with letter | mark
    · exact not_isOuterBlank_of_isAlpha (alpha c letter)
    · exact marks c mark
  have front : href.toList = (letters ++ [':', '/', '/']) ++ rest := by
    rw [here, List.append_assoc]
    rfl
  obtain ⟨kept, -, read⟩ := significant_trimmed_append (by simp) solid front
  refine ⟨String.ofList (letters.map Char.toLower), significant kept, spelled, ?_⟩
  rw [read, List.append_assoc]
  exact splitScheme_append nonempty alpha

/-- An absolute reference is read from its authority on, relative to whatever base. -/
lemma IsAbsolute.parse_eq (absolute : IsAbsolute href) :
    ∃ scheme text, (scheme = "http" ∨ scheme = "https") ∧
      ∀ base, parse idna base href = fromAuthority idna scheme text := by
  obtain ⟨scheme, text, web, split⟩ := absolute.splitScheme_eq
  refine ⟨scheme, text.dropWhile isSlash, web, ?_⟩
  intro base
  rw [← fromWeb_slashes idna base]
  simp only [parse, split, family_eq_web web]

section

variable {ε ε' α : Type} {x : Except ε α} {f : ε → ε'}

lemma mapError_eq_ok_iff {a : α} : x.mapError f = .ok a ↔ x = .ok a := by
  cases x with
  | ok b => simp [Except.mapError]
  | error cause => exact iff_of_false nofun nofun

lemma mapError_eq_error {e : ε'} (failed : x.mapError f = .error e) :
    ∃ cause, x = .error cause ∧ e = f cause := by
  cases x with
  | ok b => cases failed
  | error cause => exact ⟨cause, rfl, (Except.error.inj failed).symm⟩

end

/-- What cannot be resolved fails with the reason why it cannot be read. -/
lemma resolveHref_eq (idna : Idna) (base : Url) (href : String) :
    base.resolveHref idna href =
      (parse idna (some base) href).mapError fun cause => ⟨href, cause.message⟩ := by
  rw [resolveHref, Url.resolve]
  cases parse idna (some base) href with
  | ok url => rfl
  | error cause => rfl

/-- An absolute reference has a scheme that a base may have, so it is refused for no other reason
than that it cannot be read. -/
lemma IsAbsolute.parseBase_eq (absolute : IsAbsolute href) :
    parseBase idna href = (parse idna none href).mapError fun cause => ⟨href, cause.message⟩ := by
  obtain ⟨scheme, text, web, reads⟩ := absolute.parse_eq
  rw [parseBase, reads none]
  cases read : fromAuthority idna scheme text with
  | error cause => rfl
  | ok url =>
    have known : isBaseScheme url.scheme = true := by
      rw [(fromAuthority_eq_ok read).1]
      rcases web with rfl | rfl
      · rfl
      · rfl
    exact if_pos known

/-- An absolute reference does not depend on the base, accepted or not: it is resolved exactly to
what is read from it as a base address. What is refused in one way is refused in the other, for the
same reason, which is the reader's and never the scheme, and with the reference in both errors. -/
theorem absolute_reference_ignores_base (idna : Idna) {href : String}
    (absolute : IsAbsolute href) (base : Url) :
    (∀ url, base.resolveHref idna href = .ok url ↔ parseBase idna href = .ok url) ∧
    (∀ e e', base.resolveHref idna href = .error e → parseBase idna href = .error e' →
      ∃ cause, parse idna none href = .error cause ∧ e = ⟨href, cause.message⟩ ∧
        e' = ⟨href, cause.message⟩) ∧
    ∀ other : Url, other.resolveHref idna href = base.resolveHref idna href := by
  obtain ⟨scheme, text, -, reads⟩ := absolute.parse_eq
  have resolved : ∀ base : Url, base.resolveHref idna href =
      (parse idna none href).mapError fun cause => ⟨href, cause.message⟩ := by
    intro base
    rw [resolveHref_eq, reads (some base), reads none]
  rw [resolved, absolute.parseBase_eq]
  refine ⟨fun url => ?_, fun e e' unresolved refused => ?_, resolved⟩
  · rw [mapError_eq_ok_iff, mapError_eq_ok_iff]
  · obtain ⟨cause, unread, rfl⟩ := mapError_eq_error unresolved
    rw [unread] at refused
    cases refused
    exact ⟨cause, unread, rfl, rfl⟩

/-- Tables with one international name in them. -/
def bookIdna : Idna := fun octets =>
  if octets = Text.octets "bücher.example" then some "xn--bcher-kva.example".toList else none

/-- A reference in letters of both cases with a port that is implied, one to an international name,
and one that breaks off inside a host. -/
theorem absolute_reference_ignores_base_mixedCase :
    let web : Url :=
      ⟨"http", some ⟨"", none, some (.domain "web"), none⟩, .segments ["x"], none, none⟩
    let books : Url :=
      ⟨"http", some ⟨"", none, some (.domain "xn--bcher-kva.example"), none⟩, .segments [""], none,
        none⟩
    IsAbsolute "hTTp://Web:80/./x" ∧ IsAbsolute "http://b%C3%BCcher.example" ∧
    IsAbsolute "HTTPS://[::1" ∧
    parseBase bookIdna "hTTp://Web:80/./x" = .ok web ∧
    crowdedBase.resolveHref bookIdna "hTTp://Web:80/./x" = .ok web ∧
    bareBase.resolveHref bookIdna "hTTp://Web:80/./x" = .ok web ∧
    parseBase bookIdna "http://b%C3%BCcher.example" = .ok books ∧
    crowdedBase.resolveHref bookIdna "http://b%C3%BCcher.example" = .ok books ∧
    crowdedBase.resolveHref bookIdna "HTTPS://[::1" =
      .error ⟨"HTTPS://[::1", "invalid IPv6 address"⟩ ∧
    parseBase bookIdna "HTTPS://[::1" = .error ⟨"HTTPS://[::1", "invalid IPv6 address"⟩ ∧
    ∃ cause, parse bookIdna none "HTTPS://[::1" = .error cause ∧
      cause.message = "invalid IPv6 address" := by
  intro web books
  have mixed : IsAbsolute "hTTp://Web:80/./x" :=
    ⟨"hTTp".toList, "Web:80/./x".toList, by decide, .inl (by decide)⟩
  have international : IsAbsolute "http://b%C3%BCcher.example" :=
    ⟨"http".toList, "b%C3%BCcher.example".toList, by decide, .inl (by decide)⟩
  have broken : IsAbsolute "HTTPS://[::1" :=
    ⟨"HTTPS".toList, "[::1".toList, by decide, .inr (by decide)⟩
  obtain ⟨same, -, alike⟩ := absolute_reference_ignores_base bookIdna mixed crowdedBase
  obtain ⟨known, -, -⟩ := absolute_reference_ignores_base bookIdna international crowdedBase
  obtain ⟨-, together, -⟩ := absolute_reference_ignores_base bookIdna broken crowdedBase
  have read : parseBase bookIdna "hTTp://Web:80/./x" = .ok web := by decide +kernel
  have resolved : crowdedBase.resolveHref bookIdna "hTTp://Web:80/./x" = .ok web :=
    (same web).mpr read
  have readBooks : parseBase bookIdna "http://b%C3%BCcher.example" = .ok books := by decide +kernel
  have unresolved : crowdedBase.resolveHref bookIdna "HTTPS://[::1" =
      .error ⟨"HTTPS://[::1", "invalid IPv6 address"⟩ := by
    decide +kernel
  have refused : parseBase bookIdna "HTTPS://[::1" =
      .error ⟨"HTTPS://[::1", "invalid IPv6 address"⟩ := by
    decide +kernel
  obtain ⟨cause, unread, message, -⟩ := together _ _ unresolved refused
  refine ⟨mixed, international, broken, read, resolved, (alike bareBase).trans resolved, readBooks,
    (known books).mpr readBooks, unresolved, refused, cause, unread, ?_⟩
  exact (congrArg TransportError.message message).symm

-- Without the two slashes, a reference with the scheme of the base is relative to it.
example : ((parse .asciiOnly none "http://here/a/").bind
    (·.resolve .asciiOnly "http:there")).map Url.text = .ok "http://here/a/there" := by
  decide +kernel

end HostBoard.Url
