import HostBoard.Proofs.Json.Soundness
import HostBoard.Proofs.Payload.Reading

/-!
# Decoding what was encoded

Lists of log entries and host lists are read back from their own text, whatever strings they hold.
A descriptor holds an untyped value, its served locations, and not every such value can be read
back: keys may be out of order, numbers out of range, nesting too deep. But what decoding accepts
fits (`HostDescriptor.paths_fit`), with one container less than the whole descriptor may open, so
a descriptor that was decoded is read back from its text, and so are its served locations.
-/

namespace HostBoard

open Json (Fits)

/-- A list is decoded from the array of its encoded elements, if each of them is. -/
lemma Payload.decode_array_map {α : Type} {read : Json.Reader (List α)} {encode : α → Json}
    {means : Json → Option α} (whole : ∀ a, (encode a).Whole)
    (each : ∀ a, means (encode a) = some a)
    (reads : ∀ v : Json, v.Whole →
      Json.Reads (read Json.nestingLimit) v (v.array? >>= List.mapM means))
    (as : List α) (url : String) :
    decode read url (Json.array (as.map encode)).compact = .ok as := by
  have back : (as.map encode).mapM means = some as := by
    induction as with
    | nil => rfl
    | cons a as ih =>
      rw [List.map_cons, List.mapM_cons, each, ih]
      rfl
  have all_whole : (Json.array (as.map encode)).Whole := by
    refine Json.everywhere_array.mpr ⟨trivial, ?_⟩
    intro v among
    obtain ⟨a, -, rfl⟩ := List.mem_map.mp among
    exact whole a
  have given := reads _ all_whole
  rw [Json.array?, Option.bind_eq_bind, Option.bind_some, back] at given
  exact decode_ok given url

lemma Json.whole_string (s : String) : (Json.string s).Whole :=
  everywhere_scalar trivial trivial

lemma Json.whole_object {ms : List (String × Json)} (each : ∀ m ∈ ms, m.2.Whole) :
    (Json.object ms).Whole :=
  everywhere_object.mpr ⟨trivial, each⟩

namespace LogEntry

lemma whole_toJson (e : LogEntry) : e.toJson.Whole := by
  refine Json.whole_object (List.forall_mem_cons.mpr ⟨Json.whole_string _, ?_⟩)
  exact List.forall_mem_singleton.mpr (Json.whole_string _)

lemma meaning_toJson (e : LogEntry) : shape.meaning store e.toJson = some e := by
  rw [toJson, meaning_object]
  · rfl
  · show ["time", "content"].Nodup
    decide

lemma decodeList_listToJson (entries : List LogEntry) (url : String) :
    decodeList url (listToJson entries).compact = .ok entries :=
  Payload.decode_array_map whole_toJson meaning_toJson (fun _ => reads_entries) entries url

end LogEntry

namespace HostEntry

lemma whole_toJson (e : HostEntry) : e.toJson.Whole := by
  refine Json.whole_object (List.forall_mem_singleton.mpr ?_)
  refine Json.whole_object (List.forall_mem_singleton.mpr ?_)
  exact Json.whole_object (List.forall_mem_singleton.mpr (Json.whole_string e.href))

lemma wrapper_meaning_single {label name : String} {inner : Json.Reader String}
    {means : Json → Option String} (v : Json) :
    (wrapper label name inner).meaning (store means) (.object [(name, v)]) = means v := by
  have unique : ([(name, v)].map Prod.fst).Nodup := List.nodup_singleton name
  rw [wrapper_meaning_object unique, List.lookup_cons_self]
  rfl

lemma meaning_toJson (e : HostEntry) : entryMeaning e.toJson = some e := by
  rw [entryMeaning, toJson, entry, wrapper_meaning_single, links, wrapper_meaning_single, link,
    wrapper_meaning_single]
  rfl

lemma decodeList_listToJson (entries : List HostEntry) (url : String) :
    decodeList url (listToJson entries).compact = .ok entries :=
  Payload.decode_array_map whole_toJson meaning_toJson (fun _ => reads_entries) entries url

end HostEntry

namespace HostDescriptor

/-- The served locations of a draft, if they are set, fit. -/
def PathsFit (budget : Nat) (draft : Draft) : Prop :=
  ∀ paths, draft.paths = some paths → Fits budget (.object paths)

lemma field_read_fits {field : Json.Field Draft} (listed : field ∈ shape.fields) {budget : Nat}
    {draft : Draft} (c : Cursor) (before : PathsFit budget draft) :
    Json.Ensures (field.read budget draft c) fun r => PathsFit budget r.1 := by
  simp only [shape, List.mem_cons, List.not_mem_nil, or_false] at listed
  rcases listed with rfl | rfl | rfl
  · exact Json.ensures_bind fun r => Json.ensures_ok before
  · exact Json.ensures_bind fun r => Json.ensures_ok before
  · refine (Json.mapping_value_fits budget c).bind fun r fits => Json.ensures_ok ?_
    intro paths same
    obtain rfl := Option.some.inj same
    exact fits

/-- The served locations of a host that is read fit into what its own object leaves. -/
lemma read_fits (budget : Nat) (c : Cursor) :
    Json.Ensures (shape.read (budget + 2) c) fun r => Fits (budget + 1) (.object r.1.paths) := by
  have drafted : Json.Ensures (shape.read (budget + 2) c) fun r =>
      ∃ draft, PathsFit (budget + 1) draft ∧ shape.finish draft = .ok r.1 :=
    Json.Shape.read_ensures nofun (fun _ listed _ c before => field_read_fits listed c before) c
  rintro ⟨host, c'⟩ given
  obtain ⟨⟨name, status, paths⟩, fit, finished⟩ := drafted _ given
  cases name with
  | none => cases finished
  | some name =>
    cases status with
    | none => cases finished
    | some status =>
      obtain rfl := Except.ok.inj finished
      cases paths with
      | none => exact .object ⟨.nil, nofun⟩
      | some paths => exact fit paths rfl

lemma paths_fit {url body : String} {host : HostDescriptor}
    (accepted : decode url body = .ok host) : Fits 126 (.object host.paths) := by
  unfold decode Payload.decode at accepted
  split at accepted
  · next v given =>
    obtain rfl := Except.ok.inj accepted
    -- The descriptor itself is one of the 127 containers that may be open.
    have fit : Json.Ensures (Json.document shape.read body) fun host =>
        Fits 126 (.object host.paths) := Json.document_ensures (read_fits 125) body
    exact fit v given
  · cases accepted

/-- A descriptor that is written with members in any order means one with its members in order. -/
lemma meaning_toJson (host : HostDescriptor) : shape.meaning store host.toJson =
    some { host with paths := Json.canonicalMembers host.paths } := by
  rw [toJson, meaning_object]
  · rfl
  · show ["name", "status", "paths"].Nodup
    decide

lemma everywhere_toJson {host : HostDescriptor} {p : Json → Prop} (object : p host.toJson)
    (string : ∀ s, p (.string s)) (inside : (Json.object host.paths).Everywhere p) :
    host.toJson.Everywhere p := by
  have strings : ∀ s, (Json.string s).Everywhere p := fun s =>
    Json.everywhere_scalar trivial (string s)
  refine Json.everywhere_object.mpr ⟨object, List.forall_mem_cons.mpr ⟨strings _, ?_⟩⟩
  exact List.forall_mem_cons.mpr ⟨strings _, List.forall_mem_singleton.mpr inside⟩

lemma depth_toJson {host : HostDescriptor} {n : Nat} (inside : (Json.object host.paths).depth ≤ n) :
    host.toJson.depth ≤ n + 1 := by
  refine Json.depth_object_le.mpr (List.forall_mem_cons.mpr ⟨Nat.zero_le n, ?_⟩)
  exact List.forall_mem_cons.mpr ⟨Nat.zero_le n, List.forall_mem_singleton.mpr inside⟩

/-- A descriptor is decoded from any text that spells it, with its served locations in order. -/
lemma decode_of_spread {host : HostDescriptor} (ranged : (Json.object host.paths).Ranged)
    (whole : (Json.object host.paths).Whole) (shallow : (Json.object host.paths).depth ≤ 126)
    {body : String} (spread : Json.Spread host.toJson.tokens body.toList) (url : String) :
    decode url body = .ok { host with paths := Json.canonicalMembers host.paths } := by
  have all_ranged : host.toJson.Ranged := everywhere_toJson trivial (fun _ => trivial) ranged
  have all_whole : host.toJson.Whole := everywhere_toJson trivial (fun _ => trivial) whole
  have reads := reads_host all_ranged all_whole (depth_toJson shallow)
  rw [meaning_toJson] at reads
  exact Payload.decode_of_spread spread reads url

/-- A descriptor whose served locations fit is read back from its text. -/
lemma decode_toJson {host : HostDescriptor} (fits : Fits 126 (.object host.paths))
    (whole : (Json.object host.paths).Whole) (url : String) :
    decode url host.toJson.compact = .ok host := by
  have given := decode_of_spread fits.ranged whole fits.shallow (Json.spread_compact _) url
  rwa [Json.canonicalMembers_eq_self fits.ascending] at given

end HostDescriptor

/-- Served locations that fit are read back from their text. -/
lemma Paths.decodeValue_text {paths : Paths} (fits : Fits 126 (.object paths))
    (whole : (Json.object paths).Whole) (url : String) :
    Payload.decodeValue url paths.text = .ok (.object paths) := by
  have shallow : (Json.object paths).depth ≤ Json.nestingLimit := fits.shallow.trans (by decide)
  have reads := Json.reads_value fits.ranged whole shallow
  rw [Json.canonical_eq_self fits.ascending] at reads
  exact Payload.decode_ok reads url

/-- Decoding undoes encoding: for every list of log entries and every host list, and for every
descriptor that was decoded once, if its served locations hold no doubles. -/
theorem Payload.decode_undoes_encode :
    (∀ (entries : List LogEntry) (url : String),
      LogEntry.decodeList url (LogEntry.listToJson entries).compact = .ok entries) ∧
    (∀ (entries : List HostEntry) (url : String),
      HostEntry.decodeList url (HostEntry.listToJson entries).compact = .ok entries) ∧
    (∀ (url body : String) (host : HostDescriptor), HostDescriptor.decode url body = .ok host →
      (Json.object host.paths).Whole → ∀ other : String,
        HostDescriptor.decode other host.toJson.compact = .ok host ∧
        Payload.decodeValue other host.paths.text = .ok (.object host.paths)) := by
  refine ⟨LogEntry.decodeList_listToJson, HostEntry.decodeList_listToJson, ?_⟩
  intro url body host accepted whole other
  have fits := HostDescriptor.paths_fit accepted
  exact ⟨HostDescriptor.decode_toJson fits whole other, Paths.decodeValue_text fits whole other⟩

/-- A host as an array, with locations out of order and numbers at the limits of their range. -/
def listedHost : Json :=
  .array [.string "web", .string "up",
    .object [("/b", .number (.int 18446744073709551615)),
      ("/a", .array [.string "\"\n", .number (.int (-9223372036854775808))])]]

/-- The host that is listed. -/
def webHost : HostDescriptor where
  name := "web"
  status := "up"
  paths := [("/a", .array [.string "\"\n", .number (.int (-9223372036854775808))]),
    ("/b", .number (.int 18446744073709551615))]

/-- The host was decoded from an array, and is decoded again from its own text. -/
theorem Payload.decode_undoes_encode_webHost :
    HostDescriptor.decode "http://a" listedHost.compact = .ok webHost ∧
    (Json.object webHost.paths).Whole ∧
    HostDescriptor.decode "http://b" webHost.toJson.compact = .ok webHost ∧
    Payload.decodeValue "http://b" webHost.paths.text = .ok (.object webHost.paths) := by
  have whole : (Json.object webHost.paths).Whole := by decide
  have reads : Json.Reads (HostDescriptor.shape.read Json.nestingLimit) listedHost (some webHost) :=
    HostDescriptor.reads_host (by decide) (by decide) (by decide)
  have accepted : HostDescriptor.decode "http://a" listedHost.compact = .ok webHost :=
    Payload.decode_ok reads "http://a"
  exact ⟨accepted, whole, Payload.decode_undoes_encode.2.2 _ _ webHost accepted whole "http://b"⟩

end HostBoard
