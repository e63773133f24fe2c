import HostBoard.Proofs.Payload.Reading

/-!
# The shapes of payloads

Which values stand for a payload, as relations between a value and what it stands for: a host
(`HostDescriptor.Describes`), an entry of a host list (`HostEntry.LinksTo`) and a log entry
(`LogEntry.Records`). Records are objects, whose other members do not matter, or arrays of the
record's fields in order. The main theorem says that decoding accepts exactly these shapes, and
that anything else is refused with the address it came from.

Each relation is compared with the closed form of the reader's meaning. One direction takes a
successful reading apart, lookup by lookup; the other goes by the rules of the relation.
-/

namespace HostBoard

open Json.Shape

lemma mem_of_lookup {ms : List (String × Json)} {key : String} {v : Json}
    (found : ms.lookup key = some v) : (key, v) ∈ ms := by
  obtain ⟨before, behind, rfl, -⟩ := List.lookup_eq_some_iff.mp found
  exact List.mem_append_right before List.mem_cons_self

lemma Json.string?_eq_some {v : Json} {s : String} : v.string? = some s ↔ v = .string s := by
  constructor
  · intro found
    cases v <;> cases found
    rfl
  · rintro rfl
    rfl

/-- An array whose items stand for the elements of a list, in order. -/
inductive Json.ArrayOf {α : Type} (stands : Json → α → Prop) : Json → List α → Prop where
  | intro {vs as} :
    List.Forall₂ stands vs as →
    ArrayOf stands (.array vs) as

lemma mapM_eq_some_iff {α : Type} {means : Json → Option α} {stands : Json → α → Prop}
    {vs : List Json} {as : List α} (each : ∀ v ∈ vs, ∀ a, means v = some a ↔ stands v a) :
    vs.mapM means = some as ↔ List.Forall₂ stands vs as := by
  induction vs generalizing as with
  | nil => simp [eq_comm]
  | cons v vs ih =>
    obtain ⟨here, others⟩ := List.forall_mem_cons.mp each
    rw [List.mapM_cons, List.forall₂_cons_left_iff]
    constructor
    · intro found
      obtain ⟨a, first, found⟩ := Option.bind_eq_some_iff.mp found
      obtain ⟨rest, more, same⟩ := Option.bind_eq_some_iff.mp found
      exact ⟨a, rest, (here a).mp first, (ih others).mp more, (Option.some.inj same).symm⟩
    · rintro ⟨a, rest, first, more, rfl⟩
      rw [(here a).mpr first, (ih others).mpr more]
      rfl

lemma Json.array_mapM_eq_some_iff {α : Type} {means : Json → Option α} {stands : Json → α → Prop}
    {v : Json} {as : List α}
    (each : ∀ vs, v = .array vs → ∀ w ∈ vs, ∀ a, means w = some a ↔ stands w a) :
    (v.array? >>= List.mapM means) = some as ↔ ArrayOf stands v as := by
  cases v with
  | array vs =>
    constructor
    · intro found
      exact .intro ((mapM_eq_some_iff (each vs rfl)).mp found)
    · rintro ⟨same⟩
      exact (mapM_eq_some_iff (each vs rfl)).mpr same
  | _ => exact ⟨nofun, nofun⟩

/-! ## Host descriptors -/

namespace HostDescriptor

/-- The value describes the host. -/
inductive Describes : Json → HostDescriptor → Prop where
  | object {ms name status} :
    ms.lookup "name" = some (.string name) →
    ms.lookup "status" = some (.string status) →
    ms.lookup "paths" = none →
    Describes (.object ms) ⟨name, status, []⟩
  | objectPaths {ms name status ps paths} :
    ms.lookup "name" = some (.string name) →
    ms.lookup "status" = some (.string status) →
    ms.lookup "paths" = some (.object ps) →
    Json.Arranged (.object ps) (.object paths) →
    Describes (.object ms) ⟨name, status, paths⟩
  | array {name status} :
    Describes (.array [.string name, .string status]) ⟨name, status, []⟩
  | arrayPaths {name status ps paths} :
    Json.Arranged (.object ps) (.object paths) →
    Describes (.array [.string name, .string status, .object ps]) ⟨name, status, paths⟩

lemma paths_eq_some {v : Json} {paths : Paths} (unique : v.UniqueKeys) :
    v.object?.map Json.canonicalMembers = some paths ↔
      ∃ ps, v = .object ps ∧ Json.Arranged (.object ps) (.object paths) := by
  constructor
  · intro found
    cases v with
    | object ps =>
      refine ⟨ps, rfl, (Json.arranged_iff unique).mpr ?_⟩
      rw [← Option.some.inj found]
      rfl
    | _ => cases found
  · rintro ⟨ps, rfl, arranged⟩
    exact congrArg some (Json.object.inj ((Json.arranged_iff unique).mp arranged)).symm

lemma object_meaning_iff {ms : List (String × Json)} {host : HostDescriptor}
    (unique : (Json.object ms).UniqueKeys) :
    shape.meaning store (.object ms) = some host ↔ Describes (.object ms) host := by
  obtain ⟨differ, inside⟩ := Json.everywhere_object.mp unique
  rw [meaning_object differ]
  constructor
  · intro found
    obtain ⟨name, name_found, found⟩ := Option.bind_eq_some_iff.mp found
    obtain ⟨status, status_found, found⟩ := Option.bind_eq_some_iff.mp found
    obtain ⟨paths, paths_found, same⟩ := Option.bind_eq_some_iff.mp found
    obtain rfl := Option.some.inj same
    obtain ⟨v, at_name, is_string⟩ := Option.bind_eq_some_iff.mp name_found
    obtain rfl := Json.string?_eq_some.mp is_string
    obtain ⟨v, at_status, is_string⟩ := Option.bind_eq_some_iff.mp status_found
    obtain rfl := Json.string?_eq_some.mp is_string
    -- A missing member and an object are the only ways to have locations; null is neither.
    cases at_paths : ms.lookup "paths" with
    | none =>
      rw [pathsAmong, at_paths] at paths_found
      obtain rfl := Option.some.inj paths_found
      exact .object at_name at_status at_paths
    | some v =>
      rw [pathsAmong, at_paths] at paths_found
      have unique := inside _ (mem_of_lookup at_paths)
      obtain ⟨ps, rfl, arranged⟩ := (paths_eq_some unique).mp paths_found
      exact .objectPaths at_name at_status at_paths arranged
  · intro described
    cases described with
    | object at_name at_status at_paths =>
      rw [at_name, at_status, pathsAmong, at_paths]
      rfl
    | objectPaths at_name at_status at_paths arranged =>
      have unique := inside _ (mem_of_lookup at_paths)
      have paths_found := (paths_eq_some unique).mpr ⟨_, rfl, arranged⟩
      rw [at_name, at_status, pathsAmong, at_paths]
      simp only [paths_found]
      rfl

lemma array_meaning_iff {vs : List Json} {host : HostDescriptor}
    (unique : (Json.array vs).UniqueKeys) :
    shape.meaning store (.array vs) = some host ↔ Describes (.array vs) host := by
  have inside := (Json.everywhere_array.mp unique).2
  rw [meaning_array]
  constructor
  · intro found
    split at found
    · obtain ⟨name, is_name, found⟩ := Option.bind_eq_some_iff.mp found
      obtain ⟨status, is_status, same⟩ := Option.bind_eq_some_iff.mp found
      obtain rfl := Option.some.inj same
      obtain rfl := Json.string?_eq_some.mp is_name
      obtain rfl := Json.string?_eq_some.mp is_status
      exact .array
    · obtain ⟨name, is_name, found⟩ := Option.bind_eq_some_iff.mp found
      obtain ⟨status, is_status, found⟩ := Option.bind_eq_some_iff.mp found
      obtain ⟨paths, is_paths, same⟩ := Option.bind_eq_some_iff.mp found
      obtain rfl := Option.some.inj same
      obtain rfl := Json.string?_eq_some.mp is_name
      obtain rfl := Json.string?_eq_some.mp is_status
      obtain ⟨ps, rfl, arranged⟩ := (paths_eq_some (inside _ (by simp))).mp is_paths
      exact .arrayPaths arranged
    · cases found
  · intro described
    cases described with
    | array => rfl
    | arrayPaths arranged =>
      have is_paths := (paths_eq_some (inside _ (by simp))).mpr ⟨_, rfl, arranged⟩
      simp only [is_paths]
      rfl

/-- What means a host is what describes it. -/
lemma meaning_eq_some_iff {v : Json} {host : HostDescriptor} (unique : v.UniqueKeys) :
    shape.meaning store v = some host ↔ Describes v host := by
  cases v with
  | object ms => exact object_meaning_iff unique
  | array vs => exact array_meaning_iff unique
  | _ => exact ⟨nofun, nofun⟩

end HostDescriptor

/-! ## The host list -/

namespace HostEntry

/-- A record with a single field holds the value. -/
inductive Holds (name : String) : Json → Json → Prop where
  | object {ms v} :
    ms.lookup name = some v →
    Holds name (.object ms) v
  | array {v} :
    Holds name (.array [v]) v

/-- The value is an entry of a host list with the address of the host's own resource. -/
def LinksTo (v : Json) (e : HostEntry) : Prop :=
  ∃ links link, Holds "_links" v links ∧ Holds "self" links link ∧
    Holds "href" link (.string e.href)

lemma Holds.unique {name : String} {v w : Json} (holds : Holds name v w)
    (unique : v.UniqueKeys) : w.UniqueKeys := by
  cases holds with
  | object found => exact unique.member (mem_of_lookup found)
  | array => exact unique.item List.mem_cons_self

section

variable {label name : String} {inner : Json.Reader String} {means : Json → Option String}

/-- A record with a single field means what the value that it holds means. -/
lemma wrapper_meaning_iff {v : Json} {href : String} (unique : v.UniqueKeys) :
    (wrapper label name inner).meaning (store means) v = some href ↔
      ∃ w, Holds name v w ∧ means w = some href := by
  cases v with
  | object ms =>
    rw [wrapper_meaning_object (Json.everywhere_object.mp unique).1]
    constructor
    · intro found
      obtain ⟨w, at_name, held⟩ := Option.bind_eq_some_iff.mp found
      exact ⟨w, .object at_name, held⟩
    · rintro ⟨w, ⟨at_name⟩, held⟩
      rw [at_name]
      exact held
  | array vs =>
    rw [wrapper_meaning_array]
    constructor
    · intro found
      split at found
      · exact ⟨_, .array, found⟩
      · cases found
    · rintro ⟨w, ⟨⟩, held⟩
      exact held
  | _ => exact ⟨nofun, nofun⟩

end

/-- What means an entry is what links to its host. -/
lemma meaning_eq_some_iff {v : Json} {e : HostEntry} (unique : v.UniqueKeys) :
    entryMeaning v = some e ↔ LinksTo v e := by
  constructor
  · intro meant
    obtain ⟨href, found, rfl⟩ := Option.map_eq_some_iff.mp meant
    obtain ⟨links, at_links, found⟩ := (wrapper_meaning_iff unique).mp found
    have links_unique := at_links.unique unique
    obtain ⟨link, at_self, found⟩ := (wrapper_meaning_iff links_unique).mp found
    have link_unique := at_self.unique links_unique
    obtain ⟨text, at_href, is_string⟩ := (wrapper_meaning_iff link_unique).mp found
    obtain rfl := Json.string?_eq_some.mp is_string
    exact ⟨links, link, at_links, at_self, at_href⟩
  · rintro ⟨links, link, at_links, at_self, at_href⟩
    have links_unique := at_links.unique unique
    have link_unique := at_self.unique links_unique
    refine Option.map_eq_some_iff.mpr ⟨e.href, (wrapper_meaning_iff unique).mpr ?_, rfl⟩
    refine ⟨links, at_links, (wrapper_meaning_iff links_unique).mpr ?_⟩
    refine ⟨link, at_self, (wrapper_meaning_iff link_unique).mpr ?_⟩
    exact ⟨.string e.href, at_href, rfl⟩

end HostEntry

/-! ## Log entries -/

namespace LogEntry

/-- The value is a log entry. -/
inductive Records : Json → LogEntry → Prop where
  | object {ms time content} :
    ms.lookup "time" = some (.string time) →
    ms.lookup "content" = some (.string content) →
    Records (.object ms) ⟨time, content⟩
  | array {time content} :
    Records (.array [.string time, .string content]) ⟨time, content⟩

/-- What means a log entry is what records it. -/
lemma meaning_eq_some_iff {v : Json} {e : LogEntry} (unique : v.UniqueKeys) :
    shape.meaning store v = some e ↔ Records v e := by
  cases v with
  | object ms =>
    rw [meaning_object (Json.everywhere_object.mp unique).1]
    constructor
    · intro found
      obtain ⟨time, time_found, found⟩ := Option.bind_eq_some_iff.mp found
      obtain ⟨content, content_found, same⟩ := Option.bind_eq_some_iff.mp found
      obtain rfl := Option.some.inj same
      obtain ⟨v, at_time, is_string⟩ := Option.bind_eq_some_iff.mp time_found
      obtain rfl := Json.string?_eq_some.mp is_string
      obtain ⟨v, at_content, is_string⟩ := Option.bind_eq_some_iff.mp content_found
      obtain rfl := Json.string?_eq_some.mp is_string
      exact .object at_time at_content
    · rintro ⟨at_time, at_content⟩
      rw [at_time, at_content]
      rfl
  | array vs =>
    rw [meaning_array]
    constructor
    · intro found
      split at found
      · obtain ⟨time, is_time, found⟩ := Option.bind_eq_some_iff.mp found
        obtain ⟨content, is_content, same⟩ := Option.bind_eq_some_iff.mp found
        obtain rfl := Option.some.inj same
        obtain rfl := Json.string?_eq_some.mp is_time
        obtain rfl := Json.string?_eq_some.mp is_content
        exact .array
      · cases found
    · rintro ⟨⟩
      rfl
  | _ => exact ⟨nofun, nofun⟩

end LogEntry

/-! ## Decoding -/

namespace Payload

/-- Decoding the text of a value gives what the value stands for, and where it stands for nothing
a failure with the address it came from. -/
structure Decides {α : Type} (decode : String → String → Except DecodeError α) (v : Json)
    (stands : Json → α → Prop) : Prop where
  accepted : ∀ url a, decode url v.compact = .ok a ↔ stands v a
  refused : (∀ a, ¬ stands v a) → ∀ url, ∃ message, decode url v.compact = .error ⟨url, message⟩

/-- A reader that gives the meaning of a value decides what the value stands for. -/
lemma decides {α : Type} {read : Json.Reader α} {v : Json} {result : Option α}
    {stands : Json → α → Prop} (reads : Json.Reads (read Json.nestingLimit) v result)
    (means : ∀ a, result = some a ↔ stands v a) : Decides (decode read) v stands := by
  cases result with
  | some a =>
    refine ⟨fun url b => ?_, fun none => absurd ((means a).mp rfl) (none a)⟩
    rw [← means b, decode_ok reads url]
    exact ⟨fun same => congrArg some (Except.ok.inj same), fun same =>
      congrArg Except.ok (Option.some.inj same)⟩
  | none =>
    refine ⟨fun url b => ?_, fun _ url => decode_error reads url⟩
    obtain ⟨message, refused⟩ := decode_error reads url
    rw [← means b, refused]
    exact ⟨nofun, nofun⟩

/-- Decoding accepts exactly the documented shapes of a host descriptor, of a host list and of a
list of log entries, with what they hold, and refuses everything else with the address. The values
are those that a text determines: keys differ, whole numbers fit into 64-bit words, there are no
doubles, and no more containers are open than reading allows. -/
theorem decode_accepts_documented_shapes (v : Json) (unique : v.UniqueKeys) (ranged : v.Ranged)
    (whole : v.Whole) (shallow : v.depth ≤ Json.nestingLimit) :
    Decides HostDescriptor.decode v HostDescriptor.Describes ∧
    Decides HostEntry.decodeList v (Json.ArrayOf HostEntry.LinksTo) ∧
    Decides LogEntry.decodeList v (Json.ArrayOf LogEntry.Records) := by
  have inside : ∀ vs, v = .array vs → ∀ w ∈ vs, w.UniqueKeys := by
    rintro vs rfl
    exact (Json.everywhere_array.mp unique).2
  refine ⟨?_, ?_, ?_⟩
  · refine decides (HostDescriptor.reads_host ranged whole shallow) ?_
    exact fun host => HostDescriptor.meaning_eq_some_iff unique
  · refine decides (HostEntry.reads_entries whole) ?_
    intro entries
    refine Json.array_mapM_eq_some_iff ?_
    exact fun vs list w among e => HostEntry.meaning_eq_some_iff (inside vs list w among)
  · refine decides (LogEntry.reads_entries whole) ?_
    intro entries
    refine Json.array_mapM_eq_some_iff ?_
    exact fun vs list w among e => LogEntry.meaning_eq_some_iff (inside vs list w among)

/-- A descriptor with its members out of order and one that is not known. -/
def shuffledHost : Json :=
  .object [("status", .string "up"), ("note", .array [.null, .bool true]),
    ("paths", .object [("/b", .number (.int 18446744073709551615)), ("/a", .string "\"\n")]),
    ("name", .string "web")]

/-- The shuffled descriptor is read with its locations in order, and is no host list. -/
theorem decode_accepts_shuffledHost :
    shuffledHost.UniqueKeys ∧ shuffledHost.Ranged ∧ shuffledHost.Whole ∧
    shuffledHost.depth ≤ Json.nestingLimit ∧
    HostDescriptor.decode "http://h" shuffledHost.compact =
      .ok ⟨"web", "up", [("/a", .string "\"\n"), ("/b", .number (.int 18446744073709551615))]⟩ ∧
    ∃ message, HostEntry.decodeList "http://h" shuffledHost.compact =
      .error ⟨"http://h", message⟩ := by
  have unique : shuffledHost.UniqueKeys := by decide
  have ranged : shuffledHost.Ranged := by decide
  have whole : shuffledHost.Whole := by decide
  have shallow : shuffledHost.depth ≤ Json.nestingLimit := by decide
  obtain ⟨host, list, -⟩ :=
    decode_accepts_documented_shapes shuffledHost unique ranged whole shallow
  refine ⟨unique, ranged, whole, shallow, (host.accepted _ _).mpr ?_, list.refused nofun _⟩
  exact .objectPaths rfl rfl rfl ((Json.arranged_iff (by decide)).mpr rfl)

end Payload

end HostBoard
