import HostBoard.Payload.Host
import HostBoard.Payload.HostList
import HostBoard.Payload.Log
import HostBoard.Proofs.Json.Record

/-!
# Reading payloads

What the readers of payloads do where a value is spelled. For each record, `store` says what a value
sets a field to, and the reader of the record gives the meaning of the value under `store`
(`Shape.meaning`). Payloads are read from the start of a body with the whole nesting limit, so the
records of a payload, whose own depth is fixed, never run into it; only the served locations of a
host may.

The meaning is then brought into a closed form. Members of an object are looked up by name, which is
possible because the fields can be set in any order (`Shape.fold_members`); arrays have only
finitely many shapes.
-/

namespace HostBoard

namespace Payload

open Json (Reader Reads nestingLimit)

variable {α : Type} {read : Reader α} {v : Json}

/-- A body that spells a value, with any blanks, is decoded like the value. -/
lemma decode_of_spread {a : α} {body : String} (spread : Json.Spread v.tokens body.toList)
    (reads : Reads (read nestingLimit) v (some a)) (url : String) :
    decode read url body = .ok a := by
  rw [decode, Json.document_of_spread spread reads]

lemma decode_ok {a : α} (reads : Reads (read nestingLimit) v (some a)) (url : String) :
    decode read url v.compact = .ok a :=
  decode_of_spread (Json.spread_compact v) reads url

/-- A body that means nothing is refused with the address it came from. -/
lemma decode_error (reads : Reads (read nestingLimit) v none) (url : String) :
    ∃ message, decode read url v.compact = .error ⟨url, message⟩ := by
  obtain ⟨fault, refused⟩ := Json.document_error reads
  exact ⟨fault.message, by rw [decode, refused]⟩

end Payload

/-! ## Host descriptors -/

namespace HostDescriptor

/-- What a value sets a field of a descriptor to. -/
def store (name : String) (draft : Draft) (v : Json) : Option Draft :=
  if name = "name" then v.string?.map fun text => { draft with name := some text }
  else if name = "status" then v.string?.map fun text => { draft with status := some text }
  else (v.object?.map Json.canonicalMembers).map fun paths => { draft with paths := some paths }

lemma reads_field {field : Json.Field Draft} {draft : Draft} {v : Json} {budget : Nat}
    (listed : field ∈ shape.fields) (ranged : v.Ranged) (whole : v.Whole)
    (shallow : v.depth ≤ budget + 1) :
    Json.Reads (field.read (budget + 1) draft) v (store field.name draft v) := by
  simp only [shape, List.mem_cons, List.not_mem_nil, or_false] at listed
  rcases listed with rfl | rfl | rfl
  · exact (Json.reads_text whole.here).map _
  · exact (Json.reads_text whole.here).map _
  · exact (Json.reads_mapping ranged whole shallow).map _

/-- A descriptor is read from what means one. -/
lemma reads_host {v : Json} (ranged : v.Ranged) (whole : v.Whole)
    (shallow : v.depth ≤ Json.nestingLimit) :
    Json.Reads (shape.read Json.nestingLimit) v (shape.meaning store v) := by
  refine Json.Shape.reads (List.cons_ne_nil _ _) whole ?_ ?_
  · rintro vs rfl w among field listed draft
    exact reads_field listed (ranged.item among)
      (whole.item among) (Json.depth_array_le.mp shallow w among)
  · rintro ms rfl m among field listed draft
    exact reads_field listed (ranged.member among)
      (whole.member among) (Json.depth_object_le.mp shallow m among)

section

open Json.Shape

lemma store_nameField (draft : Draft) (v : Json) : store nameField.name draft v =
    v.string?.map fun text => { draft with name := some text } := rfl

lemma store_statusField (draft : Draft) (v : Json) : store statusField.name draft v =
    v.string?.map fun text => { draft with status := some text } := rfl

lemma store_pathsField (draft : Draft) (v : Json) : store pathsField.name draft v =
    (v.object?.map Json.canonicalMembers).map fun paths => { draft with paths := some paths } := rfl

/-- Members of a descriptor may come in any order. -/
lemma independent : Independent store shape.fields := by
  have name_status : EitherOrder store nameField statusField :=
    .of_set store_nameField store_statusField (fun _ _ => rfl) (fun _ _ => rfl) fun _ _ _ => rfl
  have name_paths : EitherOrder store nameField pathsField :=
    .of_set store_nameField store_pathsField (fun _ _ => rfl) (fun _ _ => rfl) fun _ _ _ => rfl
  have status_paths : EitherOrder store statusField pathsField :=
    .of_set store_statusField store_pathsField (fun _ _ => rfl) (fun _ _ => rfl) fun _ _ _ => rfl
  simp only [Independent, shape, List.pairwise_cons, List.forall_mem_cons]
  exact ⟨⟨⟨by decide, name_status⟩, ⟨by decide, name_paths⟩, nofun⟩,
    ⟨⟨by decide, status_paths⟩, nofun⟩, nofun, .nil⟩

/-- The served locations among some members. -/
def pathsAmong (ms : List (String × Json)) : Option Paths :=
  match ms.lookup "paths" with
  | none => some []
  | some v => v.object?.map Json.canonicalMembers

/-- The meaning of an object, with its members looked up by name. -/
lemma meaning_object {ms : List (String × Json)} (unique : (ms.map Prod.fst).Nodup) :
    shape.meaning store (.object ms) = (do
      let name ← ms.lookup "name" >>= Json.string?
      let status ← ms.lookup "status" >>= Json.string?
      let paths ← pathsAmong ms
      return ⟨name, status, paths⟩) := by
  rw [meaning, fold_members independent unique]
  simp only [shape, List.foldlM_cons, List.foldlM_nil, putFrom, put, store_nameField,
    store_statusField, store_pathsField]
  simp only [nameField, statusField, pathsField, pathsAmong]
  -- A draft that lacks its name or status is finished by a fault, whatever else was set, so the
  -- cases where a lookup fails agree as well.
  rcases ms.lookup "name" with - | name <;> rcases ms.lookup "status" with - | status <;>
    rcases ms.lookup "paths" with - | paths <;>
    simp only [Option.bind_eq_bind, Option.bind_some, Option.bind_none, Option.isSome_none,
      Bool.false_eq_true, if_false, Option.pure_def]
  · rfl
  · cases paths.object? <;> rfl
  · cases status.string? <;> rfl
  · cases status.string? <;> cases paths.object? <;> rfl
  · cases name.string? <;> rfl
  · cases name.string? <;> cases paths.object? <;> rfl
  · cases name.string? <;> cases status.string? <;> rfl
  · cases name.string? <;> cases status.string? <;> cases paths.object? <;> rfl

/-- The meaning of an array: the served locations may be left out. -/
lemma meaning_array (vs : List Json) :
    shape.meaning store (.array vs) = (match vs with
      | [name, status] => do return ⟨← name.string?, ← status.string?, []⟩
      | [name, status, paths] => do
        return ⟨← name.string?, ← status.string?, ← paths.object?.map Json.canonicalMembers⟩
      | _ => none) := by
  rcases vs with - | ⟨name, - | ⟨status, - | ⟨paths, - | ⟨more, vs⟩⟩⟩⟩
  · rfl
  · show (fill store shape.fields shape.empty [name] >>= _) = none
    simp only [shape, fill, store_nameField]
    cases name.string? <;> rfl
  · show (fill store shape.fields shape.empty [name, status] >>= _) = _
    simp only [shape, fill, store_nameField, store_statusField]
    cases name.string? <;> cases status.string? <;> rfl
  · show (fill store shape.fields shape.empty [name, status, paths] >>= _) = _
    simp only [shape, fill, store_nameField, store_statusField, store_pathsField]
    cases name.string? <;> cases status.string? <;> cases paths.object? <;> rfl
  · rw [meaning, if_neg]
    simp [shape]

end

end HostDescriptor

/-! ## The host list -/

namespace HostEntry

/-- What a value sets the field of a record with a single field to. -/
def store (inner : Json → Option String) (_ : String) (_ : Option String) (v : Json) :
    Option (Option String) :=
  (inner v).map some

section

open Json.Shape

variable {label name : String} {inner : Json.Reader String} {means : Json → Option String}

/-- A record with a single field is read by a reader of what it holds. -/
lemma reads_wrapper {v : Json} {budget : Nat} (whole : v.Whole)
    (each : ∀ w : Json, w.Whole → Json.Reads (inner budget) w (means w)) :
    Json.Reads ((wrapper label name inner).read (budget + 1)) v
      ((wrapper label name inner).meaning (store means) v) := by
  refine Json.Shape.reads (List.cons_ne_nil _ _) whole ?_ ?_
  · rintro vs rfl w among field listed draft
    obtain rfl := List.mem_singleton.mp listed
    exact (each w (whole.item among)).map _
  · rintro ms rfl m among field listed draft
    obtain rfl := List.mem_singleton.mp listed
    exact (each m.2 (whole.member among)).map _

lemma independent :
    Independent (store means) (wrapper label name inner).fields :=
  List.pairwise_singleton _ _

/-- The meaning of an object, with its member looked up by name. -/
lemma wrapper_meaning_object {ms : List (String × Json)} (unique : (ms.map Prod.fst).Nodup) :
    (wrapper label name inner).meaning (store means) (.object ms) = ms.lookup name >>= means := by
  rw [meaning, fold_members independent unique]
  simp only [wrapper, List.foldlM_cons, List.foldlM_nil, putFrom, put, store]
  cases ms.lookup name with
  | none => rfl
  | some v =>
    simp only [Option.isSome_none, Bool.false_eq_true, if_false, Option.bind_eq_bind,
      Option.bind_some]
    cases means v <;> rfl

lemma wrapper_meaning_array (vs : List Json) :
    (wrapper label name inner).meaning (store means) (.array vs) = (match vs with
      | [v] => means v
      | _ => none) := by
  rcases vs with - | ⟨v, - | ⟨more, vs⟩⟩
  · rfl
  · rw [meaning, if_pos (by simp [wrapper])]
    simp only [wrapper, fill, store]
    cases means v <;> rfl
  · rw [meaning, if_neg]
    simp [wrapper]

end

/-- What a value means as an entry of the host list. -/
def entryMeaning (v : Json) : Option HostEntry :=
  (entry.meaning (store (links.meaning (store (link.meaning (store Json.string?))))) v).map
    HostEntry.mk

lemma reads_entry {v : Json} {budget : Nat} (whole : v.Whole) :
    Json.Reads (read (budget + 3)) v (entryMeaning v) := by
  refine Json.Reads.map ?_ _
  refine reads_wrapper whole fun links whole => ?_
  refine reads_wrapper whole fun link whole => ?_
  exact reads_wrapper whole fun href whole => Json.reads_text whole.here

/-- A host list is read from an array of what means entries. -/
lemma reads_entries {v : Json} (whole : v.Whole) :
    Json.Reads (Json.list read Json.nestingLimit) v (v.array? >>= List.mapM entryMeaning) := by
  refine Json.reads_list whole ?_
  rintro vs rfl w among
  exact reads_entry (whole.item among)

end HostEntry

/-! ## Log entries -/

namespace LogEntry

/-- What a value sets a field of a log entry to. -/
def store (name : String) (draft : Draft) (v : Json) : Option Draft :=
  if name = "time" then v.string?.map fun text => { draft with time := some text }
  else v.string?.map fun text => { draft with content := some text }

lemma reads_field {field : Json.Field Draft} {draft : Draft} {v : Json} {budget : Nat}
    (listed : field ∈ shape.fields) (whole : v.Whole) :
    Json.Reads (field.read budget draft) v (store field.name draft v) := by
  simp only [shape, List.mem_cons, List.not_mem_nil, or_false] at listed
  rcases listed with rfl | rfl
  · exact (Json.reads_text whole.here).map _
  · exact (Json.reads_text whole.here).map _

section

open Json.Shape

lemma store_timeField (draft : Draft) (v : Json) : store timeField.name draft v =
    v.string?.map fun text => { draft with time := some text } := rfl

lemma store_contentField (draft : Draft) (v : Json) : store contentField.name draft v =
    v.string?.map fun text => { draft with content := some text } := rfl

/-- Members of a log entry may come in any order. -/
lemma independent : Independent store shape.fields := by
  have time_content : EitherOrder store timeField contentField :=
    .of_set store_timeField store_contentField (fun _ _ => rfl) (fun _ _ => rfl) fun _ _ _ => rfl
  simp only [Independent, shape, List.pairwise_cons, List.forall_mem_cons]
  exact ⟨⟨⟨by decide, time_content⟩, nofun⟩, nofun, .nil⟩

/-- The meaning of an object, with its members looked up by name. -/
lemma meaning_object {ms : List (String × Json)} (unique : (ms.map Prod.fst).Nodup) :
    shape.meaning store (.object ms) = (do
      let time ← ms.lookup "time" >>= Json.string?
      let content ← ms.lookup "content" >>= Json.string?
      return ⟨time, content⟩) := by
  rw [meaning, fold_members independent unique]
  simp only [shape, List.foldlM_cons, List.foldlM_nil, putFrom, put, store_timeField,
    store_contentField]
  simp only [timeField, contentField]
  rcases ms.lookup "time" with - | time <;> rcases ms.lookup "content" with - | content <;>
    simp only [Option.bind_eq_bind, Option.bind_some, Option.bind_none, Option.isSome_none,
      Bool.false_eq_true, if_false, Option.pure_def]
  · rfl
  · cases content.string? <;> rfl
  · cases time.string? <;> rfl
  · cases time.string? <;> cases content.string? <;> rfl

/-- The meaning of an array. -/
lemma meaning_array (vs : List Json) :
    shape.meaning store (.array vs) = (match vs with
      | [time, content] => do return ⟨← time.string?, ← content.string?⟩
      | _ => none) := by
  rcases vs with - | ⟨time, - | ⟨content, - | ⟨more, vs⟩⟩⟩
  · rfl
  · show (fill store shape.fields shape.empty [time] >>= _) = none
    simp only [shape, fill, store_timeField]
    cases time.string? <;> rfl
  · show (fill store shape.fields shape.empty [time, content] >>= _) = _
    simp only [shape, fill, store_timeField, store_contentField]
    cases time.string? <;> cases content.string? <;> rfl
  · rw [meaning, if_neg]
    simp [shape]

end

lemma reads_entry {v : Json} {budget : Nat} (whole : v.Whole) :
    Json.Reads (shape.read (budget + 1)) v (shape.meaning store v) := by
  refine Json.Shape.reads (List.cons_ne_nil _ _) whole ?_ ?_
  · rintro vs rfl w among field listed draft
    exact reads_field listed (whole.item among)
  · rintro ms rfl m among field listed draft
    exact reads_field listed (whole.member among)

/-- A list of log entries is read from an array of what means entries. -/
lemma reads_entries {v : Json} (whole : v.Whole) :
    Json.Reads (Json.list shape.read Json.nestingLimit) v
      (v.array? >>= List.mapM (shape.meaning store)) := by
  refine Json.reads_list whole ?_
  rintro vs rfl w among
  exact reads_entry (whole.item among)

end LogEntry

end HostBoard
