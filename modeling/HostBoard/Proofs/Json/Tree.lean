import HostBoard.Json.Numeral
import Mathlib.Data.List.Forall2
import Mathlib.Data.List.Nodup
import Mathlib.Data.String.Basic
import Mathlib.Tactic.Lemma

/-!
# JSON values as trees

What can be said of a value at every depth: how deep it nests, which values are part of it, and
whether all of them have a property. Four such properties delimit the values that the text of a
value determines: its whole numbers fit into 64-bit words (`Ranged`), it has no doubles (`Whole`),
no object has a key twice (`UniqueKeys`), or, stronger, keys ascend (`Ascending`).

Reading a text puts the members of every object into ascending order, the last one of a key
winning. `canonical` says so on trees, and `canonical_eq_self` says that values whose keys ascend
already stay as they are. Where no key comes twice, the canonical form is the one value that differs
only in the order of members and has them in order (`arranged_iff`). Proofs about values go by
`Json.induct`, which hands over the items of an array and the members of an object as lists.
-/

namespace HostBoard.Json

open scoped List

/-- Induction over values, with lists for what containers hold. -/
@[elab_as_elim]
theorem induct {motive : Json → Prop} (null : motive .null) (bool : ∀ b, motive (.bool b))
    (number : ∀ n, motive (.number n)) (string : ∀ s, motive (.string s))
    (array : ∀ items, (∀ v ∈ items, motive v) → motive (.array items))
    (object : ∀ members, (∀ m ∈ members, motive m.2) → motive (.object members)) (v : Json) :
    motive v := by
  refine @Json.rec motive (fun items => ∀ v ∈ items, motive v)
    (fun members => ∀ m ∈ members, motive m.2) (fun m => motive m.2)
    null bool number string array object ?_ ?_ ?_ ?_ ?_ v
  · intro v none
    cases none
  · intro v items here rest w among
    rcases List.mem_cons.mp among with rfl | later
    · exact here
    · exact rest w later
  · intro m none
    cases none
  · intro m members here rest n among
    rcases List.mem_cons.mp among with rfl | later
    · exact here
    · exact rest n later
  · intro key v here
    exact here

/-! ## Depth -/

mutual

/-- How many containers are open at once in a value. -/
def depth : Json → Nat
  | .array items => itemsDepth items + 1
  | .object members => membersDepth members + 1
  | _ => 0

/-- The greatest depth of some items. -/
def itemsDepth : List Json → Nat
  | [] => 0
  | v :: items => max v.depth (itemsDepth items)

/-- The greatest depth of the values of some members. -/
def membersDepth : List (String × Json) → Nat
  | [] => 0
  | (_, v) :: members => max v.depth (membersDepth members)

end

lemma itemsDepth_le {items : List Json} {n : Nat} :
    itemsDepth items ≤ n ↔ ∀ v ∈ items, v.depth ≤ n := by
  induction items with
  | nil => simp [itemsDepth]
  | cons v items ih => simp [itemsDepth, ih]

lemma membersDepth_le {members : List (String × Json)} {n : Nat} :
    membersDepth members ≤ n ↔ ∀ m ∈ members, m.2.depth ≤ n := by
  induction members with
  | nil => simp [membersDepth]
  | cons m members ih => simp [membersDepth, ih]

@[simp]
lemma depth_array_le {items : List Json} {n : Nat} :
    (Json.array items).depth ≤ n + 1 ↔ ∀ v ∈ items, v.depth ≤ n := by
  rw [depth, Nat.add_le_add_iff_right, itemsDepth_le]

@[simp]
lemma depth_object_le {members : List (String × Json)} {n : Nat} :
    (Json.object members).depth ≤ n + 1 ↔ ∀ m ∈ members, m.2.depth ≤ n := by
  rw [depth, Nat.add_le_add_iff_right, membersDepth_le]

/-! ## Parts -/

mutual

/-- A value and all values inside it. -/
def parts : Json → List Json
  | .array items => .array items :: itemsParts items
  | .object members => .object members :: membersParts members
  | v => [v]

/-- The parts of some items. -/
def itemsParts : List Json → List Json
  | [] => []
  | v :: items => v.parts ++ itemsParts items

/-- The parts of the values of some members. -/
def membersParts : List (String × Json) → List Json
  | [] => []
  | (_, v) :: members => v.parts ++ membersParts members

end

lemma mem_itemsParts {items : List Json} {part : Json} :
    part ∈ itemsParts items ↔ ∃ v ∈ items, part ∈ v.parts := by
  induction items with
  | nil => simp [itemsParts]
  | cons v items ih => simp [itemsParts, ih]

lemma mem_membersParts {members : List (String × Json)} {part : Json} :
    part ∈ membersParts members ↔ ∃ m ∈ members, part ∈ m.2.parts := by
  induction members with
  | nil => simp [membersParts]
  | cons m members ih => simp [membersParts, ih]

/-- A property of a value and of everything inside it. -/
def Everywhere (p : Json → Prop) (v : Json) : Prop :=
  ∀ part ∈ v.parts, p part

lemma Everywhere.here {p : Json → Prop} {v : Json} (all : v.Everywhere p) : p v := by
  apply all
  cases v <;> simp [parts]

lemma everywhere_array {p : Json → Prop} {items : List Json} :
    (Json.array items).Everywhere p ↔ p (.array items) ∧ ∀ v ∈ items, v.Everywhere p := by
  simp only [Everywhere, parts, List.forall_mem_cons, mem_itemsParts]
  exact and_congr_right fun _ =>
    ⟨fun all v among part inside => all part ⟨v, among, inside⟩,
      fun all part ⟨v, among, inside⟩ => all v among part inside⟩

lemma everywhere_object {p : Json → Prop} {members : List (String × Json)} :
    (Json.object members).Everywhere p ↔ p (.object members) ∧ ∀ m ∈ members, m.2.Everywhere p := by
  simp only [Everywhere, parts, List.forall_mem_cons, mem_membersParts]
  exact and_congr_right fun _ =>
    ⟨fun all m among part inside => all part ⟨m, among, inside⟩,
      fun all part ⟨m, among, inside⟩ => all m among part inside⟩

lemma Everywhere.item {p : Json → Prop} {items : List Json} {v : Json}
    (all : (Json.array items).Everywhere p) (among : v ∈ items) : v.Everywhere p :=
  (everywhere_array.mp all).2 v among

lemma Everywhere.member {p : Json → Prop} {members : List (String × Json)} {m : String × Json}
    (all : (Json.object members).Everywhere p) (among : m ∈ members) : m.2.Everywhere p :=
  (everywhere_object.mp all).2 m among

/-- Its whole number, if the value is one, fits into a signed or an unsigned 64-bit word. -/
def FitsWord : Json → Prop
  | .number (.int n) => -(Nat.pow 2 63 : Nat) ≤ n ∧ n ≤ maxWord
  | _ => True

/-- The value is no double. -/
def NoDouble : Json → Prop
  | .number (.float _) => False
  | _ => True

/-- Its keys differ, if the value is an object. -/
def KeysDiffer : Json → Prop
  | .object members => (members.map Prod.fst).Nodup
  | _ => True

/-- Members in ascending order of their keys. -/
def Sorted {α : Type} (members : List (String × α)) : Prop :=
  members.Pairwise fun a b => a.1 < b.1

/-- Its keys ascend, if the value is an object. -/
def KeysAscend : Json → Prop
  | .object members => Sorted members
  | _ => True

/-- All whole numbers of a value fit into 64-bit words. -/
def Ranged (v : Json) : Prop := v.Everywhere FitsWord

/-- All numbers of a value are whole. -/
def Whole (v : Json) : Prop := v.Everywhere NoDouble

/-- No object of a value has a key twice. -/
def UniqueKeys (v : Json) : Prop := v.Everywhere KeysDiffer

/-- The keys of every object of a value ascend. -/
def Ascending (v : Json) : Prop := v.Everywhere KeysAscend

instance : DecidablePred FitsWord
  | .number (.int n) => inferInstanceAs (Decidable (-(Nat.pow 2 63 : Nat) ≤ n ∧ n ≤ maxWord))
  | .number (.float _) | .null | .bool _ | .string _ | .array _ | .object _ =>
    inferInstanceAs (Decidable True)

instance : DecidablePred NoDouble
  | .number (.float _) => inferInstanceAs (Decidable False)
  | .number (.int _) | .null | .bool _ | .string _ | .array _ | .object _ =>
    inferInstanceAs (Decidable True)

instance : DecidablePred KeysDiffer
  | .object members => inferInstanceAs (Decidable (members.map Prod.fst).Nodup)
  | .null | .bool _ | .number _ | .string _ | .array _ => inferInstanceAs (Decidable True)

instance (p : Json → Prop) [DecidablePred p] : DecidablePred (Everywhere p) := fun v =>
  inferInstanceAs (Decidable (∀ part ∈ v.parts, p part))

instance : DecidablePred Ranged := inferInstanceAs (DecidablePred (Everywhere FitsWord))

instance : DecidablePred Whole := inferInstanceAs (DecidablePred (Everywhere NoDouble))

instance : DecidablePred UniqueKeys := inferInstanceAs (DecidablePred (Everywhere KeysDiffer))

/-! ## Members in order -/

section

variable {α : Type} {key : String} {value : α} {members : List (String × α)}

lemma mem_of_mem_insert {m : String × α} (among : m ∈ insert key value members) :
    m = (key, value) ∨ m ∈ members := by
  fun_induction insert key value members with
  | case1 => exact .inl (List.mem_singleton.mp among)
  | case2 v rest =>
    rcases List.mem_cons.mp among with here | later
    · exact .inl here
    · exact .inr (List.mem_cons_of_mem _ later)
  | case3 k v rest _ _ => exact List.mem_cons.mp among
  | case4 k v rest _ _ ih =>
    rcases List.mem_cons.mp among with here | later
    · exact .inr (List.mem_cons.mpr (.inl here))
    · exact (ih later).imp_right (List.mem_cons_of_mem _)

lemma Sorted.insert (sorted : Sorted members) : Sorted (insert key value members) := by
  fun_induction Json.insert key value members with
  | case1 => exact List.pairwise_singleton _ _
  | case2 v rest => exact List.pairwise_cons.mpr (List.pairwise_cons.mp sorted)
  | case3 k v rest _ below =>
    refine List.pairwise_cons.mpr ⟨?_, sorted⟩
    intro m among
    rcases List.mem_cons.mp among with rfl | later
    · exact below
    · exact below.trans ((List.pairwise_cons.mp sorted).1 m later)
  | case4 k v rest other above ih =>
    obtain ⟨least, sorted⟩ := List.pairwise_cons.mp sorted
    refine List.pairwise_cons.mpr ⟨?_, ih sorted⟩
    intro m among
    rcases mem_of_mem_insert among with rfl | old
    · exact lt_of_le_of_ne (not_lt.mp above) (Ne.symm other)
    · exact least m old

lemma insert_last (greatest : ∀ m ∈ members, m.1 < key) :
    insert key value members = members ++ [(key, value)] := by
  induction members with
  | nil => rfl
  | cons m members ih =>
    have below : m.1 < key := greatest m List.mem_cons_self
    rw [insert, if_neg below.ne', if_neg below.asymm,
      ih fun other among => greatest other (List.mem_cons_of_mem m among)]
    rfl

lemma insert_perm (new : key ∉ members.map Prod.fst) :
    (insert key value members).Perm ((key, value) :: members) := by
  fun_induction insert key value members with
  | case1 => exact .refl _
  | case2 v rest => exact absurd List.mem_cons_self new
  | case3 k v rest _ _ => exact .refl _
  | case4 k v rest _ _ ih =>
    have later : key ∉ rest.map Prod.fst := fun among => new (List.mem_cons_of_mem k among)
    exact ((ih later).cons (k, v)).trans (.swap _ _ _)

/-- There is only one way to put members in order. -/
lemma Sorted.eq_of_perm {others : List (String × α)} (sorted : Sorted members)
    (sorted' : Sorted others) (perm : members.Perm others) : members = others :=
  perm.eq_of_pairwise (fun _ _ _ _ below above => absurd above below.asymm) sorted sorted'

end

/-! ## The form that reading gives a value -/

mutual

/-- The value with the members of every object in order, the last one of each key. -/
def canonical : Json → Json
  | .array items => .array (canonicalItems items)
  | .object members => .object (canonicalFrom [] members)
  | v => v

/-- The items, each in order. -/
def canonicalItems : List Json → List Json
  | [] => []
  | v :: items => v.canonical :: canonicalItems items

/-- The members put, each in order, among members that are there already. -/
def canonicalFrom : List (String × Json) → List (String × Json) → List (String × Json)
  | done, [] => done
  | done, (key, v) :: members => canonicalFrom (insert key v.canonical done) members

end

/-- The members of an object in order, the last one of each key, and so at every depth. -/
def canonicalMembers (members : List (String × Json)) : List (String × Json) :=
  canonicalFrom [] members

lemma canonicalItems_eq (items : List Json) : canonicalItems items = items.map canonical := by
  induction items with
  | nil => rfl
  | cons v items ih => rw [canonicalItems, ih, List.map_cons]

/-- Members that are in order, behind those that are there, stay as they are. -/
lemma canonicalFrom_eq_append {members : List (String × Json)}
    (same : ∀ m ∈ members, m.2.canonical = m.2) :
    ∀ done, Sorted (done ++ members) → canonicalFrom done members = done ++ members := by
  induction members with
  | nil => exact fun _ _ => (List.append_nil _).symm
  | cons m members ih =>
    intro done sorted
    -- All keys that are there are smaller, so the next member goes to the end.
    have greatest : ∀ old ∈ done, old.1 < m.1 := fun old among =>
      (List.pairwise_append.mp sorted).2.2 old among m List.mem_cons_self
    have rest : Sorted ((done ++ [m]) ++ members) := by
      rw [List.append_assoc]
      exact sorted
    rw [canonicalFrom, same m List.mem_cons_self, insert_last greatest,
      ih (fun other among => same other (List.mem_cons_of_mem m among)) _ rest, List.append_assoc]
    rfl

/-- A value whose keys ascend is read as it is. -/
lemma canonical_eq_self {v : Json} (ascending : v.Ascending) : v.canonical = v := by
  induction v using Json.induct with
  | null => rfl
  | bool => rfl
  | number => rfl
  | string => rfl
  | array items ih =>
    have inside := (everywhere_array.mp ascending).2
    have same : items.map canonical = items.map id :=
      List.map_congr_left fun v among => ih v among (inside v among)
    rw [canonical, canonicalItems_eq, same, List.map_id]
  | object members ih =>
    obtain ⟨sorted, inside⟩ := everywhere_object.mp ascending
    have same : ∀ m ∈ members, m.2.canonical = m.2 := fun m among => ih m among (inside m among)
    rw [canonical, canonicalFrom_eq_append same [] sorted, List.nil_append]

lemma canonicalMembers_eq_self {members : List (String × Json)}
    (ascending : (Json.object members).Ascending) : canonicalMembers members = members := by
  have whole := canonical_eq_self ascending
  rw [canonical] at whole
  exact Json.object.inj whole

/-! ## The same value in order -/

/-- The same value, with the members of every object in ascending order of their keys. -/
inductive Arranged : Json → Json → Prop where
  | null : Arranged .null .null
  | bool {b} : Arranged (.bool b) (.bool b)
  | number {n} : Arranged (.number n) (.number n)
  | string {s} : Arranged (.string s) (.string s)
  | array {vs ws} :
    List.Forall₂ Arranged vs ws →
    Arranged (.array vs) (.array ws)
  | object {ms ns sorted} :
    ms.map Prod.fst = ns.map Prod.fst →
    List.Forall₂ Arranged (ms.map Prod.snd) (ns.map Prod.snd) →
    sorted.Perm ns →
    Sorted sorted →
    Arranged (.object ms) (.object sorted)

/-- Members with different keys, put among those that are there, are all kept. -/
lemma canonicalFrom_perm (members : List (String × Json)) :
    ∀ done, ((done ++ members).map Prod.fst).Nodup →
      (canonicalFrom done members).Perm (done ++ members.map fun m => (m.1, m.2.canonical)) := by
  induction members with
  | nil => exact fun done _ => .of_eq (List.append_nil done).symm
  | cons m members ih =>
    intro done unique
    rw [List.map_append, List.map_cons, List.nodup_middle] at unique
    obtain ⟨new, unique⟩ := List.nodup_cons.mp unique
    -- No later key is among those that are there, also after the next member is put.
    have put : (insert m.1 m.2.canonical done).Perm ((m.1, m.2.canonical) :: done) :=
      insert_perm fun among => new (List.mem_append_left _ among)
    have keys : ((insert m.1 m.2.canonical done ++ members).map Prod.fst).Nodup := by
      rw [((put.append_right members).map Prod.fst).nodup_iff, List.cons_append, List.map_cons,
        List.map_append]
      exact List.nodup_cons.mpr ⟨new, unique⟩
    calc canonicalFrom done (m :: members)
        = canonicalFrom (insert m.1 m.2.canonical done) members := by rw [canonicalFrom]
      _ ~ insert m.1 m.2.canonical done ++ members.map fun m => (m.1, m.2.canonical) :=
          ih _ keys
      _ ~ (m.1, m.2.canonical) :: (done ++ members.map fun m => (m.1, m.2.canonical)) :=
          put.append_right _
      _ ~ done ++ (m :: members).map fun m => (m.1, m.2.canonical) :=
          List.perm_middle.symm

lemma sorted_canonicalFrom (members : List (String × Json)) :
    ∀ done, Sorted done → Sorted (canonicalFrom done members) := by
  induction members with
  | nil => exact fun _ sorted => sorted
  | cons m members ih => exact fun _ sorted => ih _ sorted.insert

lemma forall₂_arranged {vs ws : List Json}
    (each : ∀ v ∈ vs, ∀ w, Arranged v w ↔ w = v.canonical) :
    List.Forall₂ Arranged vs ws ↔ ws = vs.map canonical := by
  induction vs generalizing ws with
  | nil => simp
  | cons v vs ih =>
    obtain ⟨here, others⟩ := List.forall_mem_cons.mp each
    simp only [List.forall₂_cons_left_iff, here, ih others, List.map_cons]
    simp

/-- Where keys differ, putting a value in order gives its canonical form and nothing else. -/
lemma arranged_iff {v w : Json} (unique : v.UniqueKeys) : Arranged v w ↔ w = v.canonical := by
  induction v using Json.induct generalizing w with
  | null => exact ⟨fun | .null => rfl, by rintro rfl; exact .null⟩
  | bool b => exact ⟨fun | .bool => rfl, by rintro rfl; exact .bool⟩
  | number n => exact ⟨fun | .number => rfl, by rintro rfl; exact .number⟩
  | string s => exact ⟨fun | .string => rfl, by rintro rfl; exact .string⟩
  | array vs ih =>
    have inside := (everywhere_array.mp unique).2
    have each : ∀ v ∈ vs, ∀ w, Arranged v w ↔ w = v.canonical :=
      fun v among w => ih v among (inside v among)
    rw [canonical, canonicalItems_eq]
    constructor
    · rintro (_ | _ | _ | _ | same)
      rw [(forall₂_arranged each).mp same]
    · rintro rfl
      exact .array ((forall₂_arranged each).mpr rfl)
  | object ms ih =>
    obtain ⟨differ, inside⟩ := everywhere_object.mp unique
    have each : ∀ v ∈ ms.map Prod.snd, ∀ w, Arranged v w ↔ w = v.canonical := by
      intro v among w
      obtain ⟨m, listed, rfl⟩ := List.mem_map.mp among
      exact ih m listed (inside m listed)
    have kept : (canonicalMembers ms).Perm (ms.map fun m => (m.1, m.2.canonical)) :=
      canonicalFrom_perm ms [] differ
    have ordered : Sorted (canonicalMembers ms) := sorted_canonicalFrom ms [] .nil
    rw [canonical]
    constructor
    · rintro (_ | _ | _ | _ | _ | ⟨keys, same, perm, sorted⟩)
      rw [forall₂_arranged each] at same
      have entries := List.zip_of_prod keys.symm same
      have canonical_entries : (ms.map fun m => (m.1, m.2.canonical)) =
          (ms.map Prod.fst).zip ((ms.map Prod.snd).map canonical) :=
        List.zip_of_prod (by rw [List.map_map]; rfl) (by rw [List.map_map, List.map_map]; rfl)
      rw [entries, ← canonical_entries] at perm
      rw [sorted.eq_of_perm ordered (perm.trans kept.symm)]
      rfl
    · rintro rfl
      refine .object ?_ ?_ kept ordered
      · rw [List.map_map]
        rfl
      · rw [forall₂_arranged each, List.map_map, List.map_map]
        rfl

end HostBoard.Json
