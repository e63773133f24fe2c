import HostBoard.Proofs.Json.Tree
import Mathlib.Logic.Relation

/-!
# The last member of a key

Reading puts members one by one among those that are there. A member is lost when one of its key
follows (`canonicalFrom_insert_of_mem`), so a value has the same canonical form as what is left of
it when every object keeps only the last member of each key (`keepLast`, `canonical_keepLast`). And
members of different keys can be put in either order (`insert_comm`), so values that differ in the
order of such members only have one canonical form (`Reordered.canonical_eq`).
-/

namespace HostBoard.Json

/-! ## Two members put -/

section

variable {α : Type} {k l : String} {v w : α}

lemma insert_insert_self (members : List (String × α)) :
    insert k w (insert k v members) = insert k w members := by
  fun_induction insert k v members with
  | case1 => simp only [insert, if_true]
  | case2 old rest => simp only [insert, if_true]
  | case3 key old rest other below => simp only [insert, if_true, if_neg other, if_pos below]
  | case4 key old rest other above ih => simp only [insert, if_neg other, if_neg above, ih]

lemma insert_comm_of_lt (below : k < l) (members : List (String × α)) :
    insert k v (insert l w members) = insert l w (insert k v members) := by
  induction members with
  | nil => simp only [insert, if_neg below.ne, if_neg below.ne', if_pos below, if_neg below.asymm]
  | cons m members ih =>
    obtain ⟨key, old⟩ := m
    -- The places of both keys differ only if neither of them is behind the first member.
    rcases lt_trichotomy k key with before | rfl | behind
    · rcases lt_trichotomy l key with before' | rfl | behind'
      · simp only [insert, below, below.ne, below.ne', below.asymm, before, before.ne, before',
          before'.ne, if_true, if_false]
      · simp only [insert, below, below.ne, below.ne', below.asymm, if_true, if_false]
      · simp only [insert, below.ne', below.asymm, before, before.ne, behind'.ne', behind'.asymm,
          if_true, if_false]
    · simp only [insert, below.ne', below.asymm, if_true, if_false]
    · have behind' := behind.trans below
      simp only [insert, behind.ne', behind.asymm, behind'.ne', behind'.asymm, if_false, ih]

/-- Members of different keys can be put in either order. -/
lemma insert_comm (other : k ≠ l) (members : List (String × α)) :
    insert k v (insert l w members) = insert l w (insert k v members) := by
  rcases lt_or_gt_of_ne other with below | above
  · exact insert_comm_of_lt below members
  · exact (insert_comm_of_lt above members).symm

end

lemma canonicalFrom_append (first second : List (String × Json)) :
    ∀ done, canonicalFrom done (first ++ second) =
      canonicalFrom (canonicalFrom done first) second := by
  induction first with
  | nil => exact fun _ => rfl
  | cons m first ih => exact fun _ => ih _

/-- A member is lost when one of its key follows. -/
lemma canonicalFrom_insert_of_mem {key : String} {v : Json} {ms : List (String × Json)}
    (later : key ∈ ms.map Prod.fst) :
    ∀ done, canonicalFrom (insert key v done) ms = canonicalFrom done ms := by
  induction ms with
  | nil => cases later
  | cons m ms ih =>
    intro done
    rw [canonicalFrom, canonicalFrom]
    by_cases same : key = m.1
    · rw [same, insert_insert_self]
    · rw [insert_comm (Ne.symm same), ih ((List.mem_cons.mp later).resolve_left same)]

/-! ## What is left of a value -/

mutual

/-- The value with only the last member of each key in every object. -/
def keepLast : Json → Json
  | .array items => .array (keepLastItems items)
  | .object members => .object (keepLastMembers members)
  | v => v

/-- What is left of each item. -/
def keepLastItems : List Json → List Json
  | [] => []
  | v :: items => v.keepLast :: keepLastItems items

/-- What is left of the members that no member of their key follows. -/
def keepLastMembers : List (String × Json) → List (String × Json)
  | [] => []
  | (key, v) :: members =>
    if key ∈ members.map Prod.fst then keepLastMembers members
    else (key, v.keepLast) :: keepLastMembers members

end

lemma keepLastItems_eq (items : List Json) : keepLastItems items = items.map keepLast := by
  induction items with
  | nil => rfl
  | cons v items ih => rw [keepLastItems, ih, List.map_cons]

lemma mem_of_mem_keepLastMembers {m : String × Json} {ms : List (String × Json)}
    (among : m ∈ keepLastMembers ms) : ∃ old ∈ ms, m = (old.1, old.2.keepLast) := by
  induction ms with
  | nil => cases among
  | cons old ms ih =>
    rw [keepLastMembers] at among
    split at among
    · obtain ⟨older, listed, rfl⟩ := ih among
      exact ⟨older, List.mem_cons_of_mem old listed, rfl⟩
    · rcases List.mem_cons.mp among with rfl | later
      · exact ⟨old, List.mem_cons_self, rfl⟩
      · obtain ⟨older, listed, rfl⟩ := ih later
        exact ⟨older, List.mem_cons_of_mem old listed, rfl⟩

lemma nodup_keepLastMembers (ms : List (String × Json)) :
    ((keepLastMembers ms).map Prod.fst).Nodup := by
  induction ms with
  | nil => exact .nil
  | cons m ms ih =>
    rw [keepLastMembers]
    split
    · exact ih
    · next last =>
      refine List.nodup_cons.mpr ⟨?_, ih⟩
      intro among
      obtain ⟨kept, left, same⟩ := List.mem_map.mp among
      obtain ⟨old, listed, rfl⟩ := mem_of_mem_keepLastMembers left
      exact last (List.mem_map.mpr ⟨old, listed, same⟩)

/-- What is left of a value has no key twice. -/
lemma uniqueKeys_keepLast (v : Json) : v.keepLast.UniqueKeys := by
  induction v using Json.induct with
  | null => exact fun | _, .head _ => trivial
  | bool => exact fun | _, .head _ => trivial
  | number => exact fun | _, .head _ => trivial
  | string => exact fun | _, .head _ => trivial
  | array items ih =>
    rw [keepLast, keepLastItems_eq]
    refine everywhere_array.mpr ⟨trivial, ?_⟩
    intro w among
    obtain ⟨v, listed, rfl⟩ := List.mem_map.mp among
    exact ih v listed
  | object ms ih =>
    refine everywhere_object.mpr ⟨nodup_keepLastMembers ms, ?_⟩
    intro m among
    obtain ⟨old, listed, rfl⟩ := mem_of_mem_keepLastMembers among
    exact ih old listed

lemma canonicalFrom_keepLastMembers {ms : List (String × Json)}
    (same : ∀ m ∈ ms, m.2.keepLast.canonical = m.2.canonical) :
    ∀ done, canonicalFrom done (keepLastMembers ms) = canonicalFrom done ms := by
  induction ms with
  | nil => exact fun _ => rfl
  | cons m ms ih =>
    intro done
    obtain ⟨here, others⟩ := List.forall_mem_cons.mp same
    rw [keepLastMembers, canonicalFrom]
    split
    · next later => rw [ih others, canonicalFrom_insert_of_mem later]
    · rw [canonicalFrom, here, ih others]

/-- What is lost does not show in the canonical form. -/
lemma canonical_keepLast (v : Json) : v.keepLast.canonical = v.canonical := by
  induction v using Json.induct with
  | null => rfl
  | bool => rfl
  | number => rfl
  | string => rfl
  | array items ih =>
    rw [keepLast, keepLastItems_eq, canonical, canonical, canonicalItems_eq, canonicalItems_eq,
      List.map_map]
    exact congrArg Json.array (List.map_congr_left ih)
  | object ms ih => rw [keepLast, canonical, canonical, canonicalFrom_keepLastMembers ih]

/-- The canonical form is what is left of a value, in order. -/
lemma arranged_keepLast (v : Json) : Arranged v.keepLast v.canonical :=
  (arranged_iff (uniqueKeys_keepLast v)).mpr (canonical_keepLast v).symm

/-! ## Members in another order -/

/-- Two neighbouring members of different keys change places, at any depth. -/
inductive Exchange : Json → Json → Prop where
  | swap {before after k v l w} :
    k ≠ l →
    Exchange (.object (before ++ (k, v) :: (l, w) :: after))
      (.object (before ++ (l, w) :: (k, v) :: after))
  | item {before after v w} :
    Exchange v w →
    Exchange (.array (before ++ v :: after)) (.array (before ++ w :: after))
  | member {before after key v w} :
    Exchange v w →
    Exchange (.object (before ++ (key, v) :: after)) (.object (before ++ (key, w) :: after))

/-- The values differ in the order of members of different keys only. -/
def Reordered : Json → Json → Prop :=
  Relation.ReflTransGen Exchange

lemma Exchange.canonical_eq {v w : Json} (exchange : Exchange v w) : v.canonical = w.canonical := by
  induction exchange with
  | swap other =>
    simp only [canonical, canonicalFrom_append, canonicalFrom, insert_comm other]
  | item _ ih => simp only [canonical, canonicalItems_eq, List.map_append, List.map_cons, ih]
  | member _ ih => simp only [canonical, canonicalFrom_append, canonicalFrom, ih]

/-- The order of members of different keys does not show in the canonical form. -/
lemma Reordered.canonical_eq {v w : Json} (reordered : Reordered v w) :
    v.canonical = w.canonical := by
  induction reordered with
  | refl => rfl
  | tail _ exchange ih => exact ih.trans exchange.canonical_eq

end HostBoard.Json
