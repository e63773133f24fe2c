import HostBoard.Json.Record
import HostBoard.Proofs.Json.Skipping

/-!
# Reading records

What a value means as a record is said on trees first: an object sets the fields that its members
name, an array sets the fields in order, and the draft is finished if nothing is missing
(`Shape.meaning`). Given what each field makes of a value, the reader of the record gives exactly
that (`Shape.reads`).

The members of an object may come in any order. `Shape.fold_members` settles this once for all
shapes: as long as two fields can be set in either order and no key comes twice, the fields may as
well be looked up one after another.
-/

namespace HostBoard.Json.Shape

variable {δ α : Type} {c : Cursor} {more : List Token}

/-! ## The meaning of a value -/

section

variable (shape : Shape δ α) (store : String → δ → Json → Option δ)

/-- What a value does to a draft as the value of a field, which must not be set yet. -/
def put (field : Field δ) (draft : δ) (v : Json) : Option δ :=
  if field.isSet draft then none else store field.name draft v

/-- What a member of an object does to a draft. -/
def memberMeaning (draft : δ) (m : String × Json) : Option δ :=
  match shape.fields.find? fun field => field.name = m.1 with
  | none => some draft
  | some field => put store field draft m.2

/-- What the items of an array do to a draft, field by field. -/
def fill : List (Field δ) → δ → List Json → Option δ
  | [], draft, _ => some draft
  | field :: fields, draft, v :: vs => do fill fields (← store field.name draft v) vs
  | field :: fields, draft, [] => if field.optional then fill fields draft [] else none

/-- What a value means as a record. -/
def meaning : Json → Option α
  | .object ms => do (shape.finish (← ms.foldlM (shape.memberMeaning store) shape.empty)).toOption
  | .array vs =>
    if vs.length ≤ shape.fields.length then
      do (shape.finish (← fill store shape.fields shape.empty vs)).toOption
    else none
  | _ => none

end

/-! ## The reader -/

variable {shape : Shape δ α} {store : String → δ → Json → Option δ} {budget : Nat}

lemma complete_eq (shape : Shape δ α) (draft : δ) (c : Cursor) :
    (∃ v, shape.complete draft c = .ok v ∧ (shape.finish draft).toOption = some v) ∨
    (∃ fault, shape.complete draft c = .error fault ∧ (shape.finish draft).toOption = none) := by
  unfold complete
  cases shape.finish draft with
  | ok v => exact .inl ⟨v, rfl, rfl⟩
  | error name => exact .inr ⟨_, rfl, rfl⟩

/-- One member is taken: a field is read, and what is no field is skipped. -/
lemma handles_member {key : String} {v : Json} (whole : v.Whole)
    (reads : ∀ field ∈ shape.fields, ∀ draft,
      Reads (field.read budget draft) v (store field.name draft v)) :
    Handles (shape.member budget) key v fun draft => shape.memberMeaning store draft (key, v) := by
  intro draft c more closing spread
  obtain ⟨c', punctuation, spread, -⟩ := colon_spread spread
  unfold member memberMeaning put
  cases found : shape.fields.find? fun field => field.name = key with
  | none =>
    obtain ⟨c'', skipped, spread⟩ := skip_spread whole closing spread
    refine ⟨c'', ?_, spread⟩
    simp only [punctuation, skipped, bind, Except.bind, pure, Except.pure]
  | some field =>
    simp only [punctuation, bind, Except.bind]
    by_cases set : field.isSet draft
    · rw [if_pos set, if_pos set]
      exact gives_error
    · rw [if_neg set, if_neg set]
      exact reads field (List.mem_of_find?_eq_some found) draft c' more closing spread

lemma reads_object {ms : List (String × Json)} (whole : (Json.object ms).Whole)
    (reads : ∀ m ∈ ms, ∀ field ∈ shape.fields, ∀ draft,
      Reads (field.read budget draft) m.2 (store field.name draft m.2)) :
    Reads (shape.read (budget + 1)) (.object ms) (shape.meaning store (.object ms)) := by
  intro c more closing spread
  have each : ∀ m ∈ ms, Handles (shape.member budget) m.1 m.2 fun draft =>
      shape.memberMeaning store draft m := fun m among =>
    handles_member (whole.member among) (reads m among)
  obtain ⟨rest, here, spread, -⟩ := Spread.skipBlank_single spread rfl
  have given := members_spread each shape.empty spread
  simp only [read, here, meaning]
  refine given.bind ?_
  intro draft c' _ spread
  rcases shape.complete_eq draft c'.eat with ⟨v, done, finished⟩ | ⟨fault, done, finished⟩
  · simp only [done, finished]
    exact gives_ok spread
  · simp only [done, finished]
    exact gives_error

/-- The end of a list is where no items are left. -/
lemma endList_spread (vs : List Json) (spread : Spread (moreItemsTokens vs ++ more) c.rest) :
    (∃ c', endList c = .ok c' ∧ Before more c' ∧ vs = []) ∨
    (∃ fault, endList c = .error fault ∧ vs ≠ []) := by
  cases vs with
  | nil =>
    obtain ⟨rest, here, spread, -⟩ := Spread.skipBlank_single spread rfl
    exact .inl ⟨c.skipBlank.eat, by simp only [endList, here], spread, rfl⟩
  | cons v vs =>
    obtain ⟨rest, here, spread, -⟩ := Spread.skipBlank_single spread rfl
    refine .inr ?_
    simp only [endList, here]
    split
    · exact ⟨_, rfl, List.cons_ne_nil v vs⟩
    · exact ⟨_, rfl, List.cons_ne_nil v vs⟩

/-- Where no items are left, the fields that are left have to be optional. -/
lemma elements_end (fields : List (Field δ)) (index : Nat) (draft : δ)
    (spread : Spread ([']'] :: more) c.rest) :
    Gives (shape.elements budget index fields draft c) (fill store fields draft [])
      (Before ([']'] :: more)) := by
  induction fields generalizing index c with
  | nil => exact gives_ok spread
  | cons field fields ih =>
    obtain ⟨c', next, spread, -⟩ := nextItem_close (decide (index = 0)) spread
    rw [elements, next, fill]
    simp only [bind, Except.bind]
    by_cases optional : field.optional
    · rw [if_pos optional, if_pos optional]
      exact ih (index + 1) spread
    · rw [if_neg optional, if_neg optional]
      exact gives_error

/-- A field is set from the next item, and the other fields from the other items. -/
lemma elements_item {field : Field δ} {fields : List (Field δ)} {v : Json} {vs : List Json}
    {index : Nat} {draft : δ} {c' : Cursor} {behind : Cursor → Prop}
    (next : nextItem (decide (index = 0)) c = .ok (true, c'))
    (reads : Reads (field.read budget draft) v (store field.name draft v))
    (spread : Spread (v.tokens ++ (moreItemsTokens vs ++ more)) c'.rest)
    (others : ∀ draft c, Before (moreItemsTokens vs ++ more) c →
      Gives (shape.elements budget (index + 1) fields draft c) (fill store fields draft vs)
        behind) :
    Gives (shape.elements budget index (field :: fields) draft c)
      (fill store (field :: fields) draft (v :: vs)) behind := by
  rw [elements, next, fill]
  exact (reads c' _ (closing_moreItemsTokens vs) spread).bind fun draft c _ spread =>
    others draft c spread

/-- Fields behind the first are set from the items that are left, and items may be left over. -/
lemma elements_more {fields : List (Field δ)} {vs : List Json} (whole : ∀ v ∈ vs, v.NoDouble)
    (reads : ∀ v ∈ vs, ∀ field ∈ fields, ∀ draft,
      Reads (field.read budget draft) v (store field.name draft v))
    (index : Nat) (draft : δ) (spread : Spread (moreItemsTokens vs ++ more) c.rest) :
    Gives (shape.elements budget (index + 1) fields draft c) (fill store fields draft vs)
      (Before (moreItemsTokens (vs.drop fields.length) ++ more)) := by
  induction fields generalizing vs index draft c with
  | nil => exact gives_ok spread
  | cons field fields ih =>
    cases vs with
    | nil =>
      rw [List.drop_nil]
      exact elements_end _ _ draft spread
    | cons v vs =>
      obtain ⟨here, others⟩ := List.forall_mem_cons.mp whole
      rw [moreItemsTokens, List.cons_append, List.append_assoc] at spread
      obtain ⟨c', next, spread⟩ := nextItem_comma here spread
      have first := reads v List.mem_cons_self field List.mem_cons_self draft
      refine elements_item next first spread ?_
      intro draft c spread
      exact ih others (fun w among other listed => reads w (List.mem_cons_of_mem v among) other
        (List.mem_cons_of_mem field listed)) (index + 1) draft spread

/-- Fields are set from the items of an array, and items may be left over. -/
lemma elements_spread {fields : List (Field δ)} {vs : List Json} (some_field : fields ≠ [])
    (whole : ∀ v ∈ vs, v.NoDouble)
    (reads : ∀ v ∈ vs, ∀ field ∈ fields, ∀ draft,
      Reads (field.read budget draft) v (store field.name draft v))
    (draft : δ) (spread : Spread (itemsTokens vs ++ more) c.rest) :
    Gives (shape.elements budget 0 fields draft c) (fill store fields draft vs)
      (Before (moreItemsTokens (vs.drop fields.length) ++ more)) := by
  cases fields with
  | nil => exact absurd rfl some_field
  | cons field fields =>
    cases vs with
    | nil =>
      rw [List.drop_nil]
      exact elements_end _ 0 draft spread
    | cons v vs =>
      obtain ⟨here, others⟩ := List.forall_mem_cons.mp whole
      rw [itemsTokens, List.append_assoc] at spread
      obtain ⟨c', next, spread⟩ := nextItem_first here spread
      have first := reads v List.mem_cons_self field List.mem_cons_self draft
      refine elements_item next first spread ?_
      intro draft c spread
      exact elements_more others (fun w among other listed => reads w (List.mem_cons_of_mem v among)
        other (List.mem_cons_of_mem field listed)) 0 draft spread

lemma reads_array {vs : List Json} (some_field : shape.fields ≠ []) (whole : (Json.array vs).Whole)
    (reads : ∀ v ∈ vs, ∀ field ∈ shape.fields, ∀ draft,
      Reads (field.read budget draft) v (store field.name draft v)) :
    Reads (shape.read (budget + 1)) (.array vs) (shape.meaning store (.array vs)) := by
  intro c more closing spread
  have solid : ∀ v ∈ vs, v.NoDouble := fun v among => (whole.item among).here
  obtain ⟨rest, here, spread, -⟩ := Spread.skipBlank_single spread rfl
  have meaning_eq : shape.meaning store (.array vs) =
      (fill store shape.fields shape.empty vs >>= fun draft =>
        if vs.length ≤ shape.fields.length then (shape.finish draft).toOption else none) := by
    rw [meaning]
    split
    · rfl
    · cases fill store shape.fields shape.empty vs <;> rfl
  -- The draft is finished first and the end of the list is looked for afterwards, so the length of
  -- the array counts only where the draft is complete.
  rw [meaning_eq]
  simp only [read, here]
  refine (elements_spread some_field solid reads shape.empty spread).bind ?_
  intro draft c' _ spread
  rcases shape.complete_eq draft c' with ⟨v, done, finished⟩ | ⟨fault, done, finished⟩
  · rcases endList_spread _ spread with ⟨c'', ended, spread, none_left⟩ | ⟨fault, ended, left⟩
    · rw [if_pos (List.drop_eq_nil_iff.mp none_left)]
      simp only [done, finished, ended]
      exact gives_ok spread
    · rw [if_neg (fun short => left (List.drop_eq_nil_iff.mpr short))]
      simp only [done, ended]
      exact gives_error
  · simp only [done, finished, ite_self]
    exact gives_error

/-- A record is read from what has a meaning as one, and from nothing else. -/
lemma reads {v : Json} (some_field : shape.fields ≠ []) (whole : v.Whole)
    (items : ∀ vs, v = .array vs → ∀ w ∈ vs, ∀ field ∈ shape.fields, ∀ draft,
      Reads (field.read budget draft) w (store field.name draft w))
    (members : ∀ ms, v = .object ms → ∀ m ∈ ms, ∀ field ∈ shape.fields, ∀ draft,
      Reads (field.read budget draft) m.2 (store field.name draft m.2)) :
    Reads (shape.read (budget + 1)) v (shape.meaning store v) := by
  by_cases list : ∃ vs, v = .array vs
  · obtain ⟨vs, rfl⟩ := list
    exact reads_array some_field whole (items vs rfl)
  by_cases object : ∃ ms, v = .object ms
  · obtain ⟨ms, rfl⟩ := object
    exact reads_object whole (members ms rfl)
  intro c more closing spread
  obtain ⟨ch, rest, here, lead, -⟩ := skipBlank_lead whole.here spread
  have none : shape.meaning store v = none := by
    cases v with
    | array vs => exact absurd ⟨vs, rfl⟩ list
    | object ms => exact absurd ⟨ms, rfl⟩ object
    | _ => rfl
  rw [none]
  unfold read
  dsimp only
  split
  · exact gives_error
  · next tail e =>
    rw [here] at e
    exact absurd (lead.object (List.cons.inj e).1) object
  · next tail e =>
    rw [here] at e
    exact absurd (lead.array (List.cons.inj e).1) list
  · exact gives_error

/-! ## Members in any order -/

/-- What the member of a field's name, if there is one, does to a draft. -/
def putFrom (store : String → δ → Json → Option δ) (ms : List (String × Json)) (draft : δ)
    (field : Field δ) : Option δ :=
  match ms.lookup field.name with
  | none => some draft
  | some v => put store field draft v

/-- Two fields may be set in either order. -/
def EitherOrder (store : String → δ → Json → Option δ) (f g : Field δ) : Prop :=
  ∀ draft v w, (put store f draft v >>= fun draft => put store g draft w) =
    put store g draft w >>= fun draft => put store f draft v

/-- The fields have different names, and any two of them may be set in either order. -/
def Independent (store : String → δ → Json → Option δ) (fields : List (Field δ)) : Prop :=
  fields.Pairwise fun f g => f.name ≠ g.name ∧ EitherOrder store f g

/-- Fields may be set in either order if setting one does not touch the other. -/
lemma EitherOrder.of_set {β γ : Type} {f g : Field δ} {getF : Json → Option β}
    {getG : Json → Option γ} {setF : δ → β → δ} {setG : δ → γ → δ}
    (f_store : ∀ draft v, store f.name draft v = (getF v).map (setF draft))
    (g_store : ∀ draft v, store g.name draft v = (getG v).map (setG draft))
    (f_kept : ∀ draft y, f.isSet (setG draft y) = f.isSet draft)
    (g_kept : ∀ draft x, g.isSet (setF draft x) = g.isSet draft)
    (swap : ∀ draft x y, setG (setF draft x) y = setF (setG draft y) x) :
    EitherOrder store f g := by
  intro draft v w
  simp only [put, f_store, g_store]
  cases f_set : f.isSet draft <;> cases g_set : g.isSet draft <;> cases getF v <;>
    cases getG w <;> simp [f_kept, g_kept, f_set, g_set, swap]

lemma putFrom_other {key : String} {v : Json} {ms : List (String × Json)} {draft : δ}
    {field : Field δ} (other : field.name ≠ key) :
    putFrom store ((key, v) :: ms) draft field = putFrom store ms draft field := by
  have apart : (field.name == key) = false := beq_eq_false_iff_ne.mpr other
  rw [putFrom, List.lookup_cons, apart]
  rfl

lemma foldlM_putFrom_other {key : String} {v : Json} {ms : List (String × Json)}
    {fields : List (Field δ)} (other : ∀ field ∈ fields, field.name ≠ key) (draft : δ) :
    fields.foldlM (putFrom store ((key, v) :: ms)) draft =
      fields.foldlM (putFrom store ms) draft := by
  induction fields generalizing draft with
  | nil => rfl
  | cons field fields ih =>
    obtain ⟨here, later⟩ := List.forall_mem_cons.mp other
    rw [List.foldlM_cons, List.foldlM_cons, putFrom_other here]
    exact congrArg _ (funext (ih later))

lemma put_putFrom {field other : Field δ} (commute : EitherOrder store other field)
    (ms : List (String × Json)) (draft : δ) (v : Json) :
    (put store field draft v >>= fun draft => putFrom store ms draft other) =
      putFrom store ms draft other >>= fun draft => put store field draft v := by
  cases found : ms.lookup other.name with
  | none =>
    have passed : ∀ draft, putFrom store ms draft other = pure draft := fun draft => by
      rw [putFrom, found]
      rfl
    simp only [passed, bind_pure, pure_bind]
  | some w =>
    simp only [putFrom, found]
    exact (commute draft w v).symm

/-- The first member may be taken before all others, if its name does not come again. -/
lemma put_foldlM {field : Field δ} {fields : List (Field δ)} {ms : List (String × Json)}
    (independent : Independent store fields) (among : field ∈ fields)
    (absent : ms.lookup field.name = none) (draft : δ) (v : Json) :
    (put store field draft v >>= fields.foldlM (putFrom store ms)) =
      fields.foldlM (putFrom store ((field.name, v) :: ms)) draft := by
  induction fields generalizing draft with
  | nil => cases among
  | cons other fields ih =>
    obtain ⟨apart, independent⟩ := List.pairwise_cons.mp independent
    rw [List.foldlM_cons]
    -- Either the member's own field comes now, or a field that can be set after it.
    rcases List.mem_cons.mp among with rfl | later
    · have apart : ∀ other ∈ fields, other.name ≠ field.name := fun other listed =>
        (apart other listed).1.symm
      have here : putFrom store ((field.name, v) :: ms) draft field = put store field draft v := by
        rw [putFrom, List.lookup_cons_self]
      have passed : ∀ draft, putFrom store ms draft field = some draft := fun draft => by
        rw [putFrom, absent]
      rw [here]
      refine congrArg _ (funext fun draft => ?_)
      rw [List.foldlM_cons, passed, foldlM_putFrom_other apart]
      rfl
    · obtain ⟨apart, commute⟩ := apart field later
      rw [putFrom_other apart]
      calc put store field draft v >>= (other :: fields).foldlM (putFrom store ms)
          = (put store field draft v >>= fun draft => putFrom store ms draft other) >>=
              fields.foldlM (putFrom store ms) := by
            simp only [List.foldlM_cons, bind_assoc]
        _ = (putFrom store ms draft other >>= fun draft => put store field draft v) >>=
              fields.foldlM (putFrom store ms) := by
            rw [put_putFrom commute]
        _ = putFrom store ms draft other >>= fun draft =>
              put store field draft v >>= fields.foldlM (putFrom store ms) := bind_assoc _ _ _
        _ = putFrom store ms draft other >>=
              fields.foldlM (putFrom store ((field.name, v) :: ms)) :=
            congrArg _ (funext (ih independent later))

/-- Members with different names set the fields as if they were looked up field by field. -/
lemma fold_members (independent : Independent store shape.fields) {ms : List (String × Json)}
    (unique : (ms.map Prod.fst).Nodup) (draft : δ) :
    ms.foldlM (shape.memberMeaning store) draft =
      shape.fields.foldlM (putFrom store ms) draft := by
  induction ms generalizing draft with
  | nil =>
    have absent : putFrom store [] = fun draft _ => pure draft := rfl
    rw [absent, List.foldlM_pure]
    exact (congrArg some (List.foldl_fixed shape.fields)).symm
  | cons m ms ih =>
    obtain ⟨new, unique⟩ := List.nodup_cons.mp unique
    rw [List.foldlM_cons, funext (ih unique)]
    cases found : shape.fields.find? fun field => field.name = m.1 with
    | none =>
      have other : ∀ field ∈ shape.fields, field.name ≠ m.1 := fun field listed same =>
        List.find?_eq_none.mp found field listed (decide_eq_true same)
      have passed : shape.memberMeaning store draft m = some draft := by
        rw [memberMeaning, found]
      rw [passed]
      exact (foldlM_putFrom_other other draft).symm
    | some field =>
      have taken : shape.memberMeaning store draft m = put store field draft m.2 := by
        rw [memberMeaning, found]
      have same : field.name = m.1 := by simpa using List.find?_some found
      have absent : ms.lookup field.name = none := by
        rw [same, List.lookup_eq_none_iff]
        intro other among
        exact bne_iff_ne.mpr fun e => new (e ▸ List.mem_map_of_mem among)
      rw [taken, put_foldlM independent (List.mem_of_find?_eq_some found) absent, same]

end HostBoard.Json.Shape
