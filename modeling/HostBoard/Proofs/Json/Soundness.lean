import HostBoard.Json.Record
import HostBoard.Proofs.Json.Scalar

/-!
# What reading guarantees

Whatever the text, a value that is read fits the reader's budget: its whole numbers fit into 64-bit
words, its keys ascend and it is not nested more deeply than the budget allows (`Fits`). So the
value can be written and read again.

Steps of a reader are followed by `Ensures`, which says that every result has a property and leaves
faults aside. Each loop has one lemma, by induction on the steps it has left: a property that every
round keeps holds at the end.
-/

namespace HostBoard.Json

variable {α β σ : Type}

/-! ## Properties of results -/

/-- Every result has the property. -/
def Ensures (outcome : Except Fault α) (p : α → Prop) : Prop :=
  ∀ a, outcome = .ok a → p a

section

variable {outcome : Except Fault α} {p : α → Prop} {q : β → Prop}

lemma ensures_ok {a : α} (holds : p a) : Ensures (.ok a) p := by
  intro b same
  obtain rfl := Except.ok.inj same
  exact holds

lemma ensures_error {fault : Fault} : Ensures (.error fault) p := nofun

/-- A step after a result with a property. -/
lemma Ensures.bind {next : α → Except Fault β} (first : Ensures outcome p)
    (second : ∀ a, p a → Ensures (next a) q) : Ensures (outcome >>= next) q := by
  intro b done
  cases result : outcome with
  | ok a =>
    rw [result] at done
    exact second a (first a result) b done
  | error fault =>
    rw [result] at done
    cases done

lemma ensures_bind {next : α → Except Fault β} (second : ∀ a, Ensures (next a) q) :
    Ensures (outcome >>= next) q :=
  Ensures.bind (fun _ _ => trivial : Ensures outcome fun _ => True) fun a _ => second a

end

/-! ## Loops -/

/-- What every item ensures holds of all items that the loop reads. -/
lemma itemsLoop_ensures {item : Cursor → Except Fault (α × Cursor)} {p : α → Prop}
    (each : ∀ c, Ensures (item c) fun r => p r.1) {fuel : Nat} {read : List α} {c : Cursor}
    (before : ∀ v ∈ read, p v) :
    Ensures (itemsLoop item fuel read c) fun r => ∀ v ∈ r.1, p v := by
  induction fuel generalizing read c with
  | zero => exact ensures_error
  | succ fuel ih =>
    rw [itemsLoop]
    refine ensures_bind ?_
    rintro ⟨further, c⟩
    cases further with
    | false => exact ensures_ok fun v among => before v (List.mem_reverse.mp among)
    | true =>
      refine (each c).bind ?_
      rintro ⟨v, c⟩ holds
      exact ih (List.forall_mem_cons.mpr ⟨holds, before⟩)

lemma items_ensures {item : Cursor → Except Fault (α × Cursor)} {p : α → Prop}
    (each : ∀ c, Ensures (item c) fun r => p r.1) (c : Cursor) :
    Ensures (items item c) fun r => ∀ v ∈ r.1, p v :=
  itemsLoop_ensures each nofun

/-- What every member keeps holds when the loop is done. -/
lemma membersLoop_ensures {member : σ → String → Cursor → Except Fault (σ × Cursor)}
    {p : σ → Prop} (each : ∀ s key c, p s → Ensures (member s key c) fun r => p r.1) {fuel : Nat}
    {first : Bool} {s : σ} {c : Cursor} (before : p s) :
    Ensures (membersLoop member fuel first s c) fun r => p r.1 := by
  induction fuel generalizing first s c with
  | zero => exact ensures_error
  | succ fuel ih =>
    rw [membersLoop]
    refine ensures_bind ?_
    rintro ⟨further, c⟩
    cases further with
    | false => exact ensures_ok before
    | true =>
      refine ensures_bind ?_
      rintro ⟨key, c⟩
      refine (each s key c before).bind ?_
      rintro ⟨s, c⟩ holds
      exact ih holds

lemma members_ensures {member : σ → String → Cursor → Except Fault (σ × Cursor)} {p : σ → Prop}
    (each : ∀ s key c, p s → Ensures (member s key c) fun r => p r.1) {s : σ} (before : p s)
    (c : Cursor) : Ensures (members member s c) fun r => p r.1 :=
  membersLoop_ensures each before

/-- Members that are in order, with values that have a property. -/
def Ordered (p : α → Prop) (ms : List (String × α)) : Prop :=
  Sorted ms ∧ ∀ m ∈ ms, p m.2

lemma members_keep_ensures {item : Cursor → Except Fault (α × Cursor)} {p : α → Prop}
    (each : ∀ c, Ensures (item c) fun r => p r.1) (c : Cursor) :
    Ensures (members (keep item) [] c) fun r => Ordered p r.1 := by
  refine members_ensures ?_ ⟨.nil, nofun⟩ c
  rintro read key c ⟨sorted, before⟩
  refine ensures_bind fun c => ?_
  refine (each c).bind ?_
  rintro ⟨v, c⟩ holds
  refine ensures_ok ⟨sorted.insert, fun m among => ?_⟩
  rcases mem_of_mem_insert among with rfl | old
  · exact holds
  · exact before m old

/-! ## Numbers -/

lemma gather_le {limit n : Nat} (digits : List Char) (within : n ≤ limit) :
    (gather limit n digits).1 ≤ limit := by
  fun_induction gather limit n digits with
  | case1 n => exact within
  | case2 n d digits next below ih => exact ih below
  | case3 n d digits next above => exact within

lemma significand_le (n : Numeral) : n.significand.1 ≤ maxWord :=
  gather_le _ (gather_le _ (Nat.zero_le _))

/-- The exact value of a numeral fits into a 64-bit word. -/
lemma wholeValue_fits (n : Numeral) {value : Nat} (within : value ≤ maxWord) :
    (Json.number (n.wholeValue value)).FitsWord := by
  unfold Numeral.wholeValue
  split
  · show -(Nat.pow 2 63 : Nat) ≤ (value : Int) ∧ (value : Int) ≤ maxWord
    omega
  · split
    · show -(Nat.pow 2 63 : Nat) ≤ -(value : Int) ∧ -(value : Int) ≤ maxWord
      omega
    · trivial

lemma numeral_value_fits (n : Numeral) (c : Cursor) :
    Ensures (n.value c) fun number => (Json.number number).FitsWord := by
  have double : ∀ x, Ensures (Numeral.value.finish n c x) fun number =>
      (Json.number number).FitsWord := by
    intro x
    cases x with
    | some x => exact ensures_ok trivial
    | none => exact ensures_error
  unfold Numeral.value
  dsimp only
  split
  · split
    · exact ensures_ok (wholeValue_fits n (significand_le n))
    · exact double _
  · exact double _
  · split
    · exact double _
    · split
      · exact ensures_error
      · exact ensures_ok trivial

lemma numeral_read_fits (negative : Bool) (c : Cursor) :
    Ensures (Numeral.read negative c) fun r => (Json.number r.1).FitsWord := by
  refine ensures_bind ?_
  rintro ⟨n, c⟩
  refine (numeral_value_fits n c).bind ?_
  intro value fits
  exact ensures_ok fits

/-! ## Values -/

/-- The value could be read with the budget, and is as reading gives it. -/
structure Fits (budget : Nat) (v : Json) : Prop where
  ranged : v.Ranged
  ascending : v.Ascending
  shallow : v.depth ≤ budget

lemma everywhere_scalar {p : Json → Prop} {v : Json} (scalar : v.IsScalar) (here : p v) :
    v.Everywhere p := by
  cases v with
  | array => exact scalar.elim
  | object => exact scalar.elim
  | _ => exact List.forall_mem_singleton.mpr here

lemma Fits.scalar {budget : Nat} {v : Json} (scalar : v.IsScalar) (fits : v.FitsWord) :
    Fits budget v where
  ranged := everywhere_scalar scalar fits
  ascending := everywhere_scalar scalar (by cases v <;> trivial)
  shallow := by
    cases v with
    | array => exact scalar.elim
    | object => exact scalar.elim
    | _ => exact Nat.zero_le _

lemma Fits.array {budget : Nat} {vs : List Json} (each : ∀ v ∈ vs, Fits budget v) :
    Fits (budget + 1) (.array vs) where
  ranged := everywhere_array.mpr ⟨trivial, fun v among => (each v among).ranged⟩
  ascending := everywhere_array.mpr ⟨trivial, fun v among => (each v among).ascending⟩
  shallow := depth_array_le.mpr fun v among => (each v among).shallow

lemma Fits.object {budget : Nat} {ms : List (String × Json)} (ordered : Ordered (Fits budget) ms) :
    Fits (budget + 1) (.object ms) where
  ranged := everywhere_object.mpr ⟨trivial, fun m among => (ordered.2 m among).ranged⟩
  ascending := everywhere_object.mpr ⟨ordered.1, fun m among => (ordered.2 m among).ascending⟩
  shallow := depth_object_le.mpr fun m among => (ordered.2 m among).shallow

lemma scalar?_fits {c : Cursor} {result : Except Fault (Json × Cursor)} {budget : Nat}
    (found : scalar? c = some result) : Ensures result fun r => Fits budget r.1 := by
  unfold scalar? at found
  split at found
  · cases found
  · obtain rfl := Option.some.inj found
    exact ensures_bind fun c => ensures_ok (.scalar trivial trivial)
  · obtain rfl := Option.some.inj found
    exact ensures_bind fun c => ensures_ok (.scalar trivial trivial)
  · obtain rfl := Option.some.inj found
    exact ensures_bind fun c => ensures_ok (.scalar trivial trivial)
  · obtain rfl := Option.some.inj found
    exact (numeral_read_fits true _).bind fun r fits => ensures_ok (.scalar trivial fits)
  · obtain rfl := Option.some.inj found
    exact ensures_bind fun r => ensures_ok (.scalar trivial trivial)
  · split at found
    · obtain rfl := Option.some.inj found
      exact (numeral_read_fits false _).bind fun r fits => ensures_ok (.scalar trivial fits)
    · cases found

/-- Every value that is read fits. -/
lemma value_fits (budget : Nat) (c : Cursor) :
    Ensures (value budget c) fun r => Fits budget r.1 := by
  -- The induction is on the budget: a container hands down one less to what it holds.
  induction budget generalizing c with
  | zero =>
    rw [value.eq_def]
    dsimp only
    split
    · next found => exact scalar?_fits found
    · split <;> exact ensures_error
  | succ budget ih =>
    rw [value.eq_def]
    dsimp only
    split
    · next found => exact scalar?_fits found
    · split
      · exact ensures_error
      · exact (items_ensures ih _).bind fun r each => ensures_ok (.array each)
      · exact (members_keep_ensures ih _).bind fun r ordered => ensures_ok (.object ordered)
      · exact ensures_error

lemma mapping_value_fits (budget : Nat) (c : Cursor) :
    Ensures (mapping value budget c) fun r => Fits budget (.object r.1) := by
  unfold mapping
  dsimp only
  split
  · exact ensures_error
  · split
    · exact ensures_error
    · next budget =>
      exact (members_keep_ensures (value_fits budget) _).bind fun r ordered =>
        ensures_ok (.object ordered)
  · exact ensures_error

/-! ## Records -/

namespace Shape

variable {δ : Type} {shape : Shape δ α} {p : δ → Prop} {budget : Nat}

lemma member_ensures
    (each : ∀ field ∈ shape.fields, ∀ draft c, p draft →
      Ensures (field.read budget draft c) fun r => p r.1)
    (draft : δ) (key : String) (c : Cursor) (before : p draft) :
    Ensures (shape.member budget draft key c) fun r => p r.1 := by
  unfold member
  split
  · exact ensures_bind fun c => ensures_bind fun c => ensures_ok before
  · next field found =>
    split
    · exact ensures_error
    · exact ensures_bind fun c => each field (List.mem_of_find?_eq_some found) draft c before

lemma elements_ensures {fields : List (Field δ)}
    (each : ∀ field ∈ fields, ∀ draft c, p draft →
      Ensures (field.read budget draft c) fun r => p r.1)
    (index : Nat) (draft : δ) (c : Cursor) (before : p draft) :
    Ensures (shape.elements budget index fields draft c) fun r => p r.1 := by
  induction fields generalizing index draft c with
  | nil => exact ensures_ok before
  | cons field fields ih =>
    obtain ⟨here, others⟩ := List.forall_mem_cons.mp each
    rw [elements]
    refine ensures_bind ?_
    rintro ⟨further, c⟩
    cases further with
    | true =>
      refine (here draft c before).bind ?_
      rintro ⟨draft, c⟩ holds
      exact ih others (index + 1) draft c holds
    | false =>
      dsimp only
      split
      · exact ih others (index + 1) draft c before
      · exact ensures_error

lemma complete_ensures (shape : Shape δ α) (draft : δ) (c : Cursor) :
    Ensures (shape.complete draft c) fun a => shape.finish draft = .ok a := by
  unfold complete
  split
  · next finished => exact ensures_ok finished
  · exact ensures_error

/-- What every field keeps holds of the draft from which a record is finished. -/
lemma read_ensures (start : p shape.empty)
    (each : ∀ field ∈ shape.fields, ∀ draft c, p draft →
      Ensures (field.read budget draft c) fun r => p r.1) (c : Cursor) :
    Ensures (shape.read (budget + 1) c) fun r =>
      ∃ draft, p draft ∧ shape.finish draft = .ok r.1 := by
  unfold read
  dsimp only
  split
  · exact ensures_error
  · refine (members_ensures (member_ensures each) start _).bind ?_
    rintro ⟨draft, c⟩ holds
    refine (complete_ensures shape draft c.eat).bind ?_
    intro a finished
    exact ensures_ok ⟨draft, holds, finished⟩
  · refine (elements_ensures each 0 shape.empty _ start).bind ?_
    rintro ⟨draft, c⟩ holds
    refine (complete_ensures shape draft c).bind ?_
    intro a finished
    exact ensures_bind fun c => ensures_ok ⟨draft, holds, finished⟩
  · exact ensures_error

end Shape

/-- What reading ensures holds of a whole text. -/
lemma document_ensures {read : Reader α} {p : α → Prop}
    (each : ∀ c, Ensures (read nestingLimit c) fun r => p r.1) (text : String) :
    Ensures (document read text) p := by
  refine (each _).bind ?_
  rintro ⟨v, c⟩ holds
  dsimp only
  split
  · exact ensures_ok holds
  · exact ensures_error

end HostBoard.Json
