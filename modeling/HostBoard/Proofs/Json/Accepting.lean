import HostBoard.Json.Record
import HostBoard.Proofs.Json.Grammar

/-!
# What typed readers accept

A typed reader refuses more than a misspelled text, but what it accepts is spelled, member by member
and item by item (`Accepts`): the members that a record does not know are skipped, and what is
skipped is spelled too. So a text that a typed reader accepts can be read as a value of any shape,
unless a limit is met (`document_of_accepts`); for instance a member that was skipped may be nested
too deeply to be read.
-/

namespace HostBoard.Json

variable {α δ σ : Type}

/-- The reader accepts only what is spelled, and ends behind it. -/
def Accepts (read : Cursor → Except Fault (α × Cursor)) : Prop :=
  ∀ c, Ensures (read c) fun r => ValueAt c r.2

lemma Accepts.map {β : Type} {read : Cursor → Except Fault (α × Cursor)} (accepts : Accepts read)
    (f : α → β) : Accepts fun c => do let (a, c) ← read c; return (f a, c) :=
  fun c => (accepts c).bind fun _ value => ensures_ok value

/-! ## Containers -/

lemma ValueAt.of_entries {frame : Frame} {c c' : Cursor} {rest : List Char}
    (here : c.skipBlank.rest = frame.opening :: rest)
    (entries : EntriesAt frame true c.skipBlank.eat c') : ValueAt c c'.eat := by
  obtain ⟨opens, opened⟩ := skipScalar_opening frame here
  exact .container opens (by rwa [opened])

/-- A loop over items accepts entries of a list. -/
lemma itemsLoop_entries {item : Cursor → Except Fault (α × Cursor)} (accepts : Accepts item)
    (fuel : Nat) (read : List α) (c : Cursor) :
    Ensures (itemsLoop item fuel read c) fun r =>
      ∃ closing, EntriesAt .list read.isEmpty c closing ∧ closing.eat = r.2 := by
  induction fuel generalizing read c with
  | zero => exact ensures_error
  | succ fuel ih =>
    rw [itemsLoop]
    cases next : nextItem read.isEmpty c with
    | error fault => exact ensures_error
    | ok r =>
      obtain ⟨more, c₁⟩ := r
      cases more with
      | false => exact ensures_ok ⟨c₁, .close next, rfl⟩
      | true =>
        refine (accepts c₁).bind fun r value => ?_
        intro result done
        obtain ⟨closing, entries, behind⟩ := ih (r.1 :: read) r.2 result done
        exact ⟨closing, .entry next rfl value entries, behind⟩

lemma nextKey_quote {first : Bool} {c c₁ : Cursor} (next : nextKey first c = .ok (true, c₁)) :
    ∃ rest, c₁.rest = '"' :: rest := by
  unfold nextKey at next
  dsimp only at next
  split at next
  · cases next
  · cases next
  · next ch rest _ here =>
    split at next
    · split at next
      · next quote =>
        cases next
        exact ⟨rest, quote ▸ here⟩
      · cases next
    · split at next
      · split at next
        · cases next
        · next rest here =>
          cases next
          exact ⟨rest, here⟩
        · cases next
        · cases next
      · cases next

/-- A handler of members accepts a colon and a value. -/
def AcceptsMember (member : σ → String → Cursor → Except Fault (σ × Cursor)) : Prop :=
  ∀ s key c, Ensures (member s key c) fun r => ∃ c₁, colon c = .ok c₁ ∧ ValueAt c₁ r.2

/-- A loop over members accepts entries of an object. -/
lemma membersLoop_entries {member : σ → String → Cursor → Except Fault (σ × Cursor)}
    (accepts : AcceptsMember member) (fuel : Nat) (first : Bool) (s : σ) (c : Cursor) :
    Ensures (membersLoop member fuel first s c) fun r => EntriesAt .object first c r.2 := by
  induction fuel generalizing first s c with
  | zero => exact ensures_error
  | succ fuel ih =>
    rw [membersLoop]
    cases next : nextKey first c with
    | error fault => exact ensures_error
    | ok r =>
      obtain ⟨more, c₁⟩ := r
      cases more with
      | false => exact ensures_ok (.close next)
      | true =>
        obtain ⟨rest, quote⟩ := nextKey_quote next
        have solid : c₁.skipBlank = c₁ := (nextEntry_spec .object first c _ next).2
        have text : Ensures (stringBody [] c₁.eat) fun r => skipString c₁.eat = .ok r.2 :=
          fun _ done => skipString_of_stringBody done
        show Ensures (stringBody [] c₁.eat >>= fun r => member s r.1 r.2 >>= fun r =>
          membersLoop member fuel false r.1 r.2) _
        refine text.bind fun r checked => (accepts s r.1 r.2).bind ?_
        rintro r' ⟨c₂, punctuation, value⟩ result done
        have key : skipKey .object c₁ = .ok c₂ :=
          skipKey_object_iff.mpr ⟨rest, r.2, by rwa [solid], by rwa [solid], punctuation⟩
        exact .entry next key value (ih false r'.1 r'.2 result done)

/-! ## Readers -/

lemma accepts_text (budget : Nat) : Accepts (text budget) := by
  intro c
  unfold text
  dsimp only
  split
  · exact ensures_error
  · next rest here =>
    intro r done
    have checked : skipScalar c.skipBlank = .ok (some r.2) := by
      simp only [skipScalar, here, skipString_of_stringBody done]
      rfl
    exact .scalar checked
  · exact ensures_error

lemma accepts_list {item : Reader α} (each : ∀ budget, Accepts (item budget)) (budget : Nat) :
    Accepts (list item budget) := by
  intro c
  unfold list
  dsimp only
  split
  · exact ensures_error
  · next rest here =>
    cases budget with
    | zero => exact ensures_error
    | succ budget =>
      intro r done
      obtain ⟨closing, entries, behind⟩ := itemsLoop_entries (each budget) _ [] _ r done
      rw [← behind]
      exact @ValueAt.of_entries .list _ _ _ here entries
  · exact ensures_error

namespace Shape

variable {shape : Shape δ α}

lemma acceptsMember
    (each : ∀ field ∈ shape.fields, ∀ budget draft, Accepts (field.read budget draft))
    (budget : Nat) : AcceptsMember (shape.member budget) := by
  intro draft key c
  unfold member
  split
  · cases punctuation : colon c with
    | error fault => exact ensures_error
    | ok c₁ =>
      have skipped : Ensures (skip c₁) fun behind => ValueAt c₁ behind :=
        fun _ checked => .of_skip checked
      exact skipped.bind fun behind value => ensures_ok ⟨c₁, rfl, value⟩
  · next field found =>
    split
    · exact ensures_error
    · cases punctuation : colon c with
      | error fault => exact ensures_error
      | ok c₁ =>
        intro r done
        exact ⟨c₁, rfl, each field (List.mem_of_find?_eq_some found) budget draft c₁ r done⟩

lemma endList_eq_ok {c c' : Cursor} (ends : endList c = .ok c') :
    ∃ rest, c.skipBlank.rest = ']' :: rest ∧ c.skipBlank.eat = c' := by
  unfold endList at ends
  dsimp only at ends
  split at ends
  · cases ends
  · next rest here => exact ⟨rest, here, Except.ok.inj ends⟩
  · split at ends <;> cases ends
  · cases ends

/-- The fields of a record, none of which may be left out, are entries of a list. -/
lemma elements_entries {fields : List (Field δ)}
    (required : ∀ field ∈ fields, field.optional = false)
    (each : ∀ field ∈ fields, ∀ budget draft, Accepts (field.read budget draft)) {budget : Nat}
    (index : Nat) (draft : δ) (c : Cursor) :
    Ensures (shape.elements budget index fields draft c) fun r => Ensures (endList r.2) fun c' =>
      ∃ closing, EntriesAt .list (index = 0) c closing ∧ closing.eat = c' := by
  induction fields generalizing index draft c with
  | nil =>
    refine ensures_ok ?_
    intro c' ends
    obtain ⟨rest, here, rfl⟩ := endList_eq_ok ends
    exact ⟨c.skipBlank, .close (@nextEntry_close .list _ _ _ here), rfl⟩
  | cons field fields ih =>
    obtain ⟨needed, others⟩ := List.forall_mem_cons.mp required
    obtain ⟨accepts, each⟩ := List.forall_mem_cons.mp each
    rw [elements]
    cases next : nextItem (index = 0) c with
    | error fault => exact ensures_error
    | ok r =>
      obtain ⟨more, c₁⟩ := r
      cases more with
      | false =>
        simp only [bind, Except.bind, needed]
        exact ensures_error
      | true =>
        refine (accepts budget draft c₁).bind fun r value => ?_
        intro result done c' ends
        obtain ⟨closing, entries, behind⟩ := ih others each (index + 1) r.1 r.2 result done c' ends
        exact ⟨closing, .entry next rfl value entries, behind⟩

/-- A record is accepted only where a value is spelled, if each of its fields is. -/
lemma accepts (required : ∀ field ∈ shape.fields, field.optional = false)
    (each : ∀ field ∈ shape.fields, ∀ budget draft, Accepts (field.read budget draft))
    (budget : Nat) : Accepts (shape.read budget) := by
  intro c
  unfold read
  dsimp only
  split
  · exact ensures_error
  · next rest here =>
    cases budget with
    | zero => exact ensures_error
    | succ budget =>
      refine (membersLoop_entries (acceptsMember each budget) _ true shape.empty _).bind ?_
      intro r entries
      refine ensures_bind fun a => ensures_ok ?_
      exact @ValueAt.of_entries .object _ _ _ here entries
  · next rest here =>
    cases budget with
    | zero => exact ensures_error
    | succ budget =>
      refine (elements_entries required each 0 shape.empty _).bind fun r ends => ?_
      refine ensures_bind fun a => ends.bind ?_
      rintro c' ⟨closing, entries, rfl⟩
      exact ensures_ok (@ValueAt.of_entries .list _ _ _ here entries)
  · exact ensures_error

end Shape

/-- A text that a reader accepts is read as a value, unless a limit is met. -/
lemma document_of_accepts {read : Reader α} (accepts : Accepts (read nestingLimit)) {text : String}
    {a : α} (done : document read text = .ok a) :
    (∃ v, document value text = .ok v) ∨
    ∃ fault, document value text = .error fault ∧ fault.cause.IsLimit := by
  unfold document at done ⊢
  cases given : read nestingLimit (Cursor.start text) with
  | error fault =>
    rw [given] at done
    cases done
  | ok r =>
    have reaches := (accepts _ r given).spec.2 nestingLimit
    have nothing_left : r.2.skipBlank.rest.isEmpty := by
      simp only [given, bind, Except.bind] at done
      split at done
      · assumption
      · cases done
    cases untyped : value nestingLimit (Cursor.start text) with
    | error fault =>
      rw [untyped] at reaches
      exact .inr ⟨fault, rfl, reaches⟩
    | ok r' =>
      rw [untyped] at reaches
      obtain ⟨v, c⟩ := r'
      obtain rfl : c = r.2 := reaches
      simp only [bind, Except.bind, if_pos nothing_left]
      exact .inl ⟨v, rfl⟩

end HostBoard.Json
