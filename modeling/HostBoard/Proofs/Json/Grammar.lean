import HostBoard.Proofs.Json.Limits
import Mathlib.Data.List.DropRight

/-!
# Where values are spelled

`ValueAt` says that a value is spelled between two places of a text, with any nesting and whatever
its numbers and escapes stand for; the entries of lists and objects are told by one relation,
`EntriesAt`. Checking accepts only what is spelled (`ValueAt.of_skip`), and untyped reading reads
whatever is spelled, unless a limit is met (`ValueAt.spec`).

Checking keeps the open containers on a stack, so what it has accepted at some moment is a value and
then, container by container, the entries that close them (`Closes`). Reading calls itself for every
container, so it is followed by induction on what is spelled; its loops have steps enough, because
every entry takes at least one character.
-/

namespace HostBoard.Json

/-- Go to the next entry of a container. -/
def nextEntry : Frame → Bool → Cursor → Except Fault (Bool × Cursor)
  | .list => nextItem
  | .object => nextKey

mutual

/-- A value is spelled between two places. -/
inductive ValueAt : Cursor → Cursor → Prop where
  | scalar {c c'} :
    skipScalar c.skipBlank = .ok (some c') →
    ValueAt c c'
  | container {c c'} :
    skipScalar c.skipBlank = .ok none →
    EntriesAt (openedFrame c.skipBlank) true c.skipBlank.eat c' →
    ValueAt c c'.eat

/-- The entries of a container are spelled up to the character that closes it; the first of them has
no comma before it. -/
inductive EntriesAt : Frame → Bool → Cursor → Cursor → Prop where
  | close {frame first c c'} :
    nextEntry frame first c = .ok (false, c') →
    EntriesAt frame first c c'
  | entry {frame first c c₁ c₂ c₃ c'} :
    nextEntry frame first c = .ok (true, c₁) →
    skipKey frame c₁ = .ok c₂ →
    ValueAt c₂ c₃ →
    EntriesAt frame false c₃ c' →
    EntriesAt frame first c c'

end

/-! ## Blanks and punctuation -/

lemma skipBlank_skipBlank (c : Cursor) : c.skipBlank.skipBlank = c.skipBlank := by
  have none_taken : ∀ text : List Char,
      (text.dropWhile Cursor.isBlank).takeWhile Cursor.isBlank = [] := by
    intro text
    induction text with
    | nil => rfl
    | cons ch text ih =>
      cases blank : Cursor.isBlank ch with
      | true => rw [List.dropWhile_cons_of_pos blank, ih]
      | false => simp [blank]
  simp only [Cursor.skipBlank, Cursor.skipWhile, none_taken, List.dropWhile_idempotent,
    List.foldl_nil]

lemma ValueAt.of_skipBlank {c c' : Cursor} (value : ValueAt c c') : ValueAt c.skipBlank c' := by
  cases value with
  | scalar checked => exact .scalar (by rwa [skipBlank_skipBlank])
  | container checked entries =>
    exact .container (by rwa [skipBlank_skipBlank]) (by rwa [skipBlank_skipBlank])

/-- The next entry is at a place without blanks. -/
lemma nextEntry_spec (frame : Frame) (first : Bool) (c : Cursor) :
    Ensures (nextEntry frame first c) fun r =>
      r.2.rest.length ≤ c.rest.length ∧ r.2.skipBlank = r.2 := by
  have here : c.skipBlank.rest.length ≤ c.rest.length ∧ c.skipBlank.skipBlank = c.skipBlank :=
    ⟨skipBlank_le c, skipBlank_skipBlank c⟩
  have behind : c.skipBlank.eat.skipBlank.rest.length ≤ c.rest.length ∧
      c.skipBlank.eat.skipBlank.skipBlank = c.skipBlank.eat.skipBlank :=
    ⟨(skipBlank_le _).trans ((length_rest_eat_le _).trans (skipBlank_le c)),
      skipBlank_skipBlank _⟩
  cases frame with
  | list =>
    unfold nextEntry nextItem
    dsimp only
    split
    · exact ensures_error
    · exact ensures_ok here
    · split
      · exact ensures_ok here
      · split
        · split
          · exact ensures_error
          · exact ensures_error
          · exact ensures_ok behind
        · exact ensures_error
  | object =>
    unfold nextEntry nextKey
    dsimp only
    split
    · exact ensures_error
    · exact ensures_ok here
    · split
      · split
        · exact ensures_ok here
        · exact ensures_error
      · split
        · split
          · exact ensures_error
          · exact ensures_ok behind
          · exact ensures_error
          · exact ensures_error
        · exact ensures_error

lemma colon_le (c : Cursor) : Ensures (colon c) fun c' => c'.rest.length ≤ c.rest.length := by
  unfold colon
  dsimp only
  split
  · exact ensures_error
  · exact ensures_ok ((length_rest_eat_le _).trans (skipBlank_le c))
  · exact ensures_error

/-- A key with its colon. -/
lemma skipKey_object_iff {c c' : Cursor} : skipKey .object c = .ok c' ↔
    ∃ rest behind, c.skipBlank.rest = '"' :: rest ∧ skipString c.skipBlank.eat = .ok behind ∧
      colon behind = .ok c' := by
  unfold skipKey
  dsimp only
  constructor
  · intro checked
    split at checked
    · cases checked
    · next rest here =>
      cases text : skipString c.skipBlank.eat with
      | error fault =>
        rw [text] at checked
        cases checked
      | ok behind =>
        rw [text] at checked
        exact ⟨rest, behind, here, rfl, checked⟩
    · cases checked
  · rintro ⟨rest, behind, here, text, punctuation⟩
    simp only [here, text, bind, Except.bind, punctuation]

lemma skipKey_le (frame : Frame) (c : Cursor) :
    Ensures (skipKey frame c) fun c' => c'.rest.length ≤ c.rest.length := by
  cases frame with
  | list => exact ensures_ok (Nat.le_refl _)
  | object =>
    intro c' checked
    obtain ⟨rest, behind, -, text, punctuation⟩ := skipKey_object_iff.mp checked
    have key := skipString_le _ _ text
    have value := colon_le _ _ punctuation
    have quote := length_rest_eat_le c.skipBlank
    have blanks := skipBlank_le c
    omega

/-! ## Checking -/

/-- What the open containers ask of the text up to the end of the outermost. -/
def Closes : List Frame → Cursor → Cursor → Prop
  | [], c, c' => c = c'
  | frame :: frames, c, c' =>
    ∃ closing, EntriesAt frame false c closing ∧ Closes frames closing.eat c'

lemma nextEntry_close {frame : Frame} (first : Bool) {c : Cursor} {rest : List Char}
    (here : c.skipBlank.rest = frame.close :: rest) :
    nextEntry frame first c = .ok (false, c.skipBlank) := by
  cases frame with
  | list =>
    rw [Frame.close] at here
    simp only [nextEntry, nextItem, here]
  | object =>
    rw [Frame.close] at here
    simp only [nextEntry, nextKey, here]

lemma nextEntry_first {frame : Frame} {c c' : Cursor} {ch : Char} {rest : List Char}
    (here : c.skipBlank.rest = ch :: rest) (other : ch ≠ frame.close)
    (key : skipKey frame c.skipBlank = .ok c') :
    nextEntry frame true c = .ok (true, c.skipBlank) := by
  cases frame with
  | list => exact nextItem_true here other
  | object =>
    obtain ⟨rest, _, quote, -⟩ := skipKey_object_iff.mp key
    rw [skipBlank_skipBlank] at quote
    exact nextKey_true quote

/-- No value starts at the end of a list. -/
lemma ValueAt.start {c c' : Cursor} (value : ValueAt c c') :
    ∃ ch rest, c.skipBlank.rest = ch :: rest ∧ ch ≠ ']' := by
  have checked : ∃ found, skipScalar c.skipBlank = .ok found := by
    cases value with
    | scalar checked => exact ⟨_, checked⟩
    | container checked => exact ⟨_, checked⟩
  obtain ⟨found, checked⟩ := checked
  cases here : c.skipBlank.rest with
  | nil =>
    simp only [skipScalar, here] at checked
    cases checked
  | cons ch rest =>
    refine ⟨ch, rest, rfl, ?_⟩
    rintro rfl
    simp [skipScalar, here] at checked

lemma nextEntry_comma {frame : Frame} {c c₂ c₃ : Cursor} {rest : List Char}
    (here : c.skipBlank.rest = ',' :: rest) (key : skipKey frame c.skipBlank.eat = .ok c₂)
    (value : ValueAt c₂ c₃) :
    ∃ c₁ c₂, nextEntry frame false c = .ok (true, c₁) ∧ skipKey frame c₁ = .ok c₂ ∧
      ValueAt c₂ c₃ := by
  cases frame with
  | list =>
    obtain rfl : c.skipBlank.eat = c₂ := Except.ok.inj key
    obtain ⟨ch, tail, start, other⟩ := value.start
    exact ⟨_, _, nextItem_false here start other, rfl, value.of_skipBlank⟩
  | object =>
    obtain ⟨tail, behind, quote, text, punctuation⟩ := skipKey_object_iff.mp key
    refine ⟨_, c₂, nextKey_false here quote, ?_, value⟩
    refine skipKey_object_iff.mpr ⟨tail, behind, ?_, ?_, punctuation⟩ <;>
      rwa [skipBlank_skipBlank]

/-- Checking with so many steps accepts only a value, and then what closes the open containers. -/
structure ClosesWithin (fuel : Nat) : Prop where
  nested {frames c c'} : skipNested fuel frames c = .ok c' →
    ∃ behind, ValueAt c behind ∧ Closes frames behind c'
  following {frames c c'} : skipFollowing fuel frames c = .ok c' → Closes frames c c'

lemma ClosesWithin.nested_succ {fuel : Nat} (before : ClosesWithin fuel) {frames : List Frame}
    {c c' : Cursor} (checked : skipNested (fuel + 1) frames c = .ok c') :
    ∃ behind, ValueAt c behind ∧ Closes frames behind c' := by
  rw [skipNested] at checked
  dsimp only at checked
  cases found : skipScalar c.skipBlank with
  | error fault =>
    rw [found] at checked
    cases checked
  | ok scalar =>
    rw [found] at checked
    cases scalar with
    | some behind => exact ⟨behind, .scalar found, before.following checked⟩
    | none =>
      simp only [bind, Except.bind] at checked
      split at checked
      · cases checked
      · next ch rest here =>
        split at checked
        · next closes =>
          rw [closes] at here
          exact ⟨_, .container found (.close (nextEntry_close true here)),
            before.following checked⟩
        · next other =>
          split at checked
          · cases checked
          · next c₂ key =>
            obtain ⟨c₃, value, closing, entries, closed⟩ := before.nested checked
            have next := nextEntry_first here other key
            exact ⟨_, .container found (.entry next key value entries), closed⟩

lemma ClosesWithin.following_succ {fuel : Nat} (before : ClosesWithin fuel) {frames : List Frame}
    {c c' : Cursor} (checked : skipFollowing (fuel + 1) frames c = .ok c') :
    Closes frames c c' := by
  cases frames with
  | nil => exact Except.ok.inj checked
  | cons frame frames =>
    rw [skipFollowing] at checked
    simp only [bind, Except.bind] at checked
    split at checked
    · cases checked
    · next ch rest here =>
      split at checked
      · next comma =>
        rw [comma] at here
        split at checked
        · cases checked
        · next c₂ key =>
          -- Reading takes the blanks behind the comma before it looks for the entry.
          obtain ⟨c₃, value, closing, entries, closed⟩ := before.nested checked
          obtain ⟨c₁, c₂, next, key, value⟩ := nextEntry_comma here key value
          exact ⟨closing, .entry next key value entries, closed⟩
      · split at checked
        · next closes =>
          rw [closes] at here
          exact ⟨_, .close (nextEntry_close false here), before.following checked⟩
        · cases checked

lemma closesWithin (fuel : Nat) : ClosesWithin fuel := by
  induction fuel with
  | zero =>
    refine ⟨nofun, ?_⟩
    intro frames c c' checked
    cases frames with
    | nil => exact Except.ok.inj checked
    | cons frame frames => cases checked
  | succ fuel ih => exact ⟨ih.nested_succ, ih.following_succ⟩

/-- What is skipped is a value. -/
lemma ValueAt.of_skip {c c' : Cursor} (checked : skip c = .ok c') : ValueAt c c' := by
  obtain ⟨behind, value, rfl⟩ := (closesWithin _).nested checked
  exact value

/-! ## Untyped reading -/

/-- The loop over entries comes to the end of its container, unless a limit is met. -/
def Follows (budget : Nat) : Frame → Bool → Cursor → Cursor → Prop
  | .list, first, c, c' => ∀ fuel read, c.rest.length < fuel → read.isEmpty = first →
    Reaches (itemsLoop (value budget) fuel read c) c'.eat
  | .object, first, c, c' => ∀ fuel read, c.rest.length < fuel →
    Reaches (membersLoop (keep (value budget)) fuel first read c) c'

lemma follows_close {frame : Frame} {first : Bool} {c c' : Cursor} {budget : Nat}
    (next : nextEntry frame first c = .ok (false, c')) : Follows budget frame first c c' := by
  cases frame with
  | list =>
    rintro fuel read enough rfl
    obtain ⟨fuel, rfl⟩ := Nat.exists_eq_succ_of_ne_zero (Nat.ne_zero_of_lt enough)
    have next : nextItem read.isEmpty c = .ok (false, c') := next
    rw [itemsLoop, next]
    exact rfl
  | object =>
    intro fuel read enough
    obtain ⟨fuel, rfl⟩ := Nat.exists_eq_succ_of_ne_zero (Nat.ne_zero_of_lt enough)
    have next : nextKey first c = .ok (false, c') := next
    rw [membersLoop, next]
    exact rfl

lemma follows_entry {frame : Frame} {first : Bool} {c c₁ c₂ c₃ c' : Cursor} {budget : Nat}
    (next : nextEntry frame first c = .ok (true, c₁)) (key : skipKey frame c₁ = .ok c₂)
    (shorter : c₃.rest.length < c.rest.length) (reads : Reaches (value budget c₂) c₃)
    (others : Follows budget frame false c₃ c') : Follows budget frame first c c' := by
  cases frame with
  | list =>
    rintro fuel read enough rfl
    obtain ⟨fuel, rfl⟩ := Nat.exists_eq_succ_of_ne_zero (Nat.ne_zero_of_lt enough)
    have next : nextItem read.isEmpty c = .ok (true, c₁) := next
    obtain rfl : c₁ = c₂ := Except.ok.inj key
    rw [itemsLoop, next]
    exact reads.bind fun v => others fuel (v :: read) (by omega) rfl
  | object =>
    intro fuel read enough
    obtain ⟨fuel, rfl⟩ := Nat.exists_eq_succ_of_ne_zero (Nat.ne_zero_of_lt enough)
    obtain ⟨rest, behind, -, text, punctuation⟩ := skipKey_object_iff.mp key
    rw [(nextEntry_spec .object first c _ next).2] at text
    have next : nextKey first c = .ok (true, c₁) := next
    have string := stringBody_agrees [] c₁.eat
    rw [text] at string
    have kept : ∀ key, Reaches (keep (value budget) read key behind) c₃ := by
      intro key
      rw [keep, punctuation]
      exact reads.bind fun v => rfl
    have round : membersLoop (keep (value budget)) (fuel + 1) first read c =
        stringBody [] c₁.eat >>= fun r => keep (value budget) read r.1 r.2 >>= fun r =>
          membersLoop (keep (value budget)) fuel false r.1 r.2 := by
      rw [membersLoop, next]
      rfl
    rw [round]
    exact Reaches.bind string fun key => (kept key).bind fun read => others fuel read (by omega)

lemma value_scalar {budget : Nat} {c : Cursor} {outcome : Except Fault (Json × Cursor)}
    (found : scalar? c.skipBlank = some outcome) : value budget c = outcome := by
  cases budget <;> simp only [value, found]

/-- A container is read entry by entry, unless none may be opened. -/
lemma value_container {c c' : Cursor} (checked : skipScalar c.skipBlank = .ok none)
    (follows : ∀ budget, Follows budget (openedFrame c.skipBlank) true c.skipBlank.eat c')
    (budget : Nat) : Reaches (value budget c) c'.eat := by
  obtain ⟨container, rest, here⟩ := skipScalar_none checked
  cases budget with
  | zero =>
    -- Nothing may be opened, and that is a limit.
    cases frame : openedFrame c.skipBlank <;> rw [frame] at here <;>
      simp only [value, container, here, Frame.opening] <;> trivial
  | succ budget =>
    have entries := follows budget
    cases frame : openedFrame c.skipBlank with
    | list =>
      rw [frame] at here entries
      simp only [value, container, here, Frame.opening]
      exact (entries _ [] (Nat.lt_succ_self _) rfl).bind fun vs => rfl
    | object =>
      rw [frame] at here entries
      simp only [value, container, here, Frame.opening]
      exact (entries _ [] (Nat.lt_succ_self _)).bind fun ms => rfl

/-- A value that is spelled is read, unless a limit is met. -/
lemma ValueAt.spec {c c' : Cursor} (value : ValueAt c c') :
    c'.rest.length < c.rest.length ∧ ∀ budget, Reaches (Json.value budget c) c' := by
  -- One case for each way in which values and entries are spelled. Lengths go along, since they
  -- bound the steps of the loops.
  refine @ValueAt.rec
    (fun c c' _ => c'.rest.length < c.rest.length ∧ ∀ budget, Reaches (Json.value budget c) c')
    (fun frame first c c' _ => c'.rest.length ≤ c.rest.length ∧
      ∀ budget, Follows budget frame first c c') ?_ ?_ ?_ ?_ c c' value
  · intro c c' checked
    refine ⟨(skipScalar_lt checked).trans_le (skipBlank_le c), ?_⟩
    intro budget
    obtain ⟨outcome, found, reaches⟩ := scalar?_reaches checked
    rw [value_scalar found]
    exact reaches
  · intro c c' checked _ ⟨shorter, follows⟩
    obtain ⟨-, rest, here⟩ := skipScalar_none checked
    have opening := eat_lt here
    have blanks := skipBlank_le c
    have closing := length_rest_eat_le c'
    exact ⟨by omega, value_container checked follows⟩
  · intro frame first c c' next
    exact ⟨(nextEntry_spec frame first c _ next).1, fun _ => follows_close next⟩
  · intro frame first c c₁ c₂ c₃ c' next key _ _ ⟨shorter, reads⟩ ⟨shorter', follows⟩
    have start : c₁.rest.length ≤ c.rest.length := (nextEntry_spec frame first c _ next).1
    have behind : c₂.rest.length ≤ c₁.rest.length := skipKey_le frame c₁ _ key
    refine ⟨by omega, ?_⟩
    intro budget
    exact follows_entry next key (by omega) (reads budget) (follows budget)

end HostBoard.Json
