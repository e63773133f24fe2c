import HostBoard.Proofs.Json.Skipping
import HostBoard.Proofs.Json.Soundness

/-!
# Limits of reading

Reading keeps a value and checking does not, so reading meets limits that checking knows nothing of:
numbers can be too large, surrogates can lack their other half, and containers can be nested too
deeply. These are the only differences. Reading a string or a numeral comes as far as checking it
does, unless a limit was met (`Agrees`, `stringBody_agrees`, `numeral_agrees`), and so it is with
every value that is no container (`scalar?_reaches`).

Strings take care: reading takes both halves of a surrogate pair at once and checking takes them one
by one. So the induction follows reading, and `Continues` says that an escape that was read leaves
as much to be checked as an escape that was checked.
-/

namespace HostBoard

/-- The cause is a limit on the values that are kept, and no fault of spelling. -/
def Cause.IsLimit : Cause → Prop
  | .numberTooLarge | .loneSurrogate | .halfSurrogatePair | .tooDeep => True
  | _ => False

namespace Json

variable {α β : Type}

/-- The outcome is a value and the given cursor behind it, unless a limit was met. -/
def Reaches (outcome : Except Fault (α × Cursor)) (behind : Cursor) : Prop :=
  match outcome with
  | .ok (_, c) => c = behind
  | .error fault => fault.cause.IsLimit

lemma Reaches.bind {outcome : Except Fault (α × Cursor)}
    {next : α × Cursor → Except Fault (β × Cursor)} {c behind : Cursor} (first : Reaches outcome c)
    (second : ∀ a, Reaches (next (a, c)) behind) : Reaches (outcome >>= next) behind := by
  cases outcome with
  | ok r =>
    obtain ⟨a, c'⟩ := r
    obtain rfl : c' = c := first
    exact second a
  | error fault => exact first

/-- Reading ends where checking ends, unless a limit was met, and fails where checking fails. -/
def Agrees (outcome : Except Fault (α × Cursor)) : Except Fault Cursor → Prop
  | .ok behind => Reaches outcome behind
  | .error _ => ∃ fault, outcome = .error fault

lemma agrees_of_isLimit {fault : Fault} {checked : Except Fault Cursor}
    (limit : fault.cause.IsLimit) : Agrees (.error fault : Except Fault (α × Cursor)) checked := by
  cases checked with
  | ok behind => exact limit
  | error _ => exact ⟨fault, rfl⟩

/-! ## Strings -/

/-- What was read leaves the rest of a string to be checked as from the given cursor, unless a limit
was met or the rest is misspelled. -/
def Continues (outcome : Except Fault (α × Cursor)) (c : Cursor) : Prop :=
  match outcome with
  | .ok (_, behind) => skipString behind = skipString c
  | .error fault => fault.cause.IsLimit ∨ ∃ misspelled, skipString c = .error misspelled

lemma skipString_end {c : Cursor} (here : c.rest = []) : ∃ fault, skipString c = .error fault := by
  rw [skipString]
  split
  · exact ⟨_, rfl⟩
  · next e => simp [here] at e

lemma skipString_bad_escape {c : Cursor} {rest : List Char} {fault : Fault}
    (here : c.rest = '\\' :: rest) (bad : skipEscape c.eat = .error fault) :
    skipString c = .error fault := by
  rw [skipString]
  split
  · next e => simp [here] at e
  · next ch tail e =>
    rw [here] at e
    cases e
    rw [if_neg (by decide), if_pos rfl]
    split
    · next e =>
      rw [bad] at e
      cases e
      rfl
    · next e => simp [bad] at e

/-- The second half of a pair is an escape like any other. -/
lemma secondHalf_continues (c : Cursor) : Continues (secondHalf c) c := by
  unfold secondHalf
  split
  · next here => exact .inr (skipString_end here)
  · next rest here =>
    split
    · next behind =>
      have bad : skipEscape c.eat = .error (c.eat.fault .endInString) := by
        simp only [skipEscape, behind]
      exact .inr ⟨_, skipString_bad_escape here bad⟩
    · next digits behind =>
      have short : shortEscape? 'u' = none := rfl
      have escaped : skipEscape c.eat = Prod.snd <$> hex4 c.eat.eat := by
        simp only [skipEscape, behind, short, if_true]
      cases read : hex4 c.eat.eat with
      | ok r =>
        rw [read] at escaped
        exact (skipString_escape here escaped).symm
      | error fault =>
        rw [read] at escaped
        exact .inr ⟨_, skipString_bad_escape here escaped⟩
    · exact .inl trivial
  · exact .inl trivial

lemma hexChar_continues {c behind : Cursor} {n : Nat} (digits : hex4 c = .ok (n, behind)) :
    Continues (hexChar c) behind := by
  simp only [hexChar, digits, bind, Except.bind]
  split
  · exact .inl trivial
  · split
    · exact rfl
    · have half := secondHalf_continues behind
      cases second : secondHalf behind with
      | error fault =>
        rw [second] at half
        exact half
      | ok r =>
        rw [second] at half
        dsimp only
        split
        · exact .inl trivial
        · exact half

/-- An escape that is spelled correctly is read, unless it is half of a pair. -/
lemma escape_agrees (c : Cursor) :
    (∃ behind, skipEscape c = .ok behind ∧ Continues (escape c) behind) ∨
    (∃ fault fault', skipEscape c = .error fault ∧ escape c = .error fault') := by
  unfold skipEscape escape
  split
  · exact .inr ⟨_, _, rfl, rfl⟩
  · split
    · exact .inl ⟨_, rfl, rfl⟩
    · split
      · cases digits : hex4 c.eat with
        | ok r => exact .inl ⟨r.2, rfl, hexChar_continues digits⟩
        | error fault =>
          refine .inr ⟨fault, fault, rfl, ?_⟩
          simp only [hexChar, digits, bind, Except.bind]
      · exact .inr ⟨_, _, rfl, rfl⟩

lemma skipString_control {c : Cursor} {ch : Char} {rest : List Char} (here : c.rest = ch :: rest)
    (quote : ch ≠ '"') (backslash : ch ≠ '\\') (small : ch.toNat < 0x20) :
    skipString c = .error (c.fault .controlCharacter) := by
  rw [skipString]
  split
  · next e => simp [here] at e
  · next first tail e =>
    rw [here] at e
    cases e
    rw [if_neg quote, if_neg backslash, if_pos small]

/-- A string is read where it is spelled correctly, unless it has half a surrogate pair. -/
lemma stringBody_agrees (read : List Char) (c : Cursor) :
    Agrees (stringBody read c) (skipString c) := by
  -- The induction follows reading, which takes both halves of a pair in one step.
  fun_induction stringBody read c with
  | case1 read c here =>
    obtain ⟨fault, misspelled⟩ := skipString_end here
    rw [misspelled]
    exact ⟨_, rfl⟩
  | case2 read c rest here =>
    rw [skipString_quote here]
    exact rfl
  | case3 read c rest fault escaped here =>
    rcases escape_agrees c.eat with ⟨behind, checked, continues⟩ | ⟨fault', -, checked, -⟩
    · rw [escaped] at continues
      rw [skipString_escape here checked]
      rcases continues with limit | ⟨fault', misspelled⟩
      · exact agrees_of_isLimit limit
      · rw [misspelled]
        exact ⟨fault, rfl⟩
    · rw [skipString_bad_escape here checked]
      exact ⟨fault, rfl⟩
  | case4 read c rest out c' escaped here _ ih =>
    rcases escape_agrees c.eat with ⟨behind, checked, continues⟩ | ⟨_, _, -, failed⟩
    · rw [escaped] at continues
      rw [skipString_escape here checked, ← continues]
      exact ih
    · rw [escaped] at failed
      cases failed
  | case5 read c ch rest here quote backslash small =>
    rw [skipString_control here quote backslash small]
    exact ⟨_, rfl⟩
  | case6 read c ch rest here quote backslash large ih =>
    rw [skipString_plain here quote backslash large]
    exact ih

/-! ## Numerals -/

/-- Both fail, or both end at the same place. -/
def SameEnd (one : Except Fault (α × Cursor)) (other : Except Fault (β × Cursor)) : Prop :=
  match one, other with
  | .ok (_, c), .ok (_, c') => c = c'
  | .error _, .error _ => True
  | _, _ => False

lemma SameEnd.bind {γ δ : Type} {one : Except Fault (α × Cursor)}
    {other : Except Fault (β × Cursor)} {next : α × Cursor → Except Fault (γ × Cursor)}
    {next' : β × Cursor → Except Fault (δ × Cursor)} (first : SameEnd one other)
    (second : ∀ a b c, SameEnd (next (a, c)) (next' (b, c))) :
    SameEnd (one >>= next) (other >>= next') := by
  rcases one with fault | ⟨a, c⟩ <;> rcases other with fault' | ⟨b, c'⟩
  · trivial
  · exact first.elim
  · exact first.elim
  · obtain rfl : c = c' := first
    exact second a b c

/-- The spelling of a numeral is a matter neither of its sign nor of the fault at an early end. -/
lemma scan_sameEnd (atEnd atEnd' : Cause) (negative negative' : Bool) (c : Cursor) :
    SameEnd (Numeral.scan atEnd negative c) (Numeral.scan atEnd' negative' c) := by
  have whole : ∀ c, SameEnd (scanWhole atEnd c) (scanWhole atEnd' c) := by
    intro c
    unfold scanWhole
    split
    · trivial
    · split <;> trivial
    · split <;> trivial
  have fraction : ∀ c, SameEnd (scanFraction atEnd c) (scanFraction atEnd' c) := by
    intro c
    unfold scanFraction
    split
    · split <;> trivial
    · trivial
  have exponent : ∀ c, SameEnd (scanExponent atEnd c) (scanExponent atEnd' c) := by
    intro c
    unfold scanExponent
    split
    · split
      split <;> trivial
    · trivial
  refine (whole c).bind fun _ _ c => (fraction c).bind fun _ _ c => (exponent c).bind ?_
  exact fun _ _ _ => rfl

/-- The only fault of a value is that it is too large. -/
lemma numeral_value_isLimit {n : Numeral} {c : Cursor} {fault : Fault}
    (failed : n.value c = .error fault) : fault.cause.IsLimit := by
  have finish : ∀ {x : Option Binary64}, Numeral.value.finish n c x = .error fault →
      fault.cause.IsLimit := by
    intro x failed
    cases x with
    | some x => cases failed
    | none =>
      cases failed
      trivial
  unfold Numeral.value at failed
  split at failed
  split at failed
  · split at failed
    · cases failed
    · exact finish failed
  · exact finish failed
  · split at failed
    · exact finish failed
    · split at failed
      · cases failed
        trivial
      · cases failed

/-- A numeral is read where it is spelled correctly, unless its value is too large. -/
lemma numeral_agrees (negative : Bool) (c : Cursor) :
    Agrees (Numeral.read negative c) (Numeral.skip c) := by
  have same := scan_sameEnd .endInValue .badNumber negative false c
  unfold Numeral.read Numeral.skip
  generalize Numeral.scan .endInValue negative c = one at same ⊢
  generalize Numeral.scan .badNumber false c = other at same ⊢
  rcases one with fault | ⟨n, c₁⟩ <;> rcases other with fault' | ⟨n', c₂⟩
  · exact ⟨fault, rfl⟩
  · exact same.elim
  · exact same.elim
  · obtain rfl : c₁ = c₂ := same
    show Reaches (n.value c₁ >>= fun v => .ok (v, c₁)) c₁
    cases valued : n.value c₁ with
    | ok v => exact rfl
    | error fault => exact numeral_value_isLimit valued

/-! ## Scalars -/

lemma eq_ok_of_map_some {checked : Except Fault Cursor} {behind : Cursor}
    (done : some <$> checked = .ok (some behind)) : checked = .ok behind := by
  cases checked with
  | ok c =>
    cases done
    rfl
  | error fault => cases done

/-- A value that is no container is read where it is spelled correctly, unless a limit is met. -/
lemma scalar?_reaches {c behind : Cursor} (checked : skipScalar c = .ok (some behind)) :
    ∃ outcome, scalar? c = some outcome ∧ Reaches outcome behind := by
  have numeral : ∀ {negative : Bool} {c : Cursor}, some <$> Numeral.skip c = .ok (some behind) →
      Reaches (Numeral.read negative c >>= fun r => .ok (Json.number r.1, r.2)) behind := by
    intro negative c done
    have agrees := numeral_agrees negative c
    rw [eq_ok_of_map_some done] at agrees
    exact Reaches.bind agrees fun _ => rfl
  have literal : ∀ {v : Json} {letters : List Char} {c : Cursor},
      some <$> word letters c = .ok (some behind) →
      Reaches (do return (v, ← word letters c)) behind := by
    intro v letters c done
    rw [eq_ok_of_map_some done]
    exact rfl
  unfold skipScalar at checked
  split at checked
  · cases checked
  · next here =>
    simp only [scalar?, here]
    exact ⟨_, rfl, literal checked⟩
  · next here =>
    simp only [scalar?, here]
    exact ⟨_, rfl, literal checked⟩
  · next here =>
    simp only [scalar?, here]
    exact ⟨_, rfl, literal checked⟩
  · next here =>
    simp only [scalar?, here]
    exact ⟨_, rfl, numeral checked⟩
  · next here =>
    have agrees := stringBody_agrees [] c.eat
    rw [eq_ok_of_map_some checked] at agrees
    simp only [scalar?, here]
    exact ⟨_, rfl, Reaches.bind agrees fun _ => rfl⟩
  · cases checked
  · cases checked
  · next ch rest _ _ _ _ _ _ _ here =>
    split at checked
    · next digit =>
      simp only [scalar?, here, digit]
      exact ⟨_, rfl, numeral checked⟩
    · cases checked

/-- Where checking finds a container, reading does too. -/
lemma skipScalar_none {c : Cursor} (checked : skipScalar c = .ok none) :
    scalar? c = none ∧ ∃ rest, c.rest = (openedFrame c).opening :: rest := by
  have some_only : ∀ {done : Except Fault Cursor}, some <$> done ≠ .ok none := by
    intro done e
    cases done <;> cases e
  unfold skipScalar at checked
  split at checked
  · cases checked
  · exact absurd checked some_only
  · exact absurd checked some_only
  · exact absurd checked some_only
  · exact absurd checked some_only
  · exact absurd checked some_only
  · next rest here =>
    exact ⟨by simp [scalar?, here], rest, by simp [openedFrame, here, Frame.opening]⟩
  · next rest here =>
    exact ⟨by simp [scalar?, here], rest, by simp [openedFrame, here, Frame.opening]⟩
  · split at checked
    · exact absurd checked some_only
    · cases checked

lemma skipString_of_stringBody {read : List Char} {c behind : Cursor} {s : String}
    (done : stringBody read c = .ok (s, behind)) : skipString c = .ok behind := by
  have agrees := stringBody_agrees read c
  rw [done] at agrees
  cases checked : skipString c with
  | ok c' =>
    rw [checked] at agrees
    obtain rfl : behind = c' := agrees
    rfl
  | error fault =>
    rw [checked] at agrees
    obtain ⟨fault', e⟩ := agrees
    cases e

/-! ## What checking takes -/

lemma skipBlank_le (c : Cursor) : c.skipBlank.rest.length ≤ c.rest.length :=
  List.length_dropWhile_le _ _

lemma eat_lt {c : Cursor} {ch : Char} {rest : List Char} (here : c.rest = ch :: rest) :
    c.eat.rest.length < c.rest.length := by
  rw [Cursor.rest_eat, here]
  exact Nat.lt_succ_self _

lemma word_le (letters : List Char) (c : Cursor) :
    Ensures (word letters c) fun behind => behind.rest.length ≤ c.rest.length := by
  induction letters generalizing c with
  | nil => exact ensures_ok (Nat.le_refl _)
  | cons letter letters ih =>
    rw [word]
    split
    · exact ensures_error
    · split
      · intro behind done
        exact (ih c.eat behind done).trans (length_rest_eat_le c)
      · exact ensures_error

lemma skipString_le (c : Cursor) :
    Ensures (skipString c) fun behind => behind.rest.length ≤ c.rest.length := by
  fun_induction skipString c with
  | case1 => exact ensures_error
  | case2 c => exact ensures_ok (length_rest_eat_le c)
  | case3 => exact ensures_error
  | case4 c rest c' escaped here _ ih =>
    intro behind done
    exact (ih behind done).trans ((skipEscape_lt escaped).le.trans (length_rest_eat_le c))
  | case5 => exact ensures_error
  | case6 c ch rest here _ _ _ ih =>
    intro behind done
    exact (ih behind done).trans (length_rest_eat_le c)

/-- A numeral has at least one digit. -/
lemma scanWhole_lt (atEnd : Cause) (c : Cursor) :
    Ensures (scanWhole atEnd c) fun r => r.2.rest.length < c.rest.length := by
  unfold scanWhole
  split
  · exact ensures_error
  · next here =>
    split
    · exact ensures_error
    · exact ensures_ok (eat_lt here)
  · next d rest _ here =>
    split
    · next digit =>
      refine ensures_ok ?_
      rw [digitRun, Cursor.rest_skipWhile, here, List.dropWhile_cons_of_pos digit]
      exact Nat.lt_succ_of_le (List.length_dropWhile_le _ _)
    · exact ensures_error

lemma scanFraction_le (atEnd : Cause) (c : Cursor) :
    Ensures (scanFraction atEnd c) fun r => r.2.rest.length ≤ c.rest.length := by
  have run : (digitRun c.eat).2.rest.length ≤ c.rest.length :=
    (List.length_dropWhile_le _ _).trans (length_rest_eat_le c)
  unfold scanFraction
  split
  · split
    · exact ensures_error
    · next digits c' _ scanned =>
      rw [scanned] at run
      exact ensures_ok run
  · exact ensures_ok (Nat.le_refl _)

lemma scanExponent_le (atEnd : Cause) (c : Cursor) :
    Ensures (scanExponent atEnd c) fun r => r.2.rest.length ≤ c.rest.length := by
  have sign : ∀ c, (scanSign c).2.rest.length ≤ c.rest.length := by
    intro c
    unfold scanSign
    split
    · exact length_rest_eat_le c
    · exact length_rest_eat_le c
    · exact Nat.le_refl _
  have run : (digitRun (scanSign c.eat).2).2.rest.length ≤ c.rest.length :=
    (List.length_dropWhile_le _ _).trans ((sign c.eat).trans (length_rest_eat_le c))
  unfold scanExponent
  split
  · dsimp only
    split
    · exact ensures_error
    · next digits c' _ scanned =>
      rw [scanned] at run
      exact ensures_ok run
  · exact ensures_ok (Nat.le_refl _)

lemma numeral_skip_lt (c : Cursor) :
    Ensures (Numeral.skip c) fun behind => behind.rest.length < c.rest.length := by
  have scanned : Ensures (Numeral.scan .badNumber false c) fun r =>
      r.2.rest.length < c.rest.length :=
    (scanWhole_lt _ c).bind fun _ whole => (scanFraction_le _ _).bind fun _ fraction =>
      (scanExponent_le _ _).bind fun _ exponent =>
        ensures_ok (exponent.trans_lt (fraction.trans_lt whole))
  exact scanned.bind fun _ shorter => ensures_ok shorter

/-- A value that is no container has at least one character. -/
lemma skipScalar_lt {c behind : Cursor} (checked : skipScalar c = .ok (some behind)) :
    behind.rest.length < c.rest.length := by
  unfold skipScalar at checked
  split at checked
  · cases checked
  · next here => exact (word_le _ _ _ (eq_ok_of_map_some checked)).trans_lt (eat_lt here)
  · next here => exact (word_le _ _ _ (eq_ok_of_map_some checked)).trans_lt (eat_lt here)
  · next here => exact (word_le _ _ _ (eq_ok_of_map_some checked)).trans_lt (eat_lt here)
  · next here => exact (numeral_skip_lt _ _ (eq_ok_of_map_some checked)).trans (eat_lt here)
  · next here => exact (skipString_le _ _ (eq_ok_of_map_some checked)).trans_lt (eat_lt here)
  · cases checked
  · cases checked
  · split at checked
    · exact numeral_skip_lt _ _ (eq_ok_of_map_some checked)
    · cases checked

end Json

end HostBoard
