import HostBoard.Proofs.Json.Reading

/-!
# Skipping values

Skipping accepts every value where it is spelled, however deeply it is nested, and leaves the cursor
behind it (`skip_spread`). The containers that are open are kept on a stack, so a value does not end
with a result but goes on with what follows it inside the innermost container: `Skips` says that
checking a value leads to checking what follows, with enough steps left.

Steps are enough as long as they are more than the characters that are left, which every step keeps
true because it takes at least one character. Lists and objects are one argument: an entry of a
container is a value, behind its key in an object and alone in a list.
-/

namespace HostBoard.Json

variable {c : Cursor} {more : List Token}

/-- Checking the value leads to checking what follows it, with enough steps left. -/
def Skips (v : Json) : Prop :=
  ∀ frames fuel c more, Closing more → Before (v.tokens ++ more) c → c.rest.length < fuel →
    ∃ fuel' c', skipNested fuel frames c = skipFollowing fuel' frames c' ∧ Before more c' ∧
      c'.rest.length < fuel'

lemma skips_scalar {v : Json} (scalar : v.IsScalar) (whole : v.NoDouble) : Skips v := by
  intro frames fuel c more closing spread enough
  obtain ⟨fuel, rfl⟩ := Nat.exists_eq_succ_of_ne_zero (Nat.ne_zero_of_lt enough)
  obtain ⟨rest, here, spread, shorter⟩ := skipBlank_scalar scalar whole spread
  obtain ⟨c', skipped, left⟩ := skipScalar_chars scalar whole (spread.numeralEnds closing) here
  rw [← left] at spread shorter
  refine ⟨fuel, c', ?_, spread, by omega⟩
  simp only [skipNested, skipped, bind, Except.bind]

/-! ## Entries of a container -/

/-- The tokens of an entry. -/
def entryTokens : Frame → String × Json → List Token
  | .list, m => m.2.tokens
  | .object, m => stringChars m.1 :: [':'] :: m.2.tokens

/-- The tokens of the entries behind the first, and of the end of the container. -/
def moreEntriesTokens (frame : Frame) : List (String × Json) → List Token
  | [] => [[frame.close]]
  | m :: ms => [','] :: (entryTokens frame m ++ moreEntriesTokens frame ms)

lemma moreEntriesTokens_object (ms : List (String × Json)) :
    moreEntriesTokens .object ms = moreMembersTokens ms := by
  induction ms with
  | nil => rfl
  | cons m ms ih => rw [moreEntriesTokens, ih]; rfl

lemma moreEntriesTokens_list (vs : List Json) :
    moreEntriesTokens .list (vs.map (Prod.mk "")) = moreItemsTokens vs := by
  induction vs with
  | nil => rfl
  | cons v vs ih => rw [List.map_cons, moreEntriesTokens, ih]; rfl

lemma closing_moreEntriesTokens (frame : Frame) (ms : List (String × Json)) :
    Closing (moreEntriesTokens frame ms ++ more) := by
  cases ms with
  | nil =>
    cases frame with
    | list => exact .inr (.inl rfl)
    | object => exact .inr (.inr rfl)
  | cons m ms => exact .inl rfl

lemma skipKey_entry (frame : Frame) (m : String × Json)
    (spread : Spread (entryTokens frame m ++ more) c.rest) :
    ∃ c', skipKey frame c = .ok c' ∧ Before (m.2.tokens ++ more) c' ∧
      c'.rest.length ≤ c.rest.length := by
  cases frame with
  | list => exact ⟨c, rfl, spread, Nat.le_refl _⟩
  | object =>
    obtain ⟨rest, here, spread, shorter⟩ := Spread.skipBlank spread rfl
    have quoted : c.skipBlank.rest = stringChars m.1 ++ rest := here
    obtain ⟨c₁, skipped, left⟩ := skipString_stringChars m.1 quoted
    rw [← left] at spread shorter
    obtain ⟨c₂, punctuation, spread, shorter'⟩ := colon_spread spread
    refine ⟨c₂, ?_, spread, by omega⟩
    simp only [skipKey, here, skipped, bind, Except.bind, punctuation]

/-- Entry after entry is checked, up to the end of the container. -/
lemma skipFollowing_entries (frame : Frame) {ms : List (String × Json)}
    (each : ∀ m ∈ ms, Skips m.2) {frames : List Frame} {fuel : Nat}
    (spread : Spread (moreEntriesTokens frame ms ++ more) c.rest) (enough : c.rest.length < fuel) :
    ∃ fuel' c', skipFollowing fuel (frame :: frames) c = skipFollowing fuel' frames c' ∧
      Before more c' ∧ c'.rest.length < fuel' := by
  induction ms generalizing fuel c with
  | nil =>
    obtain ⟨fuel, rfl⟩ := Nat.exists_eq_succ_of_ne_zero (Nat.ne_zero_of_lt enough)
    have solid : Cursor.isBlank frame.close = false := by cases frame <;> rfl
    have no_comma : frame.close ≠ ',' := by cases frame <;> decide
    obtain ⟨rest, here, spread, shorter⟩ := Spread.skipBlank_single spread solid
    refine ⟨fuel, c.skipBlank.eat, ?_, spread, by omega⟩
    simp only [skipFollowing, here, if_neg no_comma, if_true]
  | cons m ms ih =>
    obtain ⟨fuel, rfl⟩ := Nat.exists_eq_succ_of_ne_zero (Nat.ne_zero_of_lt enough)
    obtain ⟨skips, others⟩ := List.forall_mem_cons.mp each
    rw [moreEntriesTokens, List.cons_append, List.append_assoc] at spread
    obtain ⟨rest, here, spread, shorter⟩ := Spread.skipBlank_single spread rfl
    obtain ⟨c₁, key, spread, shorter₁⟩ := skipKey_entry frame m spread
    -- The comma was taken, so one step less still covers what is left.
    obtain ⟨fuel₂, c₂, value, spread, enough₂⟩ :=
      skips (frame :: frames) fuel c₁ _ (closing_moreEntriesTokens frame ms) spread (by omega)
    obtain ⟨fuel₃, c₃, end_, spread, enough₃⟩ := ih others spread enough₂
    refine ⟨fuel₃, c₃, ?_, spread, enough₃⟩
    simp only [skipFollowing, here, if_true, key, bind, Except.bind]
    exact value.trans end_

/-- The tokens of the entries of a container and of its end. -/
def entriesTokens (frame : Frame) : List (String × Json) → List Token
  | [] => [[frame.close]]
  | m :: ms => entryTokens frame m ++ moreEntriesTokens frame ms

/-- The character that opens a container. -/
def Frame.opening : Frame → Char
  | .list => '['
  | .object => '\x7b'

/-- An entry does not start like the end of its container. -/
lemma skipBlank_entry (frame : Frame) {m : String × Json} (whole : m.2.NoDouble)
    (spread : Spread (entryTokens frame m ++ more) c.rest) :
    ∃ ch rest, c.skipBlank.rest = ch :: rest ∧ ch ≠ frame.close ∧
      Spread (entryTokens frame m ++ more) c.skipBlank.rest := by
  cases frame with
  | list =>
    obtain ⟨ch, rest, here, lead, spread⟩ := skipBlank_lead whole spread
    refine ⟨ch, rest, here, lead.not_close, ?_⟩
    rw [here]
    exact spread
  | object =>
    obtain ⟨rest, here, spread, -⟩ := Spread.skipBlank spread rfl
    refine ⟨'"', _, here, by decide, ?_⟩
    rw [here]
    exact spread.token (stringChars m.1)

lemma skipScalar_opening (frame : Frame) {rest : List Char} (here : c.rest = frame.opening :: rest) :
    skipScalar c = .ok none ∧ openedFrame c = frame := by
  cases frame <;> simp [skipScalar, openedFrame, here, Frame.opening]

/-- A container is checked entry by entry. -/
lemma skips_entries (frame : Frame) {v : Json} (ms : List (String × Json))
    (form : v.tokens = [frame.opening] :: entriesTokens frame ms)
    (each : ∀ m ∈ ms, m.2.NoDouble ∧ Skips m.2) : Skips v := by
  intro frames fuel c more closing spread enough
  obtain ⟨fuel, rfl⟩ := Nat.exists_eq_succ_of_ne_zero (Nat.ne_zero_of_lt enough)
  rw [Before, form, List.cons_append] at spread
  have solid : Cursor.isBlank frame.opening = false := by cases frame <;> rfl
  obtain ⟨rest, here, spread, shorter⟩ := spread.skipBlank_single solid
  obtain ⟨opens, opened⟩ := skipScalar_opening frame here
  have blanks : c.skipBlank.eat.skipBlank.rest.length ≤ c.skipBlank.eat.rest.length :=
    List.length_dropWhile_le _ _
  cases ms with
  | nil =>
    have solid : Cursor.isBlank frame.close = false := by cases frame <;> rfl
    obtain ⟨rest', here', spread, shorter'⟩ := Spread.skipBlank_single spread solid
    refine ⟨fuel, c.skipBlank.eat.skipBlank.eat, ?_, spread, by omega⟩
    simp only [skipNested, opens, opened, here', if_true, bind, Except.bind]
  | cons m ms =>
    obtain ⟨⟨whole, skips⟩, others⟩ := List.forall_mem_cons.mp each
    rw [entriesTokens, List.append_assoc] at spread
    obtain ⟨ch, rest', here', differs, spread⟩ := skipBlank_entry frame whole spread
    obtain ⟨c₁, key, spread, shorter₁⟩ := skipKey_entry frame m spread
    obtain ⟨fuel₂, c₂, first, spread, enough₂⟩ :=
      skips (frame :: frames) fuel c₁ _ (closing_moreEntriesTokens frame ms) spread (by omega)
    obtain ⟨fuel₃, c₃, rest_, spread, enough₃⟩ :=
      skipFollowing_entries frame (fun m among => (others m among).2) spread enough₂
    refine ⟨fuel₃, c₃, ?_, spread, enough₃⟩
    simp only [skipNested, opens, opened, here', if_neg differs, key, bind, Except.bind]
    exact first.trans rest_

/-- Every value without doubles can be skipped. -/
lemma skips {v : Json} (whole : v.Whole) : Skips v := by
  induction v using Json.induct with
  | null => exact skips_scalar trivial trivial
  | bool => exact skips_scalar trivial trivial
  | number n => exact skips_scalar trivial whole.here
  | string => exact skips_scalar trivial trivial
  | array vs ih =>
    have inside := (everywhere_array.mp whole).2
    -- The items of an array are entries whose keys are not spelled.
    refine skips_entries .list (vs.map (Prod.mk "")) ?_ ?_
    · cases vs with
      | nil => rfl
      | cons v vs => rw [tokens, itemsTokens, ← moreEntriesTokens_list]; rfl
    · intro m among
      obtain ⟨v, listed, rfl⟩ := List.mem_map.mp among
      exact ⟨(inside v listed).here, ih v listed (inside v listed)⟩
  | object ms ih =>
    have inside := (everywhere_object.mp whole).2
    refine skips_entries .object ms ?_ fun m among =>
      ⟨(inside m among).here, ih m among (inside m among)⟩
    cases ms with
    | nil => rfl
    | cons m ms => rw [tokens, membersTokens, ← moreEntriesTokens_object]; rfl

/-- A value is skipped where it is spelled, whatever its depth. -/
lemma skip_spread {v : Json} (whole : v.Whole) (closing : Closing more)
    (spread : Spread (v.tokens ++ more) c.rest) :
    ∃ c', skip c = .ok c' ∧ Before more c' := by
  obtain ⟨fuel, c', skipped, spread, -⟩ :=
    skips whole [] (c.rest.length + 1) c more closing spread (Nat.lt_succ_self _)
  refine ⟨c', ?_, spread⟩
  rw [skip, skipped]
  cases fuel <;> rfl

end HostBoard.Json
