import HostBoard.Json.Reader
import HostBoard.Proofs.Json.Tree
import Mathlib.Data.List.TakeWhile
import Mathlib.Tactic.Lemma

/-!
# Tokens and blanks

The compact text of a value is a sequence of tokens: brackets, commas, colons and the texts of
strings, numbers and words. Between tokens a text may hold blanks, and `Spread` relates a sequence
of tokens to every text that spells it so; the compact text is the one without blanks.

Readers are described by what they do at a cursor from which a value's tokens are spread, followed
by others: `Gives` says that the outcome is a given value with the cursor before the other tokens,
or a fault where there is no such value. Its one rule, `Gives.bind`, follows a reader's steps.
-/

namespace HostBoard.Json

/-- The characters of one token. -/
abbrev Token := List Char

mutual

/-- The tokens of a value. -/
def tokens : Json → List Token
  | .array items => ['['] :: itemsTokens items
  | .object members => ['\x7b'] :: membersTokens members
  | v => [v.chars]

/-- The tokens of the items of an array and of its closing bracket. -/
def itemsTokens : List Json → List Token
  | [] => [[']']]
  | v :: items => v.tokens ++ moreItemsTokens items

/-- The tokens of the items behind the first, each behind a comma, and of the closing bracket. -/
def moreItemsTokens : List Json → List Token
  | [] => [[']']]
  | v :: items => [','] :: (v.tokens ++ moreItemsTokens items)

/-- The tokens of the members of an object and of its closing brace. -/
def membersTokens : List (String × Json) → List Token
  | [] => [['\x7d']]
  | (key, v) :: members => stringChars key :: [':'] :: (v.tokens ++ moreMembersTokens members)

/-- The tokens of the members behind the first, each behind a comma, and of the closing brace. -/
def moreMembersTokens : List (String × Json) → List Token
  | [] => [['\x7d']]
  | (key, v) :: members =>
    [','] :: stringChars key :: [':'] :: (v.tokens ++ moreMembersTokens members)

end

section

variable {items : List Json} {members : List (String × Json)}

lemma flatten_moreItemsTokens (same : ∀ v ∈ items, v.tokens.flatten = v.chars) :
    (moreItemsTokens items).flatten = moreItemsChars items := by
  induction items with
  | nil => rfl
  | cons v items ih =>
    obtain ⟨here, rest⟩ := List.forall_mem_cons.mp same
    simp [moreItemsTokens, moreItemsChars, here, ih rest]

lemma flatten_itemsTokens (same : ∀ v ∈ items, v.tokens.flatten = v.chars) :
    (itemsTokens items).flatten = itemsChars items := by
  cases items with
  | nil => rfl
  | cons v items =>
    obtain ⟨here, rest⟩ := List.forall_mem_cons.mp same
    simp [itemsTokens, itemsChars, here, flatten_moreItemsTokens rest]

lemma flatten_moreMembersTokens (same : ∀ m ∈ members, m.2.tokens.flatten = m.2.chars) :
    (moreMembersTokens members).flatten = moreMembersChars members := by
  induction members with
  | nil => rfl
  | cons m members ih =>
    obtain ⟨here, rest⟩ := List.forall_mem_cons.mp same
    simp [moreMembersTokens, moreMembersChars, here, ih rest]

lemma flatten_membersTokens (same : ∀ m ∈ members, m.2.tokens.flatten = m.2.chars) :
    (membersTokens members).flatten = membersChars members := by
  cases members with
  | nil => rfl
  | cons m members =>
    obtain ⟨here, rest⟩ := List.forall_mem_cons.mp same
    simp [membersTokens, membersChars, here, flatten_moreMembersTokens rest]

end

/-- The tokens of a value make up its compact text. -/
lemma flatten_tokens (v : Json) : v.tokens.flatten = v.chars := by
  induction v using Json.induct with
  | null => rfl
  | bool => exact List.append_nil _
  | number => exact List.append_nil _
  | string => exact List.append_nil _
  | array items ih => exact congrArg ('[' :: ·) (flatten_itemsTokens ih)
  | object members ih => exact congrArg ('\x7b' :: ·) (flatten_membersTokens ih)

/-! ## Blanks between tokens -/

/-- The text spells the tokens, with blanks before, between and behind them. -/
inductive Spread : List Token → List Char → Prop where
  | nil {blanks} :
    (∀ ch ∈ blanks, Cursor.isBlank ch) →
    Spread [] blanks
  | cons {blanks token tokens rest} :
    (∀ ch ∈ blanks, Cursor.isBlank ch) →
    Spread tokens rest →
    Spread (token :: tokens) (blanks ++ (token ++ rest))

lemma Spread.token {tokens : List Token} {rest : List Char} (token : Token)
    (spread : Spread tokens rest) : Spread (token :: tokens) (token ++ rest) :=
  @Spread.cons [] token tokens rest nofun spread

lemma spread_flatten (tokens : List Token) : Spread tokens tokens.flatten := by
  induction tokens with
  | nil => exact .nil nofun
  | cons token tokens ih => exact .token token ih

lemma Spread.length_le {tokens : List Token} {text : List Char} (spread : Spread tokens text) :
    tokens.flatten.length ≤ text.length := by
  induction spread with
  | nil => exact Nat.zero_le _
  | cons _ _ ih =>
    simp only [List.flatten_cons, List.length_append]
    omega

lemma Spread.skipBlank_nil {c : Cursor} (spread : Spread [] c.rest) : c.skipBlank.rest = [] := by
  generalize e : c.rest = text at spread
  cases spread with
  | nil blank =>
    rw [Cursor.skipBlank, Cursor.rest_skipWhile, e]
    exact List.dropWhile_eq_nil_iff.mpr blank

/-- Behind the blanks stands the next token. -/
lemma Spread.skipBlank {c : Cursor} {ch : Char} {tail : Token} {tokens : List Token}
    (spread : Spread ((ch :: tail) :: tokens) c.rest) (solid : Cursor.isBlank ch = false) :
    ∃ rest, c.skipBlank.rest = ch :: (tail ++ rest) ∧ Spread tokens rest ∧
      tail.length + rest.length < c.rest.length := by
  generalize e : c.rest = text at spread
  cases spread with
  | @cons blanks _ _ rest blank spread =>
    refine ⟨rest, ?_, spread, ?_⟩
    · rw [Cursor.skipBlank, Cursor.rest_skipWhile, e, List.dropWhile_append_of_pos blank]
      simp [solid]
    · simp only [List.length_append, List.length_cons]
      omega

/-- Behind the blanks stands a token of one character, and behind that the others. -/
lemma Spread.skipBlank_single {c : Cursor} {ch : Char} {tokens : List Token}
    (spread : Spread ([ch] :: tokens) c.rest) (solid : Cursor.isBlank ch = false) :
    ∃ rest, c.skipBlank.rest = ch :: rest ∧ Spread tokens c.skipBlank.eat.rest ∧
      c.skipBlank.eat.rest.length < c.rest.length := by
  obtain ⟨rest, here, spread, shorter⟩ := spread.skipBlank solid
  have behind : c.skipBlank.eat.rest = rest := by
    rw [Cursor.rest_eat, here]
    rfl
  rw [behind]
  exact ⟨rest, here, spread, Nat.lt_of_le_of_lt (Nat.le_add_left _ _) shorter⟩

/-- The tokens that can follow a value. -/
def Closing : List Token → Prop
  | [] => True
  | token :: _ => token = [','] ∨ token = [']'] ∨ token = ['\x7d']

/-- No numeral goes on with this text. -/
def NumeralEnds (text : List Char) : Prop :=
  ∀ ch rest, text = ch :: rest → ch.isDigit = false ∧ ch ≠ '.' ∧ ch ≠ 'e' ∧ ch ≠ 'E'

lemma numeralEnds_of_isBlank {ch : Char} (blank : Cursor.isBlank ch) (text : List Char) :
    NumeralEnds (ch :: text) := by
  intro first rest e
  cases e
  simp only [Cursor.isBlank, Bool.or_eq_true, decide_eq_true_eq] at blank
  rcases blank with ((rfl | rfl) | rfl) | rfl <;> decide

/-- What can follow a value ends a numeral. -/
lemma Spread.numeralEnds {more : List Token} {text : List Char} (closing : Closing more)
    (spread : Spread more text) : NumeralEnds text := by
  cases spread with
  | nil blank =>
    cases text with
    | nil => exact nofun
    | cons ch blanks => exact numeralEnds_of_isBlank (blank ch List.mem_cons_self) blanks
  | @cons blanks token tokens rest blank _ =>
    cases blanks with
    | cons ch blanks => exact numeralEnds_of_isBlank (blank ch List.mem_cons_self) _
    | nil =>
      -- Without blanks the token itself comes first: a comma, a bracket or a brace.
      intro first after e
      rcases closing with rfl | rfl | rfl <;> cases e <;> decide

/-! ## What readers give -/

/-- The cursor stands before the tokens. -/
def Before (more : List Token) (c : Cursor) : Prop :=
  Spread more c.rest

/-- The cursor stands before one character, and that before the tokens. -/
def BeforeNext (more : List Token) (c : Cursor) : Prop :=
  Spread more c.eat.rest

/-- The outcome is the result, if there is one, with a cursor as described; a fault otherwise. -/
def Gives {α : Type} (outcome : Except Fault (α × Cursor)) (result : Option α)
    (behind : Cursor → Prop) : Prop :=
  match result with
  | some v => ∃ c, outcome = .ok (v, c) ∧ behind c
  | none => ∃ fault, outcome = .error fault

section

variable {α β : Type} {outcome : Except Fault (α × Cursor)} {result : Option α}
  {behind behind' : Cursor → Prop}

lemma gives_ok {v : α} {c : Cursor} (there : behind c) : Gives (.ok (v, c)) (some v) behind :=
  ⟨c, rfl, there⟩

lemma gives_error {fault : Fault} : Gives (.error fault : Except Fault (α × Cursor)) none behind :=
  ⟨fault, rfl⟩

/-- A step after what a reader gives. -/
lemma Gives.bind {next : α × Cursor → Except Fault (β × Cursor)} {meaning : α → Option β}
    (first : Gives outcome result behind)
    (second : ∀ v c, result = some v → behind c → Gives (next (v, c)) (meaning v) behind') :
    Gives (outcome >>= next) (result >>= meaning) behind' := by
  cases result with
  | some v =>
    obtain ⟨c, rfl, there⟩ := first
    exact second v c rfl there
  | none =>
    obtain ⟨fault, rfl⟩ := first
    exact gives_error

/-- A value that is changed after it was read, with a move of the cursor. -/
lemma Gives.map {f : α → β} {move : Cursor → Cursor} (first : Gives outcome result behind)
    (second : ∀ c, behind c → behind' (move c)) :
    Gives (do let (v, c) ← outcome; return (f v, move c)) (result.map f) behind' := by
  cases result with
  | some v =>
    obtain ⟨c, rfl, there⟩ := first
    exact ⟨move c, rfl, second c there⟩
  | none =>
    obtain ⟨fault, rfl⟩ := first
    exact gives_error

end

/-- The reader, wherever the value is spelled and closed, gives the result. -/
def Reads {α : Type} (read : Cursor → Except Fault (α × Cursor)) (v : Json) (result : Option α) :
    Prop :=
  ∀ c more, Closing more → Before (v.tokens ++ more) c → Gives (read c) result (Before more)

end HostBoard.Json
