import HostBoard.Proofs.Json.Scalar

/-!
# Reading back values

What the readers do where a value is spelled. Untyped reading gives every value in its canonical
form (`reads_value`). The typed readers give what a value means to them and a fault where it means
nothing: a string is read from a string only (`reads_text`), a list from an array all of whose items
can be read (`reads_list`), and a mapping from an object (`reads_mapping`).

The loops over items and members are treated once, for any reader of what they hold. Each goes by
induction on the items or members that are left, with the loop's state generalised; the steps that
the loop has left never run out, because every item takes at least one character.
-/

namespace HostBoard.Json

variable {α σ : Type} {c : Cursor} {more : List Token}

/-! ## First characters -/

/-- A character that starts the text of a value, and tells strings and containers apart. -/
structure Lead (v : Json) (ch : Char) : Prop where
  solid : Cursor.isBlank ch = false
  not_close : ch ≠ ']'
  string : ch = '"' → ∃ s, v = .string s
  array : ch = '[' → ∃ vs, v = .array vs
  object : ch = '\x7b' → ∃ ms, v = .object ms

/-- A character that starts neither a string nor a container. -/
lemma Lead.plain {v : Json} {ch : Char} (solid : Cursor.isBlank ch = false) (close : ch ≠ ']')
    (quote : ch ≠ '"') (bracket : ch ≠ '[') (brace : ch ≠ '\x7b') : Lead v ch where
  solid := solid
  not_close := close
  string e := absurd e quote
  array e := absurd e bracket
  object e := absurd e brace

lemma Lead.of_isDigit {v : Json} {d : Char} (digit : d.isDigit) : Lead v d := by
  have other : ∀ ch : Char, ch.isDigit = false → d ≠ ch := by
    rintro ch none rfl
    rw [digit] at none
    cases none
  refine .plain ?_ (other _ rfl) (other _ rfl) (other _ rfl) (other _ rfl)
  cases blank : Cursor.isBlank d with
  | false => rfl
  | true =>
    have none := (numeralEnds_of_isBlank blank [] d [] rfl).1
    rw [digit] at none
    cases none

lemma lead_string (s : String) : Lead (.string s) '"' where
  solid := rfl
  not_close := by decide
  string _ := ⟨s, rfl⟩
  array e := absurd e (by decide)
  object e := absurd e (by decide)

lemma lead_array (vs : List Json) : Lead (.array vs) '[' where
  solid := rfl
  not_close := by decide
  string e := absurd e (by decide)
  array _ := ⟨vs, rfl⟩
  object e := absurd e (by decide)

lemma lead_object (ms : List (String × Json)) : Lead (.object ms) '\x7b' where
  solid := rfl
  not_close := by decide
  string e := absurd e (by decide)
  array e := absurd e (by decide)
  object _ := ⟨ms, rfl⟩

/-- Every value has a first token, with a first character. -/
lemma exists_lead {v : Json} (whole : v.NoDouble) :
    ∃ ch tail tokens, v.tokens = (ch :: tail) :: tokens ∧ Lead v ch := by
  cases v with
  | null => exact ⟨_, _, _, rfl, .plain rfl (by decide) (by decide) (by decide) (by decide)⟩
  | bool b =>
    cases b <;>
      exact ⟨_, _, _, rfl, .plain rfl (by decide) (by decide) (by decide) (by decide)⟩
  | number n =>
    cases n with
    | float x => exact whole.elim
    | int n =>
      by_cases below : n < 0
      · refine ⟨'-', Nat.toDigits 10 n.natAbs, [], ?_,
          .plain rfl (by decide) (by decide) (by decide) (by decide)⟩
        show [intChars n] = _
        rw [intChars, if_pos below]
      · obtain ⟨d, digits, form, digit⟩ := exists_toDigits n.natAbs
        refine ⟨d, digits, [], ?_, .of_isDigit digit⟩
        show [intChars n] = _
        rw [intChars, if_neg below, form]
  | string s => exact ⟨_, _, _, rfl, lead_string s⟩
  | array vs => exact ⟨_, _, _, rfl, lead_array vs⟩
  | object ms => exact ⟨_, _, _, rfl, lead_object ms⟩

/-- Behind the blanks stands the first character of the value. -/
lemma skipBlank_lead {v : Json} (whole : v.NoDouble) (spread : Spread (v.tokens ++ more) c.rest) :
    ∃ ch rest, c.skipBlank.rest = ch :: rest ∧ Lead v ch ∧
      Spread (v.tokens ++ more) (ch :: rest) := by
  obtain ⟨ch, tail, tokens, form, lead⟩ := exists_lead whole
  rw [form, List.cons_append] at spread ⊢
  obtain ⟨rest, here, spread, -⟩ := spread.skipBlank lead.solid
  exact ⟨ch, tail ++ rest, here, lead, spread.token (ch :: tail)⟩

/-- Behind the blanks stands the text of a value that is no container. -/
lemma skipBlank_scalar {v : Json} (scalar : v.IsScalar) (whole : v.NoDouble)
    (spread : Spread (v.tokens ++ more) c.rest) :
    ∃ rest, c.skipBlank.rest = v.chars ++ rest ∧ Spread more rest ∧
      rest.length < c.rest.length := by
  obtain ⟨ch, tail, tokens, form, lead⟩ := exists_lead whole
  have single : v.tokens = [v.chars] := by
    cases v with
    | array => exact scalar.elim
    | object => exact scalar.elim
    | _ => rfl
  have text : v.chars = ch :: tail := (List.cons.inj (single.symm.trans form)).1
  rw [single, text] at spread
  obtain ⟨rest, here, spread, shorter⟩ := spread.skipBlank lead.solid
  exact ⟨rest, by rw [here, text]; rfl, spread, Nat.lt_of_le_of_lt (Nat.le_add_left _ _) shorter⟩

/-! ## Punctuation -/

/-- At the closing bracket there is no further item, and the cursor stays. -/
lemma nextItem_close (first : Bool) (spread : Spread ([']'] :: more) c.rest) :
    ∃ c', nextItem first c = .ok (false, c') ∧ Spread ([']'] :: more) c'.rest ∧
      Spread more c'.eat.rest := by
  obtain ⟨rest, here, spread, -⟩ := spread.skipBlank rfl
  refine ⟨c.skipBlank, by simp only [nextItem, here], ?_, ?_⟩
  · rw [here]
    exact spread.token [']']
  · rw [Cursor.rest_eat, here]
    exact spread

lemma nextItem_true {ch : Char} {rest : List Char} (here : c.skipBlank.rest = ch :: rest)
    (other : ch ≠ ']') : nextItem true c = .ok (true, c.skipBlank) := by
  unfold nextItem
  dsimp only
  split
  · next e => simp [here] at e
  · next tail e =>
    rw [here] at e
    exact absurd (List.cons.inj e).1 other
  · rfl

lemma nextItem_false {ch : Char} {rest tail : List Char} (here : c.skipBlank.rest = ',' :: rest)
    (start : c.skipBlank.eat.skipBlank.rest = ch :: tail) (other : ch ≠ ']') :
    nextItem false c = .ok (true, c.skipBlank.eat.skipBlank) := by
  unfold nextItem
  dsimp only
  rw [here]
  show ite (false = true) _ (ite (',' = ',') _ _) = _
  rw [if_neg Bool.false_ne_true, if_pos rfl]
  split
  · next e => simp [start] at e
  · next e =>
    rw [start] at e
    exact absurd (List.cons.inj e).1 other
  · rfl

lemma nextItem_first {v : Json} (whole : v.NoDouble) (spread : Spread (v.tokens ++ more) c.rest) :
    ∃ c', nextItem true c = .ok (true, c') ∧ Spread (v.tokens ++ more) c'.rest := by
  obtain ⟨ch, rest, here, lead, spread⟩ := skipBlank_lead whole spread
  exact ⟨c.skipBlank, nextItem_true here lead.not_close, here ▸ spread⟩

lemma nextItem_comma {v : Json} (whole : v.NoDouble)
    (spread : Spread ([','] :: (v.tokens ++ more)) c.rest) :
    ∃ c', nextItem false c = .ok (true, c') ∧ Spread (v.tokens ++ more) c'.rest := by
  obtain ⟨rest, here, spread, -⟩ := spread.skipBlank_single rfl
  obtain ⟨ch, rest', start, lead, spread⟩ := skipBlank_lead whole spread
  exact ⟨_, nextItem_false here start lead.not_close, start ▸ spread⟩

lemma nextKey_close (first : Bool) (spread : Spread (['\x7d'] :: more) c.rest) :
    ∃ c', nextKey first c = .ok (false, c') ∧ Spread more c'.eat.rest := by
  obtain ⟨rest, here, spread, -⟩ := spread.skipBlank_single rfl
  exact ⟨c.skipBlank, by simp only [nextKey, here], spread⟩

lemma nextKey_true {rest : List Char} (here : c.skipBlank.rest = '"' :: rest) :
    nextKey true c = .ok (true, c.skipBlank) := by
  dsimp only [nextKey]
  rw [here]
  rfl

lemma nextKey_false {rest tail : List Char} (here : c.skipBlank.rest = ',' :: rest)
    (start : c.skipBlank.eat.skipBlank.rest = '"' :: tail) :
    nextKey false c = .ok (true, c.skipBlank.eat.skipBlank) := by
  dsimp only [nextKey]
  rw [here, start]
  rfl

lemma nextKey_first {key : String} (spread : Spread (stringChars key :: more) c.rest) :
    ∃ c' rest, nextKey true c = .ok (true, c') ∧ c'.rest = stringChars key ++ rest ∧
      Spread more rest := by
  obtain ⟨rest, here, spread, -⟩ := spread.skipBlank rfl
  exact ⟨c.skipBlank, rest, nextKey_true here, here, spread⟩

lemma nextKey_comma {key : String} (spread : Spread ([','] :: stringChars key :: more) c.rest) :
    ∃ c' rest, nextKey false c = .ok (true, c') ∧ c'.rest = stringChars key ++ rest ∧
      Spread more rest := by
  obtain ⟨rest, here, spread, -⟩ := spread.skipBlank_single rfl
  obtain ⟨rest', start, spread, -⟩ := spread.skipBlank rfl
  exact ⟨_, rest', nextKey_false here start, start, spread⟩

lemma colon_spread (spread : Spread ([':'] :: more) c.rest) :
    ∃ c', colon c = .ok c' ∧ Spread more c'.rest ∧ c'.rest.length < c.rest.length := by
  obtain ⟨rest, here, spread, shorter⟩ := spread.skipBlank_single rfl
  exact ⟨c.skipBlank.eat, by simp only [colon, here], spread, shorter⟩

/-! ## Items -/

lemma closing_moreItemsTokens (vs : List Json) : Closing (moreItemsTokens vs ++ more) := by
  cases vs with
  | nil => exact .inr (.inl rfl)
  | cons v vs => exact .inl rfl

lemma length_moreItemsTokens (vs : List Json) :
    vs.length < (moreItemsTokens vs).flatten.length := by
  induction vs with
  | nil => exact Nat.one_pos
  | cons v vs ih =>
    simp only [moreItemsTokens, List.flatten_cons, List.flatten_append, List.length_append,
      List.length_cons, List.length_nil]
    omega

/-- The loop behind the first item, with at least as many steps left as there are items. -/
lemma itemsLoop_more {item : Cursor → Except Fault (α × Cursor)} {meaning : Json → Option α}
    {vs : List Json} (each : ∀ v ∈ vs, v.NoDouble ∧ Reads item v (meaning v)) (read : List α)
    (some_read : read ≠ []) {fuel : Nat} (enough : vs.length < fuel)
    (spread : Spread (moreItemsTokens vs ++ more) c.rest) :
    Gives (itemsLoop item fuel read c) ((vs.mapM meaning).map (read.reverse ++ ·))
      (Before more) := by
  induction vs generalizing read fuel c with
  | nil =>
    obtain ⟨fuel, rfl⟩ := Nat.exists_eq_succ_of_ne_zero (Nat.ne_of_gt enough)
    obtain ⟨c', next, -, spread⟩ := nextItem_close read.isEmpty spread
    rw [itemsLoop, next]
    exact ⟨c'.eat, by simp [List.append_nil]; rfl, spread⟩
  | cons v vs ih =>
    obtain ⟨fuel, rfl⟩ := Nat.exists_eq_succ_of_ne_zero (Nat.ne_of_gt (Nat.zero_lt_of_lt enough))
    obtain ⟨⟨whole, reads⟩, others⟩ := List.forall_mem_cons.mp each
    rw [moreItemsTokens, List.cons_append, List.append_assoc] at spread
    obtain ⟨c', next, spread⟩ := nextItem_comma whole spread
    -- Something was read before, so the loop looks for a comma.
    have empty : read.isEmpty = false := List.isEmpty_eq_false_iff.mpr some_read
    rw [itemsLoop, empty, next]
    have meaning_eq : ((v :: vs).mapM meaning).map (read.reverse ++ ·) =
        meaning v >>= fun a => (vs.mapM meaning).map ((a :: read).reverse ++ ·) := by
      cases one : meaning v <;> cases rest : vs.mapM meaning <;>
        simp [List.mapM_cons, one, rest]
    rw [meaning_eq]
    refine (reads c' _ (closing_moreItemsTokens vs) spread).bind ?_
    intro a c'' _ spread
    exact ih others (a :: read) (List.cons_ne_nil a read) (Nat.lt_of_succ_lt_succ enough) spread

/-- The items of an array are read by a reader that reads each of them. -/
lemma items_spread {item : Cursor → Except Fault (α × Cursor)} {meaning : Json → Option α}
    {vs : List Json} (each : ∀ v ∈ vs, v.NoDouble ∧ Reads item v (meaning v))
    (spread : Spread (itemsTokens vs ++ more) c.rest) :
    Gives (items item c) (vs.mapM meaning) (Before more) := by
  cases vs with
  | nil =>
    obtain ⟨c', next, -, spread⟩ := nextItem_close true spread
    rw [items, itemsLoop, List.isEmpty_nil, next]
    exact ⟨c'.eat, rfl, spread⟩
  | cons v vs =>
    obtain ⟨⟨whole, reads⟩, others⟩ := List.forall_mem_cons.mp each
    have long := spread.length_le
    rw [itemsTokens, List.append_assoc] at spread long
    have enough : vs.length < c.rest.length := by
      have count := length_moreItemsTokens vs
      simp only [List.flatten_append, List.length_append] at long
      omega
    -- The first item has no comma before it, so its round is done here and the others by the loop.
    obtain ⟨c', next, spread⟩ := nextItem_first whole spread
    rw [items, itemsLoop, List.isEmpty_nil, next]
    have meaning_eq : (v :: vs).mapM meaning =
        meaning v >>= fun a => (vs.mapM meaning).map ([a].reverse ++ ·) := by
      cases one : meaning v <;> cases rest : vs.mapM meaning <;>
        simp [List.mapM_cons, one, rest]
    rw [meaning_eq]
    refine (reads c' _ (closing_moreItemsTokens vs) spread).bind ?_
    intro a c'' _ spread
    exact itemsLoop_more others [a] (List.cons_ne_nil a []) enough spread

/-! ## Members -/

/-- The handler of members takes one member as described, wherever it is spelled and closed. -/
def Handles (member : σ → String → Cursor → Except Fault (σ × Cursor)) (key : String) (v : Json)
    (step : σ → Option σ) : Prop :=
  ∀ s c more, Closing more → Before ([':'] :: (v.tokens ++ more)) c →
    Gives (member s key c) (step s) (Before more)

lemma closing_moreMembersTokens (ms : List (String × Json)) :
    Closing (moreMembersTokens ms ++ more) := by
  cases ms with
  | nil => exact .inr (.inr rfl)
  | cons m ms => exact .inl rfl

lemma length_moreMembersTokens (ms : List (String × Json)) :
    ms.length < (moreMembersTokens ms).flatten.length := by
  induction ms with
  | nil => exact Nat.one_pos
  | cons m ms ih =>
    simp only [moreMembersTokens, List.flatten_cons, List.flatten_append, List.length_append,
      List.length_cons, List.length_nil]
    omega

section

variable {member : σ → String → Cursor → Except Fault (σ × Cursor)}
  {step : σ → String × Json → Option σ} {ms : List (String × Json)}

/-- One round of the loop, from the cursor at the quote of a key. -/
lemma membersLoop_round {key : String} {v : Json} {fuel : Nat} {s : σ} {first : Bool} {c' : Cursor}
    {rest : List Char} {meaning : σ → Option σ} {behind : Cursor → Prop}
    (handles : Handles member key v fun s => step s (key, v))
    (next : nextKey first c = .ok (true, c')) (here : c'.rest = stringChars key ++ rest)
    (closing : Closing more) (spread : Spread ([':'] :: (v.tokens ++ more)) rest)
    (others : ∀ s c, Before more c → Gives (membersLoop member fuel false s c) (meaning s) behind) :
    Gives (membersLoop member (fuel + 1) first s c) (step s (key, v) >>= meaning) behind := by
  obtain ⟨c'', body, left⟩ := stringBody_stringChars key here
  rw [← left] at spread
  have round : membersLoop member (fuel + 1) first s c =
      member s key c'' >>= fun r => membersLoop member fuel false r.1 r.2 := by
    simp only [membersLoop, next, body, bind, Except.bind]
  rw [round]
  exact (handles s c'' more closing spread).bind fun s c _ spread => others s c spread

/-- The loop behind the first member, with at least as many steps left as there are members. -/
lemma membersLoop_more (each : ∀ m ∈ ms, Handles member m.1 m.2 fun s => step s m) (s : σ)
    {fuel : Nat} (enough : ms.length < fuel)
    (spread : Spread (moreMembersTokens ms ++ more) c.rest) :
    Gives (membersLoop member fuel false s c) (ms.foldlM step s) (BeforeNext more) := by
  induction ms generalizing s fuel c with
  | nil =>
    obtain ⟨fuel, rfl⟩ := Nat.exists_eq_succ_of_ne_zero (Nat.ne_of_gt enough)
    obtain ⟨c', next, spread⟩ := nextKey_close false spread
    rw [membersLoop, next]
    exact ⟨c', rfl, spread⟩
  | cons m ms ih =>
    obtain ⟨fuel, rfl⟩ := Nat.exists_eq_succ_of_ne_zero (Nat.ne_of_gt (Nat.zero_lt_of_lt enough))
    obtain ⟨handles, others⟩ := List.forall_mem_cons.mp each
    rw [moreMembersTokens, List.cons_append, List.cons_append, List.cons_append,
      List.append_assoc] at spread
    obtain ⟨c', rest, next, here, spread⟩ := nextKey_comma spread
    rw [List.foldlM_cons]
    exact membersLoop_round handles next here (closing_moreMembersTokens ms) spread
      fun s c spread => ih others s (Nat.lt_of_succ_lt_succ enough) spread

/-- The members of an object are taken one after another by a handler that takes each of them. -/
lemma members_spread (each : ∀ m ∈ ms, Handles member m.1 m.2 fun s => step s m) (s : σ)
    (spread : Spread (membersTokens ms ++ more) c.rest) :
    Gives (members member s c) (ms.foldlM step s) (BeforeNext more) := by
  cases ms with
  | nil =>
    obtain ⟨c', next, spread⟩ := nextKey_close true spread
    rw [members, membersLoop, next]
    exact ⟨c', rfl, spread⟩
  | cons m ms =>
    obtain ⟨handles, others⟩ := List.forall_mem_cons.mp each
    have long := spread.length_le
    rw [membersTokens, List.cons_append, List.cons_append, List.append_assoc] at spread long
    have enough : ms.length < c.rest.length := by
      have count := length_moreMembersTokens ms
      simp only [List.flatten_cons, List.flatten_append, List.length_append] at long
      omega
    obtain ⟨c', rest, next, here, spread⟩ := nextKey_first spread
    rw [List.foldlM_cons]
    exact membersLoop_round handles next here (closing_moreMembersTokens ms) spread
      fun s c spread => membersLoop_more others s enough spread

end

lemma handles_keep {item : Cursor → Except Fault (α × Cursor)} (key : String) {v : Json}
    {result : Option α} (reads : Reads item v result) :
    Handles (keep item) key v fun read => result.map fun a => insert key a read := by
  intro read c more closing spread
  obtain ⟨c', punctuation, spread, -⟩ := colon_spread spread
  rw [keep, punctuation]
  exact (reads c' more closing spread).map fun _ there => there

lemma foldlM_insert (ms done : List (String × Json)) :
    ms.foldlM (fun read m => (some m.2.canonical).map fun v => insert m.1 v read) done =
      some (canonicalFrom done ms) := by
  induction ms generalizing done with
  | nil => rfl
  | cons m ms ih => exact ih _

/-- Members whose values are read in canonical form are put into canonical order. -/
lemma members_keep {item : Cursor → Except Fault (Json × Cursor)} {ms : List (String × Json)}
    (each : ∀ m ∈ ms, Reads item m.2 (some m.2.canonical))
    (spread : Spread (membersTokens ms ++ more) c.rest) :
    Gives (members (keep item) [] c) (some (canonicalMembers ms)) (BeforeNext more) := by
  have given := members_spread (fun m among => handles_keep m.1 (each m among)) [] spread
  rw [foldlM_insert] at given
  exact given

/-! ## The readers -/

lemma scalar?_open {ch : Char} {rest : List Char} (here : c.rest = ch :: rest)
    (opens : ch = '[' ∨ ch = '\x7b') : scalar? c = none := by
  rcases opens with rfl | rfl
  all_goals
    unfold scalar?
    rw [here]
    rfl

lemma reads_value_scalar {v : Json} {budget : Nat} (scalar : v.IsScalar) (fits : v.FitsWord)
    (whole : v.NoDouble) : Reads (value budget) v (some v) := by
  intro c more closing spread
  obtain ⟨rest, here, spread, -⟩ := skipBlank_scalar scalar whole spread
  obtain ⟨c', read, left⟩ := scalar?_chars scalar fits whole (spread.numeralEnds closing) here
  rw [← left] at spread
  refine ⟨c', ?_, spread⟩
  rw [value.eq_def]
  simp only [read]

/-- Untyped reading gives the canonical form of any value that is not nested too deeply. -/
lemma reads_value {v : Json} {budget : Nat} (ranged : v.Ranged) (whole : v.Whole)
    (shallow : v.depth ≤ budget) : Reads (value budget) v (some v.canonical) := by
  induction v using Json.induct generalizing budget with
  | null => exact reads_value_scalar trivial trivial trivial
  | bool => exact reads_value_scalar trivial trivial trivial
  | number n => exact reads_value_scalar trivial ranged.here whole.here
  | string => exact reads_value_scalar trivial trivial trivial
  | array vs ih =>
    cases budget with
    | zero => exact absurd shallow (Nat.not_succ_le_zero _)
    | succ budget =>
      have each : ∀ v ∈ vs, v.NoDouble ∧ Reads (value budget) v (some v.canonical) := by
        intro v among
        have inside : v.Whole := whole.item among
        exact ⟨inside.here, ih v among (ranged.item among) inside
          (depth_array_le.mp shallow v among)⟩
      intro c more closing spread
      obtain ⟨rest, here, spread, -⟩ := Spread.skipBlank_single spread rfl
      have given := items_spread each spread
      rw [show vs.mapM (fun v => some v.canonical) = some (vs.map canonical) from
        List.mapM_pure] at given
      obtain ⟨c', read, spread⟩ := given
      refine ⟨c', ?_, spread⟩
      rw [value.eq_def]
      simp only [scalar?_open here (.inl rfl), here, read, canonical, canonicalItems_eq]
      rfl
  | object ms ih =>
    cases budget with
    | zero => exact absurd shallow (Nat.not_succ_le_zero _)
    | succ budget =>
      have each : ∀ m ∈ ms, Reads (value budget) m.2 (some m.2.canonical) := fun m among =>
        ih m among (ranged.member among)
          (whole.member among) (depth_object_le.mp shallow m among)
      intro c more closing spread
      obtain ⟨rest, here, spread, -⟩ := Spread.skipBlank_single spread rfl
      obtain ⟨c', read, spread⟩ := members_keep each spread
      refine ⟨c'.eat, ?_, spread⟩
      rw [value.eq_def]
      simp only [scalar?_open here (.inr rfl), here, read, canonical]
      rfl

/-- The string that a value is, if it is one. -/
def string? : Json → Option String
  | .string s => some s
  | _ => none

/-- The items of a value, if it is an array. -/
def array? : Json → Option (List Json)
  | .array vs => some vs
  | _ => none

/-- The members of a value, if it is an object. -/
def object? : Json → Option (List (String × Json))
  | .object ms => some ms
  | _ => none

/-- A string is read from a string, and from nothing else. -/
lemma reads_text {v : Json} {budget : Nat} (whole : v.NoDouble) :
    Reads (text budget) v v.string? := by
  intro c more closing spread
  by_cases kind : ∃ s, v = .string s
  · obtain ⟨s, rfl⟩ := kind
    obtain ⟨rest, here, spread, -⟩ := skipBlank_scalar (v := .string s) trivial trivial spread
    obtain ⟨c', body, left⟩ := stringBody_stringChars s here
    rw [← left] at spread
    refine ⟨c', ?_, spread⟩
    rw [chars, stringChars, List.cons_append] at here
    simp only [text, here, body]
  · obtain ⟨ch, rest, here, lead, -⟩ := skipBlank_lead whole spread
    have none : v.string? = none := by
      cases v with
      | string s => exact absurd ⟨s, rfl⟩ kind
      | _ => rfl
    rw [none]
    unfold text
    dsimp only
    split
    · exact gives_error
    · next tail e =>
      rw [here] at e
      exact absurd (lead.string (List.cons.inj e).1) kind
    · exact gives_error

/-- A list is read from an array whose items can all be read, and from nothing else. -/
lemma reads_list {item : Reader α} {meaning : Json → Option α} {v : Json} {budget : Nat}
    (whole : v.Whole)
    (each : ∀ vs, v = .array vs → ∀ w ∈ vs, Reads (item budget) w (meaning w)) :
    Reads (list item (budget + 1)) v (v.array? >>= List.mapM meaning) := by
  intro c more closing spread
  by_cases kind : ∃ vs, v = .array vs
  · obtain ⟨vs, rfl⟩ := kind
    have all : ∀ w ∈ vs, w.NoDouble ∧ Reads (item budget) w (meaning w) := fun w among =>
      ⟨(whole.item among).here, each vs rfl w among⟩
    obtain ⟨rest, here, spread, -⟩ := Spread.skipBlank_single spread rfl
    have given := items_spread all spread
    simp only [list, here]
    exact given
  · obtain ⟨ch, rest, here, lead, -⟩ := skipBlank_lead whole.here spread
    have none : v.array? = none := by
      cases v with
      | array vs => exact absurd ⟨vs, rfl⟩ kind
      | _ => rfl
    rw [none]
    unfold list
    dsimp only
    split
    · exact gives_error
    · next tail e =>
      rw [here] at e
      exact absurd (lead.array (List.cons.inj e).1) kind
    · exact gives_error

/-- A mapping is read from an object, in canonical form, and from nothing else. -/
lemma reads_mapping {v : Json} {budget : Nat} (ranged : v.Ranged) (whole : v.Whole)
    (shallow : v.depth ≤ budget + 1) :
    Reads (mapping value (budget + 1)) v (v.object?.map canonicalMembers) := by
  intro c more closing spread
  by_cases kind : ∃ ms, v = .object ms
  · obtain ⟨ms, rfl⟩ := kind
    have each : ∀ m ∈ ms, Reads (value budget) m.2 (some m.2.canonical) := fun m among =>
      reads_value (ranged.member among)
        (whole.member among) (depth_object_le.mp shallow m among)
    obtain ⟨rest, here, spread, -⟩ := Spread.skipBlank_single spread rfl
    obtain ⟨c', read, spread⟩ := members_keep each spread
    refine ⟨c'.eat, ?_, spread⟩
    simp only [mapping, here, read]
    rfl
  · obtain ⟨ch, rest, here, lead, -⟩ := skipBlank_lead whole.here spread
    have none : v.object? = none := by
      cases v with
      | object ms => exact absurd ⟨ms, rfl⟩ kind
      | _ => rfl
    rw [none]
    unfold mapping
    dsimp only
    split
    · exact gives_error
    · next tail e =>
      rw [here] at e
      exact absurd (lead.object (List.cons.inj e).1) kind
    · exact gives_error

lemma Reads.map {β : Type} {read : Cursor → Except Fault (α × Cursor)} {v : Json}
    {result : Option α} (reads : Reads read v result) (f : α → β) :
    Reads (fun c => do let (a, c) ← read c; return (f a, c)) v (result.map f) := by
  intro c more closing spread
  exact (reads c more closing spread).map fun _ there => there

/-! ## Whole texts -/

lemma spread_compact (v : Json) : Spread v.tokens v.compact.toList := by
  have text : v.compact.toList = v.tokens.flatten := by
    rw [flatten_tokens, compact, String.toList_ofList]
  rw [text]
  exact spread_flatten _

lemma before_start {v : Json} {text : String} (spread : Spread v.tokens text.toList) :
    Before (v.tokens ++ []) (Cursor.start text) := by
  rw [List.append_nil]
  exact spread

/-- A text that spells a value, with any blanks, is read like the value. -/
lemma document_of_spread {read : Reader α} {v : Json} {a : α} {text : String}
    (spread : Spread v.tokens text.toList) (reads : Reads (read nestingLimit) v (some a)) :
    document read text = .ok a := by
  obtain ⟨c, given, behind⟩ := reads _ [] trivial (before_start spread)
  have nothing_left : c.skipBlank.rest.isEmpty := by
    rw [Spread.skipBlank_nil behind]
    rfl
  simp only [document, given, bind, Except.bind, if_pos nothing_left]
  rfl

lemma document_error {read : Reader α} {v : Json} (reads : Reads (read nestingLimit) v none) :
    ∃ fault, document read v.compact = .error fault := by
  obtain ⟨fault, given⟩ := reads _ [] trivial (before_start (spread_compact v))
  exact ⟨fault, by simp only [document, given, bind, Except.bind]⟩

end HostBoard.Json
