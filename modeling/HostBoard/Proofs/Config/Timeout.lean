import HostBoard.Proofs.Config.Effective
import Mathlib.Tactic.Ring

/-!
# The timeout of the environment

The variable for the timeout is taken as a whole or not at all. If it spells a number (`Numeral`)
that has room in 64 bits, that number is the timeout; otherwise the timeout stays what it was. A
number that is too large is refused however long it is, and none is cut down to 64 bits.

Digits can be gathered in a word of 64 bits, with a check at each step (`fill?`). One step loses
nothing (`shiftIn?_eq_some_iff`), and by induction neither do all of them (`foldlM_shiftIn?`),
because what the word holds only grows: it overflows somewhere exactly if the number is too large in
the end.
-/

namespace HostBoard.Config

/-! ### Numbers in decimal digits -/

/-- The value of a decimal digit. -/
def digitValue (c : Char) : Nat :=
  c.toNat - '0'.toNat

/-- The number that decimal digits stand for; each digit counts by its place. -/
def decimal : List Char → Nat
  | [] => 0
  | c :: digits => digitValue c * 10 ^ digits.length + decimal digits

/-- A text that consists of decimal digits, perhaps behind a plus sign. -/
structure Numeral (text : String) (digits : List Char) : Prop where
  nonempty : digits ≠ []
  all : ∀ c ∈ digits, c.isDigit
  sign : text = String.ofList digits ∨ text = "+" ++ String.ofList digits

/-- The environment gives a timeout of 64 bits. -/
def GivesTimeout (env : Environment) (n : Nat) : Prop :=
  ∃ text digits, env "HOSTDASH_TIMEOUT" = some text ∧ Numeral text digits ∧ decimal digits = n ∧
    n < 2 ^ 64

lemma ofDigitChars_eq (digits : List Char) (n : Nat) :
    Nat.ofDigitChars 10 digits n = n * 10 ^ digits.length + decimal digits := by
  induction digits generalizing n with
  | nil => simp [decimal]
  | cons c digits ih =>
    rw [Nat.ofDigitChars_cons, ih, decimal, digitValue, List.length_cons, Nat.pow_succ]
    ring

lemma sign_iff {text : String} {digits : List Char} :
    (text = String.ofList digits ∨ text = "+" ++ String.ofList digits) ↔
      (text.toList = digits ∨ text.toList = '+' :: digits) := by
  rw [← String.toList_inj, ← String.toList_inj, String.toList_append, String.toList_ofList,
    String.toList_ofList]
  rfl

lemma word?_eq_some_iff_numeral {text : String} {n : Nat} :
    word? text = some n ↔ ∃ digits, Numeral text digits ∧ decimal digits = n ∧ n < 2 ^ 64 := by
  rw [word?_eq_some_iff, IsWord]
  refine exists_congr fun digits => ?_
  rw [← sign_iff, ofDigitChars_eq, Nat.zero_mul, Nat.zero_add]
  constructor
  · rintro ⟨nonempty, all, sign, value, small⟩
    exact ⟨⟨nonempty, all, sign⟩, value.symm, small⟩
  · rintro ⟨⟨nonempty, all, sign⟩, value, small⟩
    exact ⟨nonempty, all, sign, value.symm, small⟩

/-- A sign is no digit, so a text is a numeral in one way only. -/
lemma Numeral.unique {text : String} {digits digits' : List Char} (first : Numeral text digits)
    (second : Numeral text digits') : digits = digits' := by
  have unsigned : ∀ digits : List Char, (∀ c ∈ '+' :: digits, c.isDigit) → False := by
    intro digits all
    cases all '+' List.mem_cons_self
  rcases sign_iff.mp first.sign with plain | signed
  · rcases sign_iff.mp second.sign with plain' | signed'
    · exact plain.symm.trans plain'
    · have all := first.all
      rw [← plain, signed'] at all
      exact (unsigned _ all).elim
  · rcases sign_iff.mp second.sign with plain' | signed'
    · have all := second.all
      rw [← plain', signed] at all
      exact (unsigned _ all).elim
    · exact (List.cons.inj (signed.symm.trans signed')).2

/-! ### Digits in a word of 64 bits -/

/-- A number as a word of 64 bits, unless it is too large for one. -/
def fit? (n : Nat) : Option UInt64 :=
  if n < 2 ^ 64 then some (UInt64.ofNat n) else none

/-- Put a digit behind those that a word holds: first the product and then the sum must fit. -/
def shiftIn? (held : UInt64) (c : Char) : Option UInt64 := do
  let shifted ← fit? (held.toNat * 10)
  fit? (shifted.toNat + digitValue c)

/-- The word that digits fill one after the other; none as soon as one of them does not fit. -/
def fill? (digits : List Char) : Option UInt64 :=
  digits.foldlM shiftIn? 0

lemma fit?_eq_some_iff {n : Nat} {w : UInt64} : fit? n = some w ↔ w.toNat = n := by
  rw [fit?, Option.ite_none_right_eq_some, Option.some_inj]
  constructor
  · rintro ⟨small, rfl⟩
    exact UInt64.toNat_ofNat_of_lt' small
  · rintro rfl
    exact ⟨w.toNat_lt, UInt64.ofNat_toNat⟩

lemma exists_toNat_eq {n : Nat} (w : UInt64) (le : n ≤ w.toNat) : ∃ v : UInt64, v.toNat = n :=
  ⟨UInt64.ofNat n, UInt64.toNat_ofNat_of_lt' (le.trans_lt w.toNat_lt)⟩

lemma shiftIn?_eq_some_iff {held next : UInt64} {c : Char} :
    shiftIn? held c = some next ↔ next.toNat = held.toNat * 10 + digitValue c := by
  simp only [shiftIn?, bind, Option.bind_eq_some_iff, fit?_eq_some_iff]
  constructor
  · rintro ⟨shifted, product, sum⟩
    rw [sum, product]
  · intro value
    have grows : held.toNat * 10 ≤ next.toNat := by
      rw [value]
      exact Nat.le_add_right ..
    obtain ⟨shifted, product⟩ := exists_toNat_eq next grows
    exact ⟨shifted, product, by rw [value, product]⟩

lemma foldlM_shiftIn? (digits : List Char) {held last : UInt64} :
    digits.foldlM shiftIn? held = some last ↔
      last.toNat = held.toNat * 10 ^ digits.length + decimal digits := by
  induction digits generalizing held with
  | nil => simp [decimal, ← UInt64.toNat_inj, eq_comm]
  | cons c digits ih =>
    have places : held.toNat * 10 ^ (c :: digits).length + decimal (c :: digits) =
        (held.toNat * 10 + digitValue c) * 10 ^ digits.length + decimal digits := by
      rw [decimal, List.length_cons, Nat.pow_succ]
      ring
    simp only [List.foldlM_cons, bind, Option.bind_eq_some_iff, shiftIn?_eq_some_iff, ih, places]
    constructor
    · rintro ⟨next, step, value⟩
      rw [value, step]
    · intro value
      -- What is held only grows from here on, so it fits if the whole number does.
      have grows : held.toNat * 10 + digitValue c ≤ last.toNat := by
        rw [value]
        exact (Nat.le_mul_of_pos_right _ (Nat.pow_pos (by decide))).trans (Nat.le_add_right ..)
      obtain ⟨next, step⟩ := exists_toNat_eq last grows
      exact ⟨next, step, by rw [value, step]⟩

lemma fill?_eq_some_iff {digits : List Char} {w : UInt64} :
    fill? digits = some w ↔ w.toNat = decimal digits := by
  rw [fill?, foldlM_shiftIn?, UInt64.toNat_zero, Nat.zero_mul, Nat.zero_add]

/-- Reading a numeral comes to filling a word with its digits. -/
lemma Numeral.word?_eq {text : String} {digits : List Char} (numeral : Numeral text digits) :
    word? text = (fill? digits).map UInt64.toNat := by
  apply Option.ext
  intro n
  rw [word?_eq_some_iff_numeral, Option.map_eq_some_iff]
  simp only [fill?_eq_some_iff]
  constructor
  · rintro ⟨digits', numeral', rfl, small⟩
    obtain rfl := numeral.unique numeral'
    exact ⟨UInt64.ofNat (decimal digits), UInt64.toNat_ofNat_of_lt' small,
      UInt64.toNat_ofNat_of_lt' small⟩
  · rintro ⟨w, value, rfl⟩
    exact ⟨digits, numeral, value.symm, w.toNat_lt⟩

/-! ### The override -/

section

variable {env : Environment} {config : Config} {n : Nat}

lemma givesTimeout_iff : GivesTimeout env n ↔ (env "HOSTDASH_TIMEOUT").bind word? = some n := by
  simp only [GivesTimeout, Option.bind_eq_some_iff, word?_eq_some_iff_numeral, exists_and_left]

lemma timeoutSeconds_of_gives (gives : GivesTimeout env n) :
    (config.withOverrides env).timeoutSeconds = n := by
  rw [withOverrides, givesTimeout_iff.mp gives, Option.getD_some]

lemma timeoutSeconds_of_not_gives (nothing : ¬∃ n, GivesTimeout env n) :
    (config.withOverrides env).timeoutSeconds = config.timeoutSeconds := by
  have unread : (env "HOSTDASH_TIMEOUT").bind word? = none := by
    apply Option.eq_none_iff_forall_ne_some.mpr
    intro n read
    exact nothing ⟨n, givesTimeout_iff.mpr read⟩
  rw [withOverrides, unread, Option.getD_none]

/-- Only a variable that gives the number makes it the timeout whatever was there before. -/
lemma gives_of_always
    (always : ∀ before < 2 ^ 64,
      ({ config with timeoutSeconds := before }.withOverrides env).timeoutSeconds = n) :
    GivesTimeout env n := by
  by_cases something : ∃ m, GivesTimeout env m
  · obtain ⟨m, gives⟩ := something
    obtain rfl : m = n := (timeoutSeconds_of_gives gives).symm.trans (always 0 (by decide))
    exact gives
  · have zero : 0 = n := (timeoutSeconds_of_not_gives something).symm.trans (always 0 (by decide))
    have one : 1 = n := (timeoutSeconds_of_not_gives something).symm.trans (always 1 (by decide))
    omega

/-- The other settings do not depend on the variable for the timeout. -/
lemma withOverrides_of_others {env' : Environment}
    (others : ∀ name ≠ "HOSTDASH_TIMEOUT", env' name = env name) :
    config.withOverrides env' =
      { config.withOverrides env with
        timeoutSeconds := (config.withOverrides env').timeoutSeconds } := by
  simp only [withOverrides]
  rw [others "HOSTDASH_BASE_URL" (by decide), others "HOSTDASH_HOSTS_PATH" (by decide),
    others "HOSTDASH_LOGS_PATH" (by decide), others "RUST_LOG" (by decide),
    others "HOSTDASH_LOG" (by decide)]

end

/-- The override of the timeout, for every environment and every configuration. A number becomes the
timeout, whatever was configured before, exactly if the variable spells it in decimal digits,
perhaps behind a plus sign, and it is below `2 ^ 64`. With any other text, and without the variable,
the timeout is kept. The number is the one that a word of 64 bits holds after all digits, and digits
that overflow the word somewhere give none. No other setting depends on the variable. -/
theorem timeout_override_never_wraps (env : Environment) (config : Config) :
    (∀ n, (∀ before < 2 ^ 64,
        ({ config with timeoutSeconds := before }.withOverrides env).timeoutSeconds = n) ↔
      GivesTimeout env n) ∧
    (∀ n, GivesTimeout env n → (config.withOverrides env).timeoutSeconds = n) ∧
    ((¬∃ n, GivesTimeout env n) →
      (config.withOverrides env).timeoutSeconds = config.timeoutSeconds) ∧
    (∀ text digits, env "HOSTDASH_TIMEOUT" = some text → Numeral text digits →
      (config.withOverrides env).timeoutSeconds =
        ((fill? digits).map UInt64.toNat).getD config.timeoutSeconds) ∧
    ∀ env' : Environment, (∀ name ≠ "HOSTDASH_TIMEOUT", env' name = env name) →
      config.withOverrides env' =
        { config.withOverrides env with
          timeoutSeconds := (config.withOverrides env').timeoutSeconds } := by
  refine ⟨fun n => ⟨gives_of_always, ?_⟩, fun n => timeoutSeconds_of_gives,
    timeoutSeconds_of_not_gives, ?_, fun env' => withOverrides_of_others⟩
  · intro gives before _
    exact timeoutSeconds_of_gives gives
  · intro text digits given numeral
    rw [withOverrides, given, Option.bind_some, numeral.word?_eq]

/-- An environment with a timeout and a filter. -/
def timedEnvironment (timeout : String) : Environment := fun name =>
  if name = "HOSTDASH_TIMEOUT" then some timeout
  else if name = "RUST_LOG" then some "warn"
  else none

/-- The largest number of 64 bits, behind a sign and zeros, and the number that follows it. -/
theorem timeout_override_never_wraps_largest :
    let largest := timedEnvironment "+0018446744073709551615"
    let larger := timedEnvironment "18446744073709551616"
    GivesTimeout largest 18446744073709551615 ∧ (¬∃ n, GivesTimeout larger n) ∧
    (default.withOverrides largest).timeoutSeconds = 18446744073709551615 ∧
    (default.withOverrides larger).timeoutSeconds = 10 ∧
    (default.withOverrides larger).timeoutSeconds =
      ((fill? "18446744073709551616".toList).map UInt64.toNat).getD 10 ∧
    default.withOverrides larger = { default.withOverrides largest with timeoutSeconds := 10 } := by
  intro largest larger
  have given : GivesTimeout largest 18446744073709551615 :=
    givesTimeout_iff.mpr (by decide +kernel)
  have refused : ¬∃ n, GivesTimeout larger n := by
    rintro ⟨n, gives⟩
    have unread : (larger "HOSTDASH_TIMEOUT").bind word? = none := by decide +kernel
    cases unread.symm.trans (givesTimeout_iff.mp gives)
  obtain ⟨-, sets, -, -, others⟩ := timeout_override_never_wraps largest default
  obtain ⟨-, -, keeps, filled, -⟩ := timeout_override_never_wraps larger default
  have numeral : Numeral "18446744073709551616" "18446744073709551616".toList :=
    ⟨by decide, by simp, .inl (by decide)⟩
  have kept : (default.withOverrides larger).timeoutSeconds = 10 := keeps refused
  refine ⟨given, refused, sets _ given, kept, filled _ _ rfl numeral, ?_⟩
  rw [← kept]
  apply others
  intro name other
  exact (if_neg other).trans (if_neg other).symm

end HostBoard.Config
