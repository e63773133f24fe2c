import HostBoard.Json.Skip
import HostBoard.Proofs.Json.Tokens

/-!
# Reading back strings, words and whole numbers

Strings, words and whole numbers are read back from their compact text, and skipped over it. For a
string the argument goes character by character: `escapedChar_cases` lists the three forms in which
a character can stand, and reading undoes each of them. A whole number within the range of 64-bit
words is read digit by digit without ever passing the limit, so that its digits give its value.

Every lemma speaks of a cursor whose rest starts with the text in question and leaves the cursor
before what follows; the place it has reached plays no part.
-/

namespace HostBoard.Json

variable {c : Cursor} {rest : List Char}

/-! ## Strings -/

/-- A character stands for itself, behind a backslash as a letter, or by its number. -/
lemma escapedChar_cases (ch : Char) :
    (escapedChar ch = [ch] ∧ ch ≠ '"' ∧ ch ≠ '\\' ∧ ¬ch.toNat < 0x20) ∨
    (∃ letter, escapedChar ch = ['\\', letter] ∧ shortEscape? letter = some ch) ∨
    (escapedChar ch = ['\\', 'u', '0', '0', Nat.digitChar (ch.toNat / 16),
      Nat.digitChar (ch.toNat % 16)] ∧ ch.toNat < 0x20) := by
  unfold escapedChar
  split
  · exact .inr (.inl ⟨'"', rfl, rfl⟩)
  · exact .inr (.inl ⟨'\\', rfl, rfl⟩)
  · exact .inr (.inl ⟨'b', rfl, rfl⟩)
  · exact .inr (.inl ⟨'t', rfl, rfl⟩)
  · exact .inr (.inl ⟨'n', rfl, rfl⟩)
  · exact .inr (.inl ⟨'f', rfl, rfl⟩)
  · exact .inr (.inl ⟨'r', rfl, rfl⟩)
  · next quote backslash _ _ _ _ _ =>
    split
    · next small => exact .inr (.inr ⟨rfl, small⟩)
    · next large => exact .inl ⟨rfl, quote, backslash, large⟩

lemma digitsValue?_control :
    ∀ n < 32, Text.digitsValue? 16 ['0', '0', Nat.digitChar (n / 16), Nat.digitChar (n % 16)] =
      some n := by
  decide

lemma hex4_control {n : Nat} (small : n < 32)
    (here : c.rest = '0' :: '0' :: Nat.digitChar (n / 16) :: Nat.digitChar (n % 16) :: rest) :
    ∃ c', hex4 c = .ok (n, c') ∧ c'.rest = rest := by
  refine ⟨c.eat.eat.eat.eat, ?_, ?_⟩
  · rw [hex4, here, hexAhead?, digitsValue?_control n small]
  · simp [Cursor.rest_eat, here]

lemma escape_short {letter out : Char} (here : c.rest = letter :: rest)
    (short : shortEscape? letter = some out) :
    ∃ c', escape c = .ok (out, c') ∧ c'.rest = rest := by
  refine ⟨c.eat, ?_, ?_⟩
  · simp only [escape, here, short]
  · simp [Cursor.rest_eat, here]

lemma escape_control {ch : Char} (small : ch.toNat < 32)
    (here : c.rest = 'u' :: '0' :: '0' :: Nat.digitChar (ch.toNat / 16) ::
      Nat.digitChar (ch.toNat % 16) :: rest) :
    ∃ c', escape c = .ok (ch, c') ∧ c'.rest = rest := by
  have behind : c.eat.rest = '0' :: '0' :: Nat.digitChar (ch.toNat / 16) ::
      Nat.digitChar (ch.toNat % 16) :: rest := by
    rw [Cursor.rest_eat, here]
    rfl
  obtain ⟨c', digits, left⟩ := hex4_control small behind
  refine ⟨c', ?_, left⟩
  have short : shortEscape? 'u' = none := rfl
  simp only [escape, here, short, if_true, hexChar, digits, bind, Except.bind]
  rw [if_neg (by omega), if_pos (by omega), Char.ofNat_toNat]

lemma stringBody_quote {read : List Char} (here : c.rest = '"' :: rest) :
    stringBody read c = .ok (String.ofList read.reverse, c.eat) := by
  rw [stringBody]
  split
  · next e => simp [here] at e
  · next ch tail e =>
    rw [here] at e
    cases e
    rfl

lemma stringBody_escape {read : List Char} {out : Char} {c' : Cursor} (here : c.rest = '\\' :: rest)
    (escaped : escape c.eat = .ok (out, c')) :
    stringBody read c = stringBody (out :: read) c' := by
  rw [stringBody]
  split
  · next e => simp [here] at e
  · next ch tail e =>
    rw [here] at e
    cases e
    rw [if_neg (by decide), if_pos rfl]
    split
    · next fault e => simp [escaped] at e
    · next out' c'' e =>
      rw [escaped] at e
      cases e
      rfl

lemma stringBody_plain {read : List Char} {ch : Char} (here : c.rest = ch :: rest)
    (quote : ch ≠ '"') (backslash : ch ≠ '\\') (large : ¬ch.toNat < 0x20) :
    stringBody read c = stringBody (ch :: read) c.eat := by
  rw [stringBody]
  split
  · next e => simp [here] at e
  · next first tail e =>
    rw [here] at e
    cases e
    rw [if_neg quote, if_neg backslash, if_neg large]

/-- One character of a string is read back from its escaped form. -/
lemma stringBody_escapedChar {read : List Char} (ch : Char)
    (here : c.rest = escapedChar ch ++ rest) :
    ∃ c', stringBody read c = stringBody (ch :: read) c' ∧ c'.rest = rest := by
  -- One case for each form of a character: itself, a letter behind a backslash, four digits.
  rcases escapedChar_cases ch with ⟨form, quote, backslash, large⟩ | ⟨letter, form, short⟩ |
    ⟨form, small⟩ <;> rw [form] at here
  · exact ⟨c.eat, stringBody_plain here quote backslash large, by simp [Cursor.rest_eat, here]⟩
  · have behind : c.eat.rest = letter :: rest := by simp [Cursor.rest_eat, here]
    obtain ⟨c', escaped, left⟩ := escape_short behind short
    exact ⟨c', stringBody_escape here escaped, left⟩
  · have behind : c.eat.rest = 'u' :: '0' :: '0' :: Nat.digitChar (ch.toNat / 16) ::
        Nat.digitChar (ch.toNat % 16) :: rest := by simp [Cursor.rest_eat, here]
    obtain ⟨c', escaped, left⟩ := escape_control small behind
    exact ⟨c', stringBody_escape here escaped, left⟩

lemma stringBody_chars {read : List Char} (chars : List Char)
    (here : c.rest = chars.flatMap escapedChar ++ '"' :: rest) :
    ∃ c', stringBody read c = .ok (String.ofList (read.reverse ++ chars), c') ∧ c'.rest = rest := by
  induction chars generalizing c read with
  | nil =>
    refine ⟨c.eat, ?_, by simp [Cursor.rest_eat, here]⟩
    rw [stringBody_quote here, List.append_nil]
  | cons ch chars ih =>
    rw [List.flatMap_cons, List.append_assoc] at here
    obtain ⟨c₁, one, left⟩ := stringBody_escapedChar ch here
    obtain ⟨c₂, others, behind⟩ := ih left
    refine ⟨c₂, ?_, behind⟩
    rw [one, others, List.reverse_cons, List.append_assoc]
    rfl

/-- A string is read back from its text, behind the opening quote. -/
lemma stringBody_stringChars (s : String) (here : c.rest = stringChars s ++ rest) :
    ∃ c', stringBody [] c.eat = .ok (s, c') ∧ c'.rest = rest := by
  have behind : c.eat.rest = s.toList.flatMap escapedChar ++ '"' :: rest := by
    simp [Cursor.rest_eat, here, stringChars]
  obtain ⟨c', body, left⟩ := stringBody_chars s.toList behind
  rw [List.reverse_nil, List.nil_append, String.ofList_toList] at body
  exact ⟨c', body, left⟩

lemma skipEscape_short {letter out : Char} (here : c.rest = letter :: rest)
    (short : shortEscape? letter = some out) :
    ∃ c', skipEscape c = .ok c' ∧ c'.rest = rest := by
  refine ⟨c.eat, ?_, ?_⟩
  · simp only [skipEscape, here, short]
  · simp [Cursor.rest_eat, here]

lemma skipEscape_control {n : Nat} (small : n < 32)
    (here : c.rest = 'u' :: '0' :: '0' :: Nat.digitChar (n / 16) :: Nat.digitChar (n % 16) :: rest) :
    ∃ c', skipEscape c = .ok c' ∧ c'.rest = rest := by
  have behind : c.eat.rest =
      '0' :: '0' :: Nat.digitChar (n / 16) :: Nat.digitChar (n % 16) :: rest := by
    rw [Cursor.rest_eat, here]
    rfl
  obtain ⟨c', digits, left⟩ := hex4_control small behind
  refine ⟨c', ?_, left⟩
  have short : shortEscape? 'u' = none := rfl
  simp only [skipEscape, here, short, if_true, digits, Functor.map, Except.map]

lemma skipString_quote (here : c.rest = '"' :: rest) : skipString c = .ok c.eat := by
  rw [skipString]
  split
  · next e => simp [here] at e
  · next ch tail e =>
    rw [here] at e
    cases e
    rfl

lemma skipString_escape {c' : Cursor} (here : c.rest = '\\' :: rest)
    (escaped : skipEscape c.eat = .ok c') : skipString c = skipString c' := by
  rw [skipString]
  split
  · next e => simp [here] at e
  · next ch tail e =>
    rw [here] at e
    cases e
    rw [if_neg (by decide), if_pos rfl]
    split
    · next fault e => simp [escaped] at e
    · next c'' e =>
      rw [escaped] at e
      cases e
      rfl

lemma skipString_plain {ch : Char} (here : c.rest = ch :: rest) (quote : ch ≠ '"')
    (backslash : ch ≠ '\\') (large : ¬ch.toNat < 0x20) : skipString c = skipString c.eat := by
  rw [skipString]
  split
  · next e => simp [here] at e
  · next first tail e =>
    rw [here] at e
    cases e
    rw [if_neg quote, if_neg backslash, if_neg large]

lemma skipString_escapedChar (ch : Char) (here : c.rest = escapedChar ch ++ rest) :
    ∃ c', skipString c = skipString c' ∧ c'.rest = rest := by
  rcases escapedChar_cases ch with ⟨form, quote, backslash, large⟩ | ⟨letter, form, short⟩ |
    ⟨form, small⟩ <;> rw [form] at here
  · exact ⟨c.eat, skipString_plain here quote backslash large, by simp [Cursor.rest_eat, here]⟩
  · have behind : c.eat.rest = letter :: rest := by simp [Cursor.rest_eat, here]
    obtain ⟨c', escaped, left⟩ := skipEscape_short behind short
    exact ⟨c', skipString_escape here escaped, left⟩
  · have behind : c.eat.rest = 'u' :: '0' :: '0' :: Nat.digitChar (ch.toNat / 16) ::
        Nat.digitChar (ch.toNat % 16) :: rest := by simp [Cursor.rest_eat, here]
    obtain ⟨c', escaped, left⟩ := skipEscape_control small behind
    exact ⟨c', skipString_escape here escaped, left⟩

lemma skipString_chars (chars : List Char)
    (here : c.rest = chars.flatMap escapedChar ++ '"' :: rest) :
    ∃ c', skipString c = .ok c' ∧ c'.rest = rest := by
  induction chars generalizing c with
  | nil => exact ⟨c.eat, skipString_quote here, by simp [Cursor.rest_eat, here]⟩
  | cons ch chars ih =>
    rw [List.flatMap_cons, List.append_assoc] at here
    obtain ⟨c₁, one, left⟩ := skipString_escapedChar ch here
    obtain ⟨c₂, others, behind⟩ := ih left
    exact ⟨c₂, one.trans others, behind⟩

lemma skipString_stringChars (s : String) (here : c.rest = stringChars s ++ rest) :
    ∃ c', skipString c.eat = .ok c' ∧ c'.rest = rest := by
  have behind : c.eat.rest = s.toList.flatMap escapedChar ++ '"' :: rest := by
    simp [Cursor.rest_eat, here, stringChars]
  exact skipString_chars s.toList behind

/-! ## Words -/

lemma word_append (letters : List Char) (here : c.rest = letters ++ rest) :
    ∃ c', word letters c = .ok c' ∧ c'.rest = rest := by
  induction letters generalizing c with
  | nil => exact ⟨c, rfl, here⟩
  | cons letter letters ih =>
    have behind : c.eat.rest = letters ++ rest := by simp [Cursor.rest_eat, here]
    obtain ⟨c', others, left⟩ := ih behind
    refine ⟨c', ?_, left⟩
    rw [List.cons_append] at here
    simp only [word, here, if_true, others]

/-! ## Whole numbers -/

/-- Only zero is written with a zero in front. -/
lemma toDigits_eq_or_head (n : Nat) :
    Nat.toDigits 10 n = ['0'] ∨ ∃ d digits, Nat.toDigits 10 n = d :: digits ∧ d ≠ '0' := by
  induction n using Nat.strongRecOn with
  | ind n ih =>
    by_cases small : n < 10
    · rw [Nat.toDigits_of_lt_base small]
      have single : ∀ n < 10, n.digitChar = '0' ∨ n.digitChar ≠ '0' := by decide
      rcases single n small with zero | other
      · exact .inl (by rw [zero])
      · exact .inr ⟨_, [], rfl, other⟩
    · rw [Nat.toDigits_of_base_le (by decide) (Nat.le_of_not_lt small)]
      rcases ih (n / 10) (by omega) with zero | ⟨d, digits, form, other⟩
      · -- The digits in front cannot be a single zero, for they make up a number above zero.
        have back : Nat.ofDigitChars 10 (Nat.toDigits 10 (n / 10)) 0 = n / 10 :=
          Nat.ofDigitChars_ten_toDigits
        rw [zero] at back
        have none : n / 10 = 0 := back.symm
        omega
      · exact .inr ⟨d, digits ++ [(n % 10).digitChar], by rw [form, List.cons_append], other⟩

lemma isDigit_toDigits (n : Nat) : ∀ d ∈ Nat.toDigits 10 n, d.isDigit :=
  fun _ among => Nat.isDigit_of_mem_toDigits (by decide) (by decide) among

lemma exists_toDigits (n : Nat) :
    ∃ d digits, Nat.toDigits 10 n = d :: digits ∧ d.isDigit := by
  cases form : Nat.toDigits 10 n with
  | nil => exact absurd form Nat.toDigits_ne_nil
  | cons d digits =>
    exact ⟨d, digits, rfl, isDigit_toDigits n d (by rw [form]; exact List.mem_cons_self)⟩

/-- A run of digits ends where what follows is no digit. -/
lemma digitRun_append {digits : List Char} (all : ∀ d ∈ digits, d.isDigit)
    (ends : NumeralEnds rest) (here : c.rest = digits ++ rest) :
    ∃ c', digitRun c = (digits, c') ∧ c'.rest = rest := by
  have none_taken : rest.takeWhile Char.isDigit = [] := by
    cases rest with
    | nil => rfl
    | cons ch rest => simp [(ends ch rest rfl).1]
  have none_dropped : rest.dropWhile Char.isDigit = rest := by
    cases rest with
    | nil => rfl
    | cons ch rest => simp [(ends ch rest rfl).1]
  refine ⟨c.skipWhile Char.isDigit, ?_, ?_⟩
  · rw [digitRun, here, List.takeWhile_append_of_pos all, none_taken, List.append_nil]
  · rw [Cursor.rest_skipWhile, here, List.dropWhile_append_of_pos all, none_dropped]

lemma scanWhole_toDigits (atEnd : Cause) (n : Nat) (ends : NumeralEnds rest)
    (here : c.rest = Nat.toDigits 10 n ++ rest) :
    ∃ c', scanWhole atEnd c = .ok (Nat.toDigits 10 n, c') ∧ c'.rest = rest := by
  rcases toDigits_eq_or_head n with zero | ⟨d, digits, form, other⟩
  · rw [zero, List.singleton_append] at here
    have alone : (rest.head?.map Char.isDigit).getD false = false := by
      cases rest with
      | nil => rfl
      | cons ch rest => exact (ends ch rest rfl).1
    refine ⟨c.eat, ?_, by simp [Cursor.rest_eat, here]⟩
    simp only [scanWhole, here, alone, zero, Bool.false_eq_true, if_false]
  · obtain ⟨c', run, left⟩ := digitRun_append (isDigit_toDigits n) ends here
    have digit : d.isDigit := isDigit_toDigits n d (by rw [form]; exact List.mem_cons_self)
    refine ⟨c', ?_, left⟩
    rw [form, List.cons_append] at here
    unfold scanWhole
    split
    · next e => simp [here] at e
    · next tail e =>
      rw [here] at e
      exact absurd (List.cons.inj e).1 other
    · next first tail _ e =>
      rw [here] at e
      cases e
      rw [if_pos digit, run]

/-- The digits of a whole number are all of its numeral. -/
lemma scan_toDigits (atEnd : Cause) (negative : Bool) (n : Nat) (ends : NumeralEnds rest)
    (here : c.rest = Nat.toDigits 10 n ++ rest) :
    ∃ c', Numeral.scan atEnd negative c = .ok (⟨negative, Nat.toDigits 10 n, none, none⟩, c') ∧
      c'.rest = rest := by
  obtain ⟨c', whole, left⟩ := scanWhole_toDigits atEnd n ends here
  have fraction : scanFraction atEnd c' = .ok (none, c') := by
    unfold scanFraction
    split
    · next tail e => exact absurd rfl (ends _ _ (left ▸ e)).2.1
    · rfl
  have exponent : scanExponent atEnd c' = .ok (none, c') := by
    rw [scanExponent, left, if_neg]
    cases rest with
    | nil => simp
    | cons ch rest => simpa using (ends ch rest rfl).2.2
  refine ⟨c', ?_, left⟩
  simp only [Numeral.scan, whole, fraction, exponent, bind, Except.bind, pure, Except.pure]

lemma le_ofDigitChars (digits : List Char) (n : Nat) : n ≤ Nat.ofDigitChars 10 digits n := by
  induction digits generalizing n with
  | nil => exact Nat.le_of_eq Nat.ofDigitChars_nil.symm
  | cons d digits ih =>
    rw [Nat.ofDigitChars_cons]
    exact Nat.le_trans (by omega) (ih _)

/-- All digits are gathered if their number stays within the limit. -/
lemma gather_ofDigitChars {limit : Nat} (digits : List Char) {n : Nat}
    (within : Nat.ofDigitChars 10 digits n ≤ limit) :
    gather limit n digits = (Nat.ofDigitChars 10 digits n, []) := by
  induction digits generalizing n with
  | nil => rw [gather, Nat.ofDigitChars_nil]
  | cons d digits ih =>
    rw [Nat.ofDigitChars_cons, Nat.mul_comm] at within
    have next : n * 10 + (d.toNat - 48) ≤ limit := Nat.le_trans (le_ofDigitChars digits _) within
    rw [Nat.ofDigitChars_cons, Nat.mul_comm, gather, if_pos next]
    exact ih within

lemma value_toDigits (negative : Bool) {n : Nat} (within : n ≤ maxWord) :
    Numeral.value ⟨negative, Nat.toDigits 10 n, none, none⟩ c =
      .ok (Numeral.wholeValue ⟨negative, Nat.toDigits 10 n, none, none⟩ n) := by
  have back : Nat.ofDigitChars 10 (Nat.toDigits 10 n) 0 = n := Nat.ofDigitChars_ten_toDigits
  have gathered : gather maxWord 0 (Nat.toDigits 10 n) = (n, []) := by
    rw [gather_ofDigitChars _ (by rw [back]; exact within), back]
  simp [Numeral.value, Numeral.significand, gathered, gather]

lemma read_toDigits (negative : Bool) {n : Nat} (within : n ≤ maxWord) (ends : NumeralEnds rest)
    (here : c.rest = Nat.toDigits 10 n ++ rest) :
    ∃ c', Numeral.read negative c =
      .ok (Numeral.wholeValue ⟨negative, Nat.toDigits 10 n, none, none⟩ n, c') ∧ c'.rest = rest := by
  obtain ⟨c', scanned, left⟩ := scan_toDigits .endInValue negative n ends here
  refine ⟨c', ?_, left⟩
  simp only [Numeral.read, scanned, value_toDigits negative within, bind, Except.bind, pure,
    Except.pure]

lemma skip_toDigits (n : Nat) (ends : NumeralEnds rest)
    (here : c.rest = Nat.toDigits 10 n ++ rest) :
    ∃ c', Numeral.skip c = .ok c' ∧ c'.rest = rest := by
  obtain ⟨c', scanned, left⟩ := scan_toDigits .badNumber false n ends here
  refine ⟨c', ?_, left⟩
  simp only [Numeral.skip, scanned, bind, Except.bind, pure, Except.pure]

/-! ## Values that are no containers -/

/-- The value is no container. -/
def IsScalar : Json → Prop
  | .array _ => False
  | .object _ => False
  | _ => True

/-- A numeral starts with a digit, and no other value does. -/
lemma scalar?_digit {d : Char} (here : c.rest = d :: rest) (digit : d.isDigit) :
    scalar? c = some do
      let (n, c) ← Numeral.read false c
      return (.number n, c) := by
  unfold scalar?
  split
  case h_7 ch tail _ _ _ _ _ e =>
    rw [here] at e
    cases e
    exact if_pos digit
  case h_1 e => simp [here] at e
  all_goals
    next e =>
    rw [here] at e
    cases e
    exact absurd digit (by decide)

lemma skipScalar_digit {d : Char} (here : c.rest = d :: rest) (digit : d.isDigit) :
    skipScalar c = some <$> Numeral.skip c := by
  unfold skipScalar
  split
  case h_9 ch tail _ _ _ _ _ _ _ e =>
    rw [here] at e
    cases e
    exact if_pos digit
  case h_1 e => simp [here] at e
  all_goals
    next e =>
    rw [here] at e
    cases e
    exact absurd digit (by decide)

/-- A whole number that fits into a word is read back. -/
lemma scalar?_int {n : Int} (fits : FitsWord (.number (.int n))) (ends : NumeralEnds rest)
    (here : c.rest = intChars n ++ rest) :
    ∃ c', scalar? c = some (.ok (.number (.int n), c')) ∧ c'.rest = rest := by
  obtain ⟨low, high⟩ := fits
  have half : Nat.pow 2 63 ≤ maxWord := by decide
  have within : n.natAbs ≤ maxWord := by omega
  rw [intChars] at here
  split at here
  · next below =>
    have behind : c.eat.rest = Nat.toDigits 10 n.natAbs ++ rest := by simp [Cursor.rest_eat, here]
    obtain ⟨c', read, left⟩ := read_toDigits true within ends behind
    have signed : Numeral.wholeValue ⟨true, Nat.toDigits 10 n.natAbs, none, none⟩ n.natAbs =
        .int n := by
      have small : 0 < n.natAbs ∧ n.natAbs ≤ Nat.pow 2 63 := by omega
      rw [Numeral.wholeValue, if_neg (by simp), if_pos small]
      congr
      omega
    refine ⟨c', ?_, left⟩
    rw [List.cons_append] at here
    simp only [scalar?, here, read, signed, bind, Except.bind, pure, Except.pure]
  · next above =>
    obtain ⟨c', read, left⟩ := read_toDigits false within ends here
    have unsigned : Numeral.wholeValue ⟨false, Nat.toDigits 10 n.natAbs, none, none⟩ n.natAbs =
        .int n := by
      rw [Numeral.wholeValue, if_pos (by simp)]
      congr
      omega
    refine ⟨c', ?_, left⟩
    obtain ⟨d, digits, form, digit⟩ := exists_toDigits n.natAbs
    rw [form, List.cons_append] at here
    rw [scalar?_digit here digit, read, unsigned]
    rfl

lemma skipScalar_int (n : Int) (ends : NumeralEnds rest) (here : c.rest = intChars n ++ rest) :
    ∃ c', skipScalar c = .ok (some c') ∧ c'.rest = rest := by
  rw [intChars] at here
  split at here
  · have behind : c.eat.rest = Nat.toDigits 10 n.natAbs ++ rest := by simp [Cursor.rest_eat, here]
    obtain ⟨c', skipped, left⟩ := skip_toDigits n.natAbs ends behind
    refine ⟨c', ?_, left⟩
    rw [List.cons_append] at here
    simp only [skipScalar, here, skipped, Functor.map, Except.map]
  · obtain ⟨c', skipped, left⟩ := skip_toDigits n.natAbs ends here
    refine ⟨c', ?_, left⟩
    obtain ⟨d, digits, form, digit⟩ := exists_toDigits n.natAbs
    rw [form, List.cons_append] at here
    rw [skipScalar_digit here digit, skipped]
    rfl

/-- Every value that is no container is read back from its text. -/
lemma scalar?_chars {v : Json} (scalar : v.IsScalar) (fits : v.FitsWord) (whole : v.NoDouble)
    (ends : NumeralEnds rest) (here : c.rest = v.chars ++ rest) :
    ∃ c', scalar? c = some (.ok (v, c')) ∧ c'.rest = rest := by
  cases v with
  | null =>
    have behind : c.eat.rest = ['u', 'l', 'l'] ++ rest := by simp [Cursor.rest_eat, here, chars]
    obtain ⟨c', read, left⟩ := word_append _ behind
    rw [chars, List.cons_append] at here
    exact ⟨c', by simp only [scalar?, here, read]; rfl, left⟩
  | bool b =>
    cases b with
    | true =>
      have behind : c.eat.rest = ['r', 'u', 'e'] ++ rest := by simp [Cursor.rest_eat, here, chars]
      obtain ⟨c', read, left⟩ := word_append _ behind
      rw [chars, List.cons_append] at here
      exact ⟨c', by simp only [scalar?, here, read]; rfl, left⟩
    | false =>
      have behind : c.eat.rest = ['a', 'l', 's', 'e'] ++ rest := by
        simp [Cursor.rest_eat, here, chars]
      obtain ⟨c', read, left⟩ := word_append _ behind
      rw [chars, List.cons_append] at here
      exact ⟨c', by simp only [scalar?, here, read]; rfl, left⟩
  | number n =>
    cases n with
    | int n => exact scalar?_int fits ends here
    | float x => exact whole.elim
  | string s =>
    obtain ⟨c', read, left⟩ := stringBody_stringChars s here
    rw [chars, stringChars, List.cons_append] at here
    exact ⟨c', by simp only [scalar?, here, read]; rfl, left⟩
  | array => exact scalar.elim
  | object => exact scalar.elim

/-- Every value that is no container is skipped over its text. -/
lemma skipScalar_chars {v : Json} (scalar : v.IsScalar) (whole : v.NoDouble)
    (ends : NumeralEnds rest) (here : c.rest = v.chars ++ rest) :
    ∃ c', skipScalar c = .ok (some c') ∧ c'.rest = rest := by
  cases v with
  | null =>
    have behind : c.eat.rest = ['u', 'l', 'l'] ++ rest := by simp [Cursor.rest_eat, here, chars]
    obtain ⟨c', read, left⟩ := word_append _ behind
    rw [chars, List.cons_append] at here
    exact ⟨c', by simp only [skipScalar, here, read]; rfl, left⟩
  | bool b =>
    cases b with
    | true =>
      have behind : c.eat.rest = ['r', 'u', 'e'] ++ rest := by simp [Cursor.rest_eat, here, chars]
      obtain ⟨c', read, left⟩ := word_append _ behind
      rw [chars, List.cons_append] at here
      exact ⟨c', by simp only [skipScalar, here, read]; rfl, left⟩
    | false =>
      have behind : c.eat.rest = ['a', 'l', 's', 'e'] ++ rest := by
        simp [Cursor.rest_eat, here, chars]
      obtain ⟨c', read, left⟩ := word_append _ behind
      rw [chars, List.cons_append] at here
      exact ⟨c', by simp only [skipScalar, here, read]; rfl, left⟩
  | number n =>
    cases n with
    | int n => exact skipScalar_int n ends here
    | float x => exact whole.elim
  | string s =>
    obtain ⟨c', read, left⟩ := skipString_stringChars s here
    rw [chars, stringChars, List.cons_append] at here
    exact ⟨c', by simp only [skipScalar, here, read]; rfl, left⟩
  | array => exact scalar.elim
  | object => exact scalar.elim

end HostBoard.Json
