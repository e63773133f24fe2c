import HostBoard.Json.Fault
import HostBoard.Text.Digits

/-!
# Strings and words of a JSON text

A string is read behind its opening quote. Reading decodes the escapes and wants surrogates in
pairs; skipping only checks that escapes are spelled correctly.
-/

namespace HostBoard.Json

/-- The next four characters as hexadecimal digits, if they are. -/
def hexAhead? : List Char → Option Nat
  | a :: b :: c :: d :: _ => Text.digitsValue? 16 [a, b, c, d]
  | _ => none

/-- The fault of a hexadecimal escape: fewer than four octets remain, or they are no digits. -/
def hexFault (c : Cursor) : Fault :=
  if (c.rest.take 4).foldl (fun size ch => size + ch.utf8Size) 0 < 4 then c.toEnd.fault .endInString
  else ⟨.badEscape, c.position.advance 4 c.rest⟩

/-- Read four hexadecimal digits. -/
def hex4 (c : Cursor) : Except Fault (Nat × Cursor) :=
  match hexAhead? c.rest with
  | some n => .ok (n, c.eat.eat.eat.eat)
  | none => .error (hexFault c)

/-- The second half of a surrogate pair must follow; read its escape. -/
def secondHalf (c : Cursor) : Except Fault (Nat × Cursor) :=
  match c.rest with
  | [] => .error (c.fault .endInString)
  | '\\' :: _ =>
    match c.eat.rest with
    | [] => .error (c.eat.fault .endInString)
    | 'u' :: _ => hex4 c.eat.eat
    | _ => .error (c.eat.faultAhead .halfSurrogatePair)
  | _ => .error (c.faultAhead .halfSurrogatePair)

/-- Read the hexadecimal digits of one character: one escape, or two for a surrogate pair. -/
def hexChar (c : Cursor) : Except Fault (Char × Cursor) := do
  let (n, c) ← hex4 c
  if 0xDC00 ≤ n ∧ n ≤ 0xDFFF then .error (c.fault .loneSurrogate)
  else if n < 0xD800 ∨ 0xDBFF < n then .ok (Char.ofNat n, c)
  else
    let (low, c) ← secondHalf c
    if low < 0xDC00 ∨ 0xDFFF < low then .error (c.fault .loneSurrogate)
    else .ok (Char.ofNat (0x10000 + (n - 0xD800) * 0x400 + (low - 0xDC00)), c)

/-- The character that a one-letter escape stands for. -/
def shortEscape? : Char → Option Char
  | '"' => some '"'
  | '\\' => some '\\'
  | '/' => some '/'
  | 'b' => some '\x08'
  | 'f' => some '\x0c'
  | 'n' => some '\n'
  | 'r' => some '\r'
  | 't' => some '\t'
  | _ => none

/-- Read an escape behind its backslash. -/
def escape (c : Cursor) : Except Fault (Char × Cursor) :=
  match c.rest with
  | [] => .error (c.fault .endInString)
  | ch :: _ =>
    match shortEscape? ch with
    | some out => .ok (out, c.eat)
    | none => if ch = 'u' then hexChar c.eat else .error (c.faultAhead .badEscape)

/-- Check an escape behind its backslash. -/
def skipEscape (c : Cursor) : Except Fault Cursor :=
  match c.rest with
  | [] => .error (c.fault .endInString)
  | ch :: _ =>
    match shortEscape? ch with
    | some _ => .ok c.eat
    | none => if ch = 'u' then Prod.snd <$> hex4 c.eat else .error (c.faultAhead .badEscape)

/-- Eating never lengthens what remains. -/
theorem length_rest_eat_le (c : Cursor) : c.eat.rest.length ≤ c.rest.length := by
  simp [Cursor.rest_eat]

theorem hex4_le {c c' : Cursor} {n : Nat} (h : hex4 c = .ok (n, c')) :
    c'.rest.length ≤ c.rest.length := by
  unfold hex4 at h
  split at h
  · injection h with h
    injection h with _ h
    subst h
    simp [Cursor.rest_eat]
    omega
  · injection h

theorem secondHalf_le {c c' : Cursor} {n : Nat} (h : secondHalf c = .ok (n, c')) :
    c'.rest.length ≤ c.rest.length := by
  unfold secondHalf at h
  split at h
  · injection h
  · split at h
    · injection h
    · have inner := Nat.le_trans (length_rest_eat_le c.eat) (length_rest_eat_le c)
      exact Nat.le_trans (hex4_le h) inner
    · injection h
  · injection h

theorem hexChar_le {c c' : Cursor} {ch : Char} (h : hexChar c = .ok (ch, c')) :
    c'.rest.length ≤ c.rest.length := by
  unfold hexChar at h
  cases h4 : hex4 c with
  | error e => simp [h4, bind, Except.bind] at h
  | ok r =>
    simp only [h4, bind, Except.bind] at h
    have le4 := hex4_le h4
    split at h
    · injection h
    · split at h
      · injection h with h
        injection h with _ h
        subst h
        exact le4
      · cases h2 : secondHalf r.2 with
        | error e => simp [h2] at h
        | ok r2 =>
          simp only [h2] at h
          have le2 := secondHalf_le h2
          split at h
          · injection h
          · injection h with h
            injection h with _ h
            subst h
            exact Nat.le_trans le2 le4

/-- An escape takes at least its letter. -/
theorem escape_lt {c c' : Cursor} {ch : Char} (h : escape c = .ok (ch, c')) :
    c'.rest.length < c.rest.length := by
  unfold escape at h
  split at h
  · injection h
  · next x xs hc =>
    have short : c.eat.rest.length < c.rest.length := by simp [Cursor.rest_eat, hc]
    split at h
    · injection h with h
      injection h with _ h
      subst h
      exact short
    · split at h
      · exact Nat.lt_of_le_of_lt (hexChar_le h) short
      · injection h

/-- A checked escape takes at least its letter. -/
theorem skipEscape_lt {c c' : Cursor} (h : skipEscape c = .ok c') :
    c'.rest.length < c.rest.length := by
  unfold skipEscape at h
  split at h
  · injection h
  · next x xs hc =>
    have short : c.eat.rest.length < c.rest.length := by simp [Cursor.rest_eat, hc]
    split at h
    · injection h with h
      subst h
      exact short
    · split at h
      · cases h4 : hex4 c.eat with
        | error e => simp [h4, Functor.map, Except.map] at h
        | ok r =>
          simp only [h4, Functor.map, Except.map] at h
          injection h with h
          subst h
          exact Nat.lt_of_le_of_lt (hex4_le h4) short
      · injection h

/-- Read a string up to its closing quote; `read` holds the characters so far, last first. -/
def stringBody (read : List Char) (c : Cursor) : Except Fault (String × Cursor) :=
  match _ : c.rest with
  | [] => .error (c.fault .endInString)
  | ch :: _ =>
    if ch = '"' then .ok (String.ofList read.reverse, c.eat)
    else if ch = '\\' then
      match _ : escape c.eat with
      | .error fault => .error fault
      | .ok (out, c') => stringBody (out :: read) c'
    else if ch.toNat < 0x20 then .error (c.faultAhead .controlCharacter)
    else stringBody (ch :: read) c.eat
termination_by c.rest.length
decreasing_by
  · exact Nat.lt_of_lt_of_le (escape_lt ‹_›) (length_rest_eat_le c)
  · simp [Cursor.rest_eat, *]

/-- Check a string up to its closing quote. -/
def skipString (c : Cursor) : Except Fault Cursor :=
  match _ : c.rest with
  | [] => .error (c.fault .endInString)
  | ch :: _ =>
    if ch = '"' then .ok c.eat
    else if ch = '\\' then
      match _ : skipEscape c.eat with
      | .error fault => .error fault
      | .ok c' => skipString c'
    else if ch.toNat < 0x20 then .error (c.fault .controlCharacter)
    else skipString c.eat
termination_by c.rest.length
decreasing_by
  · exact Nat.lt_of_lt_of_le (skipEscape_lt ‹_›) (length_rest_eat_le c)
  · simp [Cursor.rest_eat, *]

/-- Read the given characters one by one. -/
def word : List Char → Cursor → Except Fault Cursor
  | [], c => .ok c
  | expected :: more, c =>
    match c.rest with
    | [] => .error (c.fault .endInValue)
    | ch :: _ =>
      if ch = expected then word more c.eat else .error (c.faultAhead .noIdentifier)

end HostBoard.Json
