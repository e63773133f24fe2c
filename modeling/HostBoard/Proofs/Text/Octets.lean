import HostBoard.Text.Utf8
import Mathlib.Data.String.Basic
import Mathlib.Tactic.Lemma

/-!
# Strings and their octets

Strings are compared character by character. Comparing the octets of their encoding instead gives
the same order (`octets_lt_iff`): a character with a longer form leads with a greater octet, and in
forms of one length the octets are digits to the base 64, the most significant first
(`utf8EncodeChar_append_lt`).
-/

namespace HostBoard.Text

open String (utf8EncodeChar)

lemma toList_loop (bytes : ByteArray) (i : Nat) (read : List UInt8) :
    ByteArray.toList.loop bytes i read = read.reverse ++ bytes.data.toList.drop i := by
  fun_induction ByteArray.toList.loop bytes i read with
  | case1 i read inside ih =>
    have next : bytes.data.toList.drop i = bytes.get! i :: bytes.data.toList.drop (i + 1) := by
      rw [List.drop_eq_getElem_cons (by simpa using inside)]
      congr 1
      exact (getElem!_pos bytes.data i inside).symm
    rw [ih, List.reverse_cons, List.append_assoc, next]
    rfl
  | case2 i read outside =>
    rw [List.drop_eq_nil_of_le (by simpa using outside), List.append_nil]

/-- The octets of a string are those of its characters. -/
lemma octets_eq (s : String) : octets s = s.toList.flatMap utf8EncodeChar := by
  rw [octets, ByteArray.toList, toList_loop, String.toUTF8_eq_toByteArray,
    ← String.utf8Encode_toList, List.utf8Encode]
  simp

/-- The greater of two numbers has the greater digit to the base 64 where they first differ. -/
lemma first_digit_lt {v w : Nat} (below : v < w) :
    v / 262144 < w / 262144 ∨ v / 262144 = w / 262144 ∧
      (v / 4096 % 64 < w / 4096 % 64 ∨ v / 4096 % 64 = w / 4096 % 64 ∧
        (v / 64 % 64 < w / 64 % 64 ∨ v / 64 % 64 = w / 64 % 64 ∧ v % 64 < w % 64)) := by
  omega

lemma digit_octet (n : Nat) : (n % 64 + 128) % 2 ^ 8 = n % 64 + 128 := by
  omega

lemma lead_octet {n : Nat} (bound : n < 0x110000) :
    (n / 262144 % 8 + 240) % 2 ^ 8 = n / 262144 + 240 := by
  omega

/-- Of two characters the smaller one has the smaller octets, whatever follows them. -/
lemma utf8EncodeChar_append_lt {c d : Char} (below : c < d) (cs ds : List UInt8) :
    utf8EncodeChar c ++ cs < utf8EncodeChar d ++ ds := by
  have numbers : c.val.toNat < d.val.toNat := below
  have bound : d.val.toNat < 0x110000 := by
    rcases d.valid with small | ⟨-, large⟩
    · exact small.trans (by decide)
    · exact large
  simp only [utf8EncodeChar]
  split_ifs <;>
    simp only [List.cons_append, List.nil_append, List.cons_lt_cons_iff, UInt8.lt_iff_toNat_lt,
      ← UInt8.toNat_inj, UInt8.toNat_ofNat', digit_octet, Nat.add_lt_add_iff_right,
      Nat.add_right_cancel_iff] <;> try omega
  -- Two forms of four octets are left: their first difference has to be found first.
  rw [lead_octet bound, lead_octet (numbers.trans bound), Nat.add_lt_add_iff_right,
    Nat.add_right_cancel_iff]
  rcases first_digit_lt numbers with lead | ⟨lead, second | ⟨second, third | ⟨third, last⟩⟩⟩
  · exact .inl lead
  · exact .inr ⟨lead, .inl second⟩
  · exact .inr ⟨lead, .inr ⟨second, .inl third⟩⟩
  · exact .inr ⟨lead, .inr ⟨second, .inr ⟨third, .inl last⟩⟩⟩

lemma flatMap_utf8EncodeChar_lt {cs ds : List Char} (below : cs < ds) :
    cs.flatMap utf8EncodeChar < ds.flatMap utf8EncodeChar := by
  induction cs generalizing ds with
  | nil =>
    cases ds with
    | nil => exact absurd below (List.lt_irrefl [])
    | cons d ds =>
      obtain ⟨o, os, form⟩ := List.exists_cons_of_ne_nil (String.utf8EncodeChar_ne_nil (c := d))
      rw [List.flatMap_cons, List.flatMap_nil, form]
      exact List.nil_lt_cons o _
  | cons c cs ih =>
    cases ds with
    | nil => exact absurd below (List.not_lt_nil _)
    | cons d ds =>
      rw [List.flatMap_cons, List.flatMap_cons]
      rcases List.cons_lt_cons_iff.mp below with smaller | ⟨rfl, later⟩
      · exact utf8EncodeChar_append_lt smaller _ _
      · exact List.append_left_lt (ih later)

/-- Strings are in order exactly if their octets are. -/
lemma octets_lt_iff {s t : String} : octets s < octets t ↔ s < t := by
  have keeps : ∀ {s t : String}, s < t → octets s < octets t := by
    intro s t below
    rw [octets_eq, octets_eq]
    exact flatMap_utf8EncodeChar_lt below
  constructor
  · intro below
    rcases lt_trichotomy s t with smaller | rfl | greater
    · exact smaller
    · exact absurd below (List.lt_irrefl _)
    · exact absurd below (List.lt_asymm (keeps greater))
  · exact keeps

end HostBoard.Text
