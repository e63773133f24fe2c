import HostBoard.Proofs.Text.Octets

/-!
# Strict reading of octets

Octets spell a text exactly if they are the octets of that text (`ofOctets?_eq_some_iff`), so octets
that are not read spell no text at all. A leading octet says how many octets follow it and in which
ranges they are. The ranges of the second octet leave out the numbers that have a shorter form and
those that are no characters: what can be read behind a leading octet is told by the number alone
(`leads_three`, `leads_four`), and it is the form of the character with that number
(`leads_iff_form`).
-/

namespace HostBoard.Text

open String (utf8EncodeChar)

/-! ### Leading octets and what follows them -/

/-- A number is read from a leading octet and those behind it. -/
def Leads (a : UInt8) (octets : List UInt8) (n : Nat) (rest : List UInt8) : Prop :=
  ∃ bits ranges, announced a = some (bits, ranges) ∧ follow bits ranges octets = (some n, rest)

/-- An octet that may follow a leading one. -/
def IsTail (o : UInt8) : Prop :=
  128 ≤ o.toNat ∧ o.toNat ≤ 191

section

variable {a : UInt8} {octets rest : List UInt8} {n bits : Nat} {ranges : List (UInt8 × UInt8)}

lemma follow_cons_eq_some {lo hi : UInt8} :
    follow bits ((lo, hi) :: ranges) octets = (some n, rest) ↔
      ∃ o later, octets = o :: later ∧ (lo.toNat ≤ o.toNat ∧ o.toNat ≤ hi.toNat) ∧
        follow (bits * 64 + o.toNat % 64) ranges later = (some n, rest) := by
  cases octets with
  | nil => exact iff_of_false nofun nofun
  | cons o later =>
    rw [follow]
    by_cases within : lo.toNat ≤ o.toNat ∧ o.toNat ≤ hi.toNat
    · have holds : (lo ≤ o && o ≤ hi) = true := by
        simpa [UInt8.le_iff_toNat_le] using within
      rw [if_pos holds]
      constructor
      · intro followed
        exact ⟨o, later, rfl, within, followed⟩
      · rintro ⟨_, _, ⟨⟩, -, followed⟩
        exact followed
    · have fails : ¬(lo ≤ o && o ≤ hi) = true := by
        simpa [UInt8.le_iff_toNat_le] using within
      rw [if_neg fails]
      refine iff_of_false nofun ?_
      rintro ⟨_, _, ⟨⟩, inside, -⟩
      exact within inside

lemma leads_iff_follow (announces : announced a = some (bits, ranges)) :
    Leads a octets n rest ↔ follow bits ranges octets = (some n, rest) := by
  constructor
  · rintro ⟨_, _, same, followed⟩
    cases announces.symm.trans same
    exact followed
  · intro followed
    exact ⟨bits, ranges, announces, followed⟩

/-- What a leading octet announces, by its number. -/
lemma announced_eq (a : UInt8) :
    announced a =
      if a.toNat < 128 then some (a.toNat, [])
      else if a.toNat < 194 then none
      else if a.toNat < 224 then some (a.toNat % 32, [(0x80, 0xBF)])
      else if a.toNat = 224 then some (0, [(0xA0, 0xBF), (0x80, 0xBF)])
      else if a.toNat = 237 then some (13, [(0x80, 0x9F), (0x80, 0xBF)])
      else if a.toNat < 240 then some (a.toNat % 16, [(0x80, 0xBF), (0x80, 0xBF)])
      else if a.toNat = 240 then some (0, [(0x90, 0xBF), (0x80, 0xBF), (0x80, 0xBF)])
      else if a.toNat < 244 then some (a.toNat % 8, [(0x80, 0xBF), (0x80, 0xBF), (0x80, 0xBF)])
      else if a.toNat = 244 then some (4, [(0x80, 0x8F), (0x80, 0xBF), (0x80, 0xBF)])
      else none := by
  simp only [announced, UInt8.lt_iff_toNat_lt, ← UInt8.toNat_inj]
  rfl

lemma leads_one (lead : a.toNat < 128) :
    Leads a octets n rest ↔ octets = rest ∧ a.toNat = n := by
  have announces : announced a = some (a.toNat, []) := by rw [announced_eq, if_pos lead]
  rw [leads_iff_follow announces, follow, Prod.mk.injEq, Option.some.injEq, and_comm]

lemma leads_two (lead : 194 ≤ a.toNat ∧ a.toNat < 224) :
    Leads a octets n rest ↔
      ∃ b, octets = b :: rest ∧ IsTail b ∧ a.toNat % 32 * 64 + b.toNat % 64 = n := by
  have announces : announced a = some (a.toNat % 32, [(0x80, 0xBF)]) := by
    rw [announced_eq, if_neg (by omega), if_neg (by omega), if_pos lead.2]
  simp only [leads_iff_follow announces, follow_cons_eq_some, follow, Prod.mk.injEq,
    Option.some.injEq, UInt8.reduceToNat]
  constructor
  · rintro ⟨b, _, rfl, second, number, rfl⟩
    exact ⟨b, rfl, second, number⟩
  · rintro ⟨b, rfl, second, number⟩
    exact ⟨b, rest, rfl, second, number, rfl⟩

/-- The range of the second of three octets, by the number that is read. -/
lemma announced_three (lead : 224 ≤ a.toNat ∧ a.toNat < 240) :
    ∃ lo hi, announced a = some (a.toNat % 16, [(lo, hi), (0x80, 0xBF)]) ∧
      ∀ b c : UInt8, IsTail c → (lo.toNat ≤ b.toNat ∧ b.toNat ≤ hi.toNat ↔ IsTail b ∧
        2048 ≤ (a.toNat % 16 * 64 + b.toNat % 64) * 64 + c.toNat % 64 ∧
        ((a.toNat % 16 * 64 + b.toNat % 64) * 64 + c.toNat % 64).isValidChar) := by
  by_cases least : a.toNat = 224
  · refine ⟨0xA0, 0xBF, ?_, ?_⟩
    · rw [announced_eq, if_neg (by omega), if_neg (by omega), if_neg (by omega), if_pos least, least]
    · intro b c third
      simp only [IsTail, Nat.isValidChar, UInt8.reduceToNat, least] at third ⊢
      omega
  by_cases surrogate : a.toNat = 237
  · refine ⟨0x80, 0x9F, ?_, ?_⟩
    · rw [announced_eq, if_neg (by omega), if_neg (by omega), if_neg (by omega), if_neg least,
        if_pos surrogate, surrogate]
    · intro b c third
      simp only [IsTail, Nat.isValidChar, UInt8.reduceToNat, surrogate] at third ⊢
      omega
  · refine ⟨0x80, 0xBF, ?_, ?_⟩
    · rw [announced_eq, if_neg (by omega), if_neg (by omega), if_neg (by omega), if_neg least,
        if_neg surrogate, if_pos lead.2]
    · intro b c third
      simp only [IsTail, Nat.isValidChar, UInt8.reduceToNat] at third ⊢
      omega

lemma leads_three (lead : 224 ≤ a.toNat ∧ a.toNat < 240) :
    Leads a octets n rest ↔ ∃ b c, octets = b :: c :: rest ∧ IsTail b ∧ IsTail c ∧
      (a.toNat % 16 * 64 + b.toNat % 64) * 64 + c.toNat % 64 = n ∧ 2048 ≤ n ∧ n.isValidChar := by
  obtain ⟨lo, hi, announces, range⟩ := announced_three lead
  simp only [leads_iff_follow announces, follow_cons_eq_some, follow, Prod.mk.injEq,
    Option.some.injEq, UInt8.reduceToNat]
  constructor
  · rintro ⟨b, _, rfl, second, c, _, rfl, third, rfl, rfl⟩
    obtain ⟨tail, long, valid⟩ := (range b c third).mp second
    exact ⟨b, c, rfl, tail, third, rfl, long, valid⟩
  · rintro ⟨b, c, rfl, second, third, rfl, long, valid⟩
    exact ⟨b, _, rfl, (range b c third).mpr ⟨second, long, valid⟩, c, _, rfl, third, rfl, rfl⟩

/-- The range of the second of four octets, by the number that is read. -/
lemma announced_four (lead : 240 ≤ a.toNat ∧ a.toNat < 245) :
    ∃ lo hi, announced a = some (a.toNat % 8, [(lo, hi), (0x80, 0xBF), (0x80, 0xBF)]) ∧
      ∀ b c d : UInt8, IsTail c → IsTail d → (lo.toNat ≤ b.toNat ∧ b.toNat ≤ hi.toNat ↔ IsTail b ∧
        65536 ≤ ((a.toNat % 8 * 64 + b.toNat % 64) * 64 + c.toNat % 64) * 64 + d.toNat % 64 ∧
        ((a.toNat % 8 * 64 + b.toNat % 64) * 64 + c.toNat % 64) * 64 + d.toNat % 64 < 1114112) := by
  by_cases least : a.toNat = 240
  · refine ⟨0x90, 0xBF, ?_, ?_⟩
    · rw [announced_eq, if_neg (by omega), if_neg (by omega), if_neg (by omega), if_neg (by omega),
        if_neg (by omega), if_neg (by omega), if_pos least, least]
    · intro b c d third fourth
      simp only [IsTail, UInt8.reduceToNat, least] at third fourth ⊢
      omega
  by_cases greatest : a.toNat = 244
  · refine ⟨0x80, 0x8F, ?_, ?_⟩
    · rw [announced_eq, if_neg (by omega), if_neg (by omega), if_neg (by omega), if_neg (by omega),
        if_neg (by omega), if_neg (by omega), if_neg least, if_neg (by omega), if_pos greatest,
        greatest]
    · intro b c d third fourth
      simp only [IsTail, UInt8.reduceToNat, greatest] at third fourth ⊢
      omega
  · refine ⟨0x80, 0xBF, ?_, ?_⟩
    · rw [announced_eq, if_neg (by omega), if_neg (by omega), if_neg (by omega), if_neg (by omega),
        if_neg (by omega), if_neg (by omega), if_neg least, if_pos (by omega)]
    · intro b c d third fourth
      simp only [IsTail, UInt8.reduceToNat] at third fourth ⊢
      omega

lemma leads_four (lead : 240 ≤ a.toNat ∧ a.toNat < 245) :
    Leads a octets n rest ↔ ∃ b c d, octets = b :: c :: d :: rest ∧
      IsTail b ∧ IsTail c ∧ IsTail d ∧
      ((a.toNat % 8 * 64 + b.toNat % 64) * 64 + c.toNat % 64) * 64 + d.toNat % 64 = n ∧
      65536 ≤ n ∧ n < 1114112 := by
  obtain ⟨lo, hi, announces, range⟩ := announced_four lead
  simp only [leads_iff_follow announces, follow_cons_eq_some, follow, Prod.mk.injEq,
    Option.some.injEq, UInt8.reduceToNat]
  constructor
  · rintro ⟨b, _, rfl, second, c, _, rfl, third, d, _, rfl, fourth, rfl, rfl⟩
    obtain ⟨tail, long, small⟩ := (range b c d third fourth).mp second
    exact ⟨b, c, d, rfl, tail, third, fourth, rfl, long, small⟩
  · rintro ⟨b, c, d, rfl, second, third, fourth, rfl, long, small⟩
    exact ⟨b, _, rfl, (range b c d third fourth).mpr ⟨second, long, small⟩, c, _, rfl, third,
      d, _, rfl, fourth, rfl, rfl⟩

lemma lead_of_leads (leads : Leads a octets n rest) :
    a.toNat < 128 ∨ (194 ≤ a.toNat ∧ a.toNat < 224) ∨ (224 ≤ a.toNat ∧ a.toNat < 240) ∨
      (240 ≤ a.toNat ∧ a.toNat < 245) := by
  obtain ⟨bits, ranges, announces, -⟩ := leads
  by_contra other
  have nothing : announced a = none := by
    rcases Nat.lt_or_ge a.toNat 194 with low | high
    · rw [announced_eq, if_neg (by omega), if_pos low]
    · rw [announced_eq, if_neg (by omega), if_neg (by omega), if_neg (by omega), if_neg (by omega),
        if_neg (by omega), if_neg (by omega), if_neg (by omega), if_neg (by omega),
        if_neg (by omega)]
  rw [nothing] at announces
  cases announces

end

/-! ### The forms of characters -/

section

variable {a b c d : UInt8} {n : Nat}

/-- The octets of a character, by its number. -/
def form (n : Nat) : List UInt8 :=
  if n ≤ 127 then [.ofNat n]
  else if n ≤ 2047 then [.ofNat (n / 64 % 32 + 192), .ofNat (n % 64 + 128)]
  else if n ≤ 65535 then
    [.ofNat (n / 4096 % 16 + 224), .ofNat (n / 64 % 64 + 128), .ofNat (n % 64 + 128)]
  else
    [.ofNat (n / 262144 % 8 + 240), .ofNat (n / 4096 % 64 + 128), .ofNat (n / 64 % 64 + 128),
      .ofNat (n % 64 + 128)]

lemma utf8EncodeChar_eq (c : Char) : utf8EncodeChar c = form c.toNat := rfl

lemma ofNat_eq (same : a.toNat = n) : UInt8.ofNat n = a := by
  rw [← same, UInt8.ofNat_toNat]

lemma toNat_lead {base bound : Nat} (fits : bound + base ≤ 256) (n : Nat) (small : n < bound) :
    (UInt8.ofNat (n + base)).toNat = n + base := by
  rw [UInt8.toNat_ofNat']
  omega

lemma toNat_tail (n : Nat) : (UInt8.ofNat (n % 64 + 128)).toNat = n % 64 + 128 := by
  rw [UInt8.toNat_ofNat']
  omega

lemma isTail_tail (n : Nat) : IsTail (.ofNat (n % 64 + 128)) := by
  rw [IsTail, toNat_tail]
  omega

/-- What is read behind a leading octet is the form of a character, whatever follows it. -/
lemma leads_iff_form {octets rest : List UInt8} :
    Leads a octets n rest ↔ n.isValidChar ∧ a :: octets = form n ++ rest := by
  constructor
  · intro leads
    rcases lead_of_leads leads with lead | lead | lead | lead
    · obtain ⟨rfl, rfl⟩ := (leads_one lead).mp leads
      refine ⟨.inl (by omega), ?_⟩
      rw [form, if_pos (by omega), UInt8.ofNat_toNat]
      rfl
    · obtain ⟨b, rfl, second, number⟩ := (leads_two lead).mp leads
      rw [IsTail] at second
      refine ⟨.inl (by omega), ?_⟩
      rw [form, if_neg (by omega), if_pos (by omega), ofNat_eq (show a.toNat = _ by omega),
        ofNat_eq (show b.toNat = _ by omega)]
      rfl
    · obtain ⟨b, c, rfl, second, third, number, long, valid⟩ := (leads_three lead).mp leads
      rw [IsTail] at second third
      refine ⟨valid, ?_⟩
      rw [form, if_neg (by omega), if_neg (by omega), if_pos (by omega),
        ofNat_eq (show a.toNat = _ by omega), ofNat_eq (show b.toNat = _ by omega),
        ofNat_eq (show c.toNat = _ by omega)]
      rfl
    · obtain ⟨b, c, d, rfl, second, third, fourth, number, long, small⟩ :=
        (leads_four lead).mp leads
      rw [IsTail] at second third fourth
      refine ⟨.inr (by omega), ?_⟩
      rw [form, if_neg (by omega), if_neg (by omega), if_neg (by omega),
        ofNat_eq (show a.toNat = _ by omega), ofNat_eq (show b.toNat = _ by omega),
        ofNat_eq (show c.toNat = _ by omega), ofNat_eq (show d.toNat = _ by omega)]
      rfl
  · rintro ⟨valid, formed⟩
    have bound : n < 1114112 := by
      rcases valid with low | high <;> omega
    rw [form] at formed
    split at formed
    · obtain ⟨rfl, rfl⟩ := List.cons.inj formed
      have lead : (UInt8.ofNat n).toNat = n := @toNat_lead 0 128 (by omega) n (by omega)
      exact (leads_one (by omega)).mpr ⟨rfl, lead⟩
    split at formed
    · obtain ⟨rfl, rfl⟩ := List.cons.inj formed
      have lead := @toNat_lead 192 32 (by omega) (n / 64 % 32) (by omega)
      refine (leads_two (by omega)).mpr ⟨_, rfl, isTail_tail n, ?_⟩
      rw [lead, toNat_tail]
      omega
    split at formed
    · obtain ⟨rfl, rfl⟩ := List.cons.inj formed
      have lead := @toNat_lead 224 16 (by omega) (n / 4096 % 16) (by omega)
      refine (leads_three (by omega)).mpr
        ⟨_, _, rfl, isTail_tail (n / 64), isTail_tail n, ?_, by omega, valid⟩
      rw [lead, toNat_tail, toNat_tail]
      omega
    · obtain ⟨rfl, rfl⟩ := List.cons.inj formed
      have lead := @toNat_lead 240 8 (by omega) (n / 262144 % 8) (by omega)
      refine (leads_four (by omega)).mpr
        ⟨_, _, _, rfl, isTail_tail (n / 4096), isTail_tail (n / 64), isTail_tail n, ?_, by omega,
          bound⟩
      rw [lead, toNat_tail, toNat_tail, toNat_tail]
      omega

end

/-! ### Texts -/

lemma chunks_of_leads {a : UInt8} {octets rest : List UInt8} {n : Nat}
    (leads : Leads a octets n rest) : chunks (a :: octets) = some (Char.ofNat n) :: chunks rest := by
  obtain ⟨bits, ranges, announces, followed⟩ := leads
  rw [chunks, announces]
  simp only [followed, Option.map_some]

lemma leads_of_chunks {a : UInt8} {octets : List UInt8} {c : Char} {chars : List (Option Char)}
    (read : chunks (a :: octets) = some c :: chars) :
    ∃ n rest, Leads a octets n rest ∧ Char.ofNat n = c ∧ chunks rest = chars := by
  rw [chunks] at read
  split at read
  · cases read
  · next bits ranges announces =>
    obtain ⟨first, later⟩ := List.cons.inj read
    obtain ⟨n, followed, same⟩ := Option.map_eq_some_iff.mp first
    exact ⟨n, _, ⟨bits, ranges, announces, Prod.ext followed rfl⟩, same, later⟩

lemma chunks_eq_map_some_iff {octets : List UInt8} {cs : List Char} :
    chunks octets = cs.map some ↔ octets = cs.flatMap utf8EncodeChar := by
  induction cs generalizing octets with
  | nil =>
    cases octets with
    | nil => exact iff_of_true (by rw [chunks]; rfl) rfl
    | cons a octets =>
      refine iff_of_false ?_ (List.cons_ne_nil _ _)
      rw [chunks]
      split
      · exact List.cons_ne_nil _ _
      · exact List.cons_ne_nil _ _
  | cons c cs ih =>
    rw [List.map_cons, List.flatMap_cons, utf8EncodeChar_eq]
    constructor
    · intro read
      cases octets with
      | nil =>
        rw [chunks] at read
        cases read
      | cons a octets =>
        obtain ⟨n, rest, leads, rfl, later⟩ := leads_of_chunks read
        obtain ⟨valid, formed⟩ := leads_iff_form.mp leads
        have number : (Char.ofNat n).toNat = n := by
          rw [Char.ofNat, dif_pos valid]
          rfl
        rw [formed, number, ih.mp later]
    · intro formed
      obtain ⟨a, tail, first⟩ := List.exists_cons_of_ne_nil (String.utf8EncodeChar_ne_nil (c := c))
      have leads : Leads a (tail ++ cs.flatMap utf8EncodeChar) c.toNat (cs.flatMap utf8EncodeChar) := by
        refine leads_iff_form.mpr ⟨c.valid, ?_⟩
        rw [← utf8EncodeChar_eq, first]
        rfl
      rw [formed, ← utf8EncodeChar_eq, first, List.cons_append, chunks_of_leads leads,
        Char.ofNat_toNat, ih.mpr rfl]

lemma mapM_id_eq_some_iff {read : List (Option Char)} {cs : List Char} :
    read.mapM id = some cs ↔ read = cs.map some := by
  induction read generalizing cs with
  | nil => cases cs <;> simp
  | cons first read ih =>
    rw [List.mapM_cons]
    constructor
    · intro found
      obtain ⟨c, rfl, later⟩ := Option.bind_eq_some_iff.mp found
      obtain ⟨rest, more, same⟩ := Option.bind_eq_some_iff.mp later
      rw [← Option.some.inj same, ih.mp more]
      rfl
    · intro same
      cases cs with
      | nil => cases same
      | cons c cs =>
        obtain ⟨rfl, rest⟩ := List.cons.inj same
        rw [ih.mpr rest]
        rfl

/-- Octets spell a text exactly if they are its octets. -/
lemma ofOctets?_eq_some_iff {os : List UInt8} {text : String} :
    ofOctets? os = some text ↔ os = octets text := by
  rw [octets_eq, ← chunks_eq_map_some_iff, ← mapM_id_eq_some_iff, ofOctets?, Option.map_eq_some_iff]
  constructor
  · rintro ⟨cs, read, rfl⟩
    rw [String.toList_ofList]
    exact read
  · intro read
    exact ⟨text.toList, read, String.ofList_toList⟩

lemma octets_injective : Function.Injective octets := by
  intro text other same
  have read : ofOctets? (octets text) = some text := ofOctets?_eq_some_iff.mpr rfl
  rw [same, ofOctets?_eq_some_iff.mpr rfl] at read
  exact (Option.some.inj read).symm

end HostBoard.Text
