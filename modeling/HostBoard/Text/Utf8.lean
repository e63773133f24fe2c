/-!
# Octets as text

Octets are cut into characters and malformed runs. A malformed run is a longest start of a
character that the next octet breaks off, or a single octet that starts no character. Strict
reading accepts only octets without malformed runs; lenient reading puts the replacement
character in the place of each.
-/

namespace HostBoard.Text

/-- What a leading octet announces: its own bits, and the range of each octet that must follow. -/
def announced (lead : UInt8) : Option (Nat × List (UInt8 × UInt8)) :=
  if lead < 0x80 then some (lead.toNat, [])
  else if lead < 0xC2 then none
  else if lead < 0xE0 then some (lead.toNat % 32, [(0x80, 0xBF)])
  else if lead = 0xE0 then some (0, [(0xA0, 0xBF), (0x80, 0xBF)])
  else if lead = 0xED then some (13, [(0x80, 0x9F), (0x80, 0xBF)])
  else if lead < 0xF0 then some (lead.toNat % 16, [(0x80, 0xBF), (0x80, 0xBF)])
  else if lead = 0xF0 then some (0, [(0x90, 0xBF), (0x80, 0xBF), (0x80, 0xBF)])
  else if lead < 0xF4 then some (lead.toNat % 8, [(0x80, 0xBF), (0x80, 0xBF), (0x80, 0xBF)])
  else if lead = 0xF4 then some (4, [(0x80, 0x8F), (0x80, 0xBF), (0x80, 0xBF)])
  else none

/-- Collect the octets that follow a leading one; stop before the first out of range. -/
def follow : Nat → List (UInt8 × UInt8) → List UInt8 → Option Nat × List UInt8
  | bits, [], octets => (some bits, octets)
  | _, _ :: _, [] => (none, [])
  | bits, (lo, hi) :: ranges, o :: octets =>
    if lo ≤ o && o ≤ hi then follow (bits * 64 + o.toNat % 64) ranges octets
    else (none, o :: octets)

/-- Following octets are only ever taken away. -/
theorem length_follow_le (bits : Nat) (ranges : List (UInt8 × UInt8)) (octets : List UInt8) :
    (follow bits ranges octets).2.length ≤ octets.length := by
  fun_induction follow bits ranges octets with
  | case1 => simp
  | case2 => simp
  | case3 bits lo hi ranges o octets h ih => exact Nat.le_succ_of_le ih
  | case4 => simp

/-- The octets as characters, with `none` for every malformed run. -/
def chunks : List UInt8 → List (Option Char)
  | [] => []
  | o :: octets =>
    match announced o with
    | none => none :: chunks octets
    | some (bits, ranges) =>
      (follow bits ranges octets).1.map Char.ofNat :: chunks (follow bits ranges octets).2
termination_by octets => octets.length
decreasing_by
  · simp
  · exact Nat.lt_succ_of_le (length_follow_le bits ranges octets)

/-- The text that the octets spell, if none of them is malformed. -/
def ofOctets? (octets : List UInt8) : Option String :=
  ((chunks octets).mapM id).map String.ofList

/-- The text that the octets spell, with U+FFFD for every malformed run. -/
def ofOctetsLenient (octets : List UInt8) : String :=
  String.ofList ((chunks octets).map fun chunk => chunk.getD '\uFFFD')

/-- The octets that spell a text. -/
def octets (text : String) : List UInt8 :=
  text.toUTF8.toList

end HostBoard.Text
