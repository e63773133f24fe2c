import HostBoard.Proofs.Json.LastWins
import HostBoard.Proofs.Payload.RoundTrip
import HostBoard.Proofs.Text.Octets

/-!
# Served locations are canonical

A descriptor may be written with the members of its served locations in any order, with keys that
come more than once, and with blanks between its tokens (`Spells`). Decoding gives the canonical
form of what was written (`HostDescriptor.decode_of_spread`), so the outcome is what is left when
every object keeps the last member of each key, in ascending order of the octets of keys, and no
other order of members and no blanks change it.
-/

namespace HostBoard

/-- Its keys ascend by their octets, if the value is an object. -/
def Json.OctetsAscend : Json → Prop
  | .object members => members.Pairwise fun a b => Text.octets a.1 < Text.octets b.1
  | _ => True

lemma Json.octetsAscend_iff {v : Json} : v.OctetsAscend ↔ v.KeysAscend := by
  cases v with
  | object members => simp only [OctetsAscend, KeysAscend, Sorted, Text.octets_lt_iff]
  | _ => exact Iff.rfl

/-- Tokens with a space before each of them. -/
lemma Json.spread_spaced (tokens : List Token) : Spread tokens (tokens.flatMap (' ' :: ·)) := by
  induction tokens with
  | nil => exact .nil nofun
  | cons token tokens ih =>
    exact .cons (List.forall_mem_singleton.mpr rfl : ∀ ch ∈ [' '], Cursor.isBlank ch) ih

namespace HostDescriptor

/-- The body spells the descriptor as it is written, with any blanks between its tokens. Its served
locations have no doubles, which whole numbers beyond 64 bits would be read as, and may be nested so
deeply that one more container, the descriptor, is within the limit. -/
structure Spells (written : HostDescriptor) (body : String) : Prop where
  ranged : (Json.object written.paths).Ranged
  whole : (Json.object written.paths).Whole
  shallow : (Json.object written.paths).depth < Json.nestingLimit
  spread : Json.Spread written.toJson.tokens body.toList

lemma Spells.decode {written : HostDescriptor} {body : String} (spells : Spells written body)
    (url : String) : HostDescriptor.decode url body =
      .ok { written with paths := Json.canonicalMembers written.paths } :=
  decode_of_spread spells.ranged spells.whole (Nat.le_of_lt_succ spells.shallow) spells.spread url

/-- Served locations are decoded to the last member of each key at every depth, in ascending order
of octets, and are printed so; members of different keys in another order, and blanks between
tokens, make no difference. -/
theorem paths_are_canonical {written : HostDescriptor} {body : String}
    (spells : Spells written body) (url : String) :
    ∃ paths : Paths,
      decode url body = .ok { written with paths := paths } ∧
      Json.Arranged (Json.object written.paths).keepLast (.object paths) ∧
      (Json.object paths).Everywhere Json.OctetsAscend ∧
      paths.text.toList = (Json.object paths).tokens.flatten ∧
      ∀ (other : HostDescriptor) (otherUrl otherBody : String),
        Json.Reordered (.object written.paths) (.object other.paths) →
        Spells other otherBody →
        decode otherUrl otherBody = .ok { other with paths := paths } := by
  have accepted := spells.decode url
  refine ⟨_, accepted, Json.arranged_keepLast (.object written.paths), ?_, ?_, ?_⟩
  · intro part inside
    exact Json.octetsAscend_iff.mpr ((paths_fit accepted).ascending part inside)
  · rw [Json.flatten_tokens, Paths.text, Json.compact, String.toList_ofList]
  · intro other otherUrl otherBody reordered spells'
    have same : Json.canonicalMembers written.paths = Json.canonicalMembers other.paths :=
      Json.object.inj reordered.canonical_eq
    rw [same]
    exact spells'.decode otherUrl

/-- A descriptor with keys that come twice at two depths, some of them out of order. -/
def scattered : HostDescriptor where
  name := "web"
  status := "up"
  paths := [("/b", .null),
    ("/é", .array [.object [("y", .bool true), ("x", .number (.int 1)), ("y", .bool false)]]),
    ("/b", .string "last"), ("/a", .null)]

/-- The same descriptor with members of different keys in another order. -/
def shuffled : HostDescriptor where
  name := "web"
  status := "up"
  paths := [("/é", .array [.object [("x", .number (.int 1)), ("y", .bool true),
      ("y", .bool false)]]),
    ("/b", .null), ("/b", .string "last"), ("/a", .null)]

/-- The scattered descriptor, spelled with spaces, and the shuffled one, without, come to the same:
the last members, in order. -/
theorem paths_are_canonical_scattered :
    decode "http://a" (String.ofList (scattered.toJson.tokens.flatMap (' ' :: ·))) =
      decode "http://b" shuffled.toJson.compact ∧
    decode "http://b" shuffled.toJson.compact = .ok ⟨"web", "up",
      [("/a", .null), ("/b", .string "last"),
        ("/é", .array [.object [("x", .number (.int 1)), ("y", .bool false)]])]⟩ := by
  have spells : Spells scattered (String.ofList (scattered.toJson.tokens.flatMap (' ' :: ·))) := by
    refine ⟨by decide, by decide, by decide, ?_⟩
    rw [String.toList_ofList]
    exact Json.spread_spaced _
  have spells' : Spells shuffled shuffled.toJson.compact :=
    ⟨by decide, by decide, by decide, Json.spread_compact _⟩
  have reordered : Json.Reordered (.object scattered.paths) (.object shuffled.paths) := by
    have outside := @Json.Exchange.swap [] (scattered.paths.drop 2) "/b" .null "/é"
      (.array [.object [("y", .bool true), ("x", .number (.int 1)), ("y", .bool false)]])
      (by decide)
    have inside := @Json.Exchange.swap [] [("y", .bool false)] "y" (.bool true) "x"
      (.number (.int 1)) (by decide)
    have within := @Json.Exchange.member [] (("/b", .null) :: scattered.paths.drop 2) "/é" _ _
      (@Json.Exchange.item [] [] _ _ inside)
    exact (Relation.ReflTransGen.single outside).tail within
  obtain ⟨paths, accepted, -, -, -, others⟩ := paths_are_canonical spells "http://a"
  have accepted' := others shuffled "http://b" shuffled.toJson.compact reordered spells'
  exact ⟨accepted.trans accepted'.symm, spells'.decode "http://b"⟩

end HostDescriptor

end HostBoard
