import HostBoard.Toml.Document
import Mathlib.Tactic.Lemma

/-!
# Whole numbers of a document

Every whole number of a document fits into 64 bits with a sign, however deeply it is nested
(`fits_of_parse`). A numeral that does not fit is refused where it is read (`bounded`), so what is
to be shown is that nothing else makes numbers. Scanners only pass on what they have read
(`Gives`), which is an induction on the budget of nested values (`gives_value`). The statements of a
document only move values into tables (`EntriesFit`), which is an induction on the path that a
header or a dotted key goes down.
-/

namespace HostBoard.Toml

/-- A whole number of 64 bits with a sign. -/
def IsInt64 (n : Int) : Prop :=
  -9223372036854775808 ≤ n ∧ n ≤ 9223372036854775807

/-- All whole numbers in a value fit into 64 bits with a sign. -/
inductive Value.Fits : Value → Prop where
  | string (text : String) : Fits (.string text)
  | integer {n : Int} (small : IsInt64 n) : Fits (.integer n)
  | float : Fits .float
  | boolean (b : Bool) : Fits (.boolean b)
  | moment : Fits .moment
  | array {items : List Value} (each : ∀ item ∈ items, Fits item) : Fits (.array items)
  | table {entries : List (String × Value)} (each : ∀ entry ∈ entries, Fits entry.2) :
      Fits (.table entries)

/-- All whole numbers at a node fit into 64 bits with a sign. -/
inductive Node.Fits : Node → Prop where
  | value {v : Value} (fits : v.Fits) : Fits (.value v)
  | table {origin : Origin} {entries : List (String × Node)}
      (each : ∀ entry ∈ entries, Fits entry.2) : Fits (.table origin entries)
  | tables {front : List (List (String × Node))} {last : List (String × Node)}
      (before : ∀ entries ∈ front, ∀ entry ∈ entries, Fits entry.2)
      (each : ∀ entry ∈ last, Fits entry.2) : Fits (.tables front last)

/-- All whole numbers in an open table fit into 64 bits with a sign. -/
def EntriesFit (entries : Entries) : Prop :=
  ∀ entry ∈ entries, entry.2.Fits

/-- What every step of a run preserves, the whole run preserves. -/
lemma foldlM_preserves {α β : Type} {step : β → α → Option β} {p : β → Prop} {q : α → Prop}
    (preserves : ∀ {b a next}, p b → q a → step b a = some next → p next) {as : List α}
    {start last : β} (first : p start) (each : ∀ a ∈ as, q a)
    (whole : as.foldlM step start = some last) : p last := by
  induction as generalizing start with
  | nil =>
    cases whole
    exact first
  | cons a as ih =>
    obtain ⟨next, stepped, later⟩ := Option.bind_eq_some_iff.mp whole
    exact ih (preserves first (each a List.mem_cons_self) stepped)
      (fun a among => each a (.tail _ among)) later

/-- What is found under a key has every property of all entries. -/
lemma holds_of_lookup {α : Type} {p : α → Prop} {entries : List (String × α)} {key : String} {a : α}
    (each : ∀ entry ∈ entries, p entry.2) (found : entries.lookup key = some a) : p a := by
  obtain ⟨before, after, rfl, -⟩ := List.lookup_eq_some_iff.mp found
  exact each (key, a) (by simp)

/-! ### Scanners -/

/-- Whatever the scanner reads has the property. -/
def Gives {α : Type} (scan : Scan α) (p : α → Prop) : Prop :=
  ∀ ⦃text a rest⦄, scan text = some (a, rest) → p a

section

variable {α : Type} {scan : Scan α} {p : α → Prop}

lemma forall_repeatUpTo (gives : Gives scan p) (n : Nat) (text : List Char) :
    ∀ a ∈ (repeatUpTo scan n text).1, p a := by
  induction n generalizing text with
  | zero => exact nofun
  | succ n ih =>
    rw [repeatUpTo]
    split
    · exact nofun
    · next first rest read =>
      intro a among
      cases among with
      | head => exact gives read
      | tail _ later => exact ih rest a later

lemma forall_many (gives : Gives scan p) (text : List Char) : ∀ a ∈ (many scan text).1, p a :=
  forall_repeatUpTo gives text.length text

end

lemma isInt64_of_bounded {n m : Int} (same : bounded n = some m) : IsInt64 m := by
  rw [bounded] at same
  split at same
  · next small =>
    cases same
    exact small
  · cases same

lemma gives_inBase (base : Nat) : Gives (inBase base) IsInt64 := by
  intro text n rest read
  obtain ⟨⟨digits, behind⟩, -, found⟩ := Option.bind_eq_some_iff.mp read
  obtain ⟨m, valued, same⟩ := Option.bind_eq_some_iff.mp found
  obtain ⟨d, -, small⟩ := Option.bind_eq_some_iff.mp valued
  cases same
  exact isInt64_of_bounded small

lemma gives_integer : Gives integer IsInt64 := by
  intro text n rest read
  unfold integer at read
  split at read
  · exact gives_inBase 16 read
  · exact gives_inBase 8 read
  · exact gives_inBase 2 read
  · obtain ⟨⟨⟨negative, digits⟩, behind⟩, -, found⟩ := Option.bind_eq_some_iff.mp read
    obtain ⟨d, -, valued⟩ := Option.bind_eq_some_iff.mp found
    obtain ⟨m, small, same⟩ := Option.bind_eq_some_iff.mp valued
    cases same
    exact isInt64_of_bounded small

lemma gives_numeric : Gives numeric Value.Fits := by
  intro text v rest read
  unfold numeric at read
  split at read
  · cases read
    exact .moment
  split at read
  · cases read
    exact .float
  · obtain ⟨⟨n, behind⟩, whole, same⟩ := Option.map_eq_some_iff.mp read
    cases same
    exact .integer (gives_integer whole)

lemma gives_simpleValue : Gives simpleValue Value.Fits := by
  intro text v rest read
  unfold simpleValue at read
  split at read
  · obtain ⟨_, -, ⟨⟩⟩ := Option.map_eq_some_iff.mp read
    exact .boolean true
  · obtain ⟨_, -, ⟨⟩⟩ := Option.map_eq_some_iff.mp read
    exact .boolean false
  · obtain ⟨_, -, ⟨⟩⟩ := Option.map_eq_some_iff.mp read
    exact .string _
  · obtain ⟨_, -, ⟨⟩⟩ := Option.map_eq_some_iff.mp read
    exact .string _
  · exact gives_numeric read

/-! ### Open tables -/

section

variable {entries changed : Entries} {key : String} {node : Node} {v : Value}

lemma entriesFit_nil : EntriesFit [] :=
  List.forall_mem_nil _

lemma entriesFit_set (fit : EntriesFit entries) (fits : node.Fits) :
    EntriesFit (entries.set key node) := by
  intro entry among
  rcases List.mem_cons.mp among with rfl | among
  · exact fits
  · exact fit entry (List.mem_filter.mp among).1

lemma entriesFit_insertDotted {path : List String} {onDotted : Bool} (fit : EntriesFit entries)
    (fits : v.Fits) (inserted : Entries.insertDotted path key v onDotted entries = some changed) :
    EntriesFit changed := by
  induction path generalizing entries changed onDotted with
  | nil =>
    rw [Entries.insertDotted] at inserted
    split at inserted
    · cases inserted
      exact entriesFit_set fit (.value fits)
    · cases inserted
  | cons next path ih =>
    rw [Entries.insertDotted] at inserted
    split at inserted
    · obtain ⟨inner, below, ⟨⟩⟩ := Option.bind_eq_some_iff.mp inserted
      exact entriesFit_set fit (.table (ih entriesFit_nil below))
    · cases inserted
    · next origin inner found =>
      split at inserted
      · cases inserted
      · obtain ⟨inner, below, ⟨⟩⟩ := Option.bind_eq_some_iff.mp inserted
        cases holds_of_lookup fit found with
        | table each => exact entriesFit_set fit (.table (ih each below))
    · next front last found =>
      obtain ⟨inner, below, ⟨⟩⟩ := Option.bind_eq_some_iff.mp inserted
      cases holds_of_lookup fit found with
      | tables before each => exact entriesFit_set fit (.tables before (ih each below))

/-- What a change preserves is preserved by the change below a path. -/
lemma entriesFit_descend {path : List String} {change : Entries → Option Entries}
    (preserves : ∀ {entries changed}, EntriesFit entries → change entries = some changed →
      EntriesFit changed)
    (fit : EntriesFit entries) (descended : entries.descend path change = some changed) :
    EntriesFit changed := by
  induction path generalizing entries changed with
  | nil =>
    rw [Entries.descend] at descended
    exact preserves fit descended
  | cons next path ih =>
    rw [Entries.descend] at descended
    split at descended
    · obtain ⟨inner, below, ⟨⟩⟩ := Option.bind_eq_some_iff.mp descended
      exact entriesFit_set fit (.table (ih entriesFit_nil below))
    · cases descended
    · next origin inner found =>
      obtain ⟨inner, below, ⟨⟩⟩ := Option.bind_eq_some_iff.mp descended
      cases holds_of_lookup fit found with
      | table each => exact entriesFit_set fit (.table (ih each below))
    · next front last found =>
      obtain ⟨inner, below, ⟨⟩⟩ := Option.bind_eq_some_iff.mp descended
      cases holds_of_lookup fit found with
      | tables before each => exact entriesFit_set fit (.tables before (ih each below))

lemma entriesFit_openTable {path : List String} (fit : EntriesFit entries)
    (opened : entries.openTable path key = some changed) : EntriesFit changed := by
  refine entriesFit_descend ?_ fit opened
  intro entries changed fit opened
  split at opened
  · cases opened
    exact entriesFit_set fit (.table nofun)
  · next inner found =>
    cases opened
    cases holds_of_lookup fit found with
    | table each => exact entriesFit_set fit (.table each)
  · cases opened

lemma entriesFit_openTables {path : List String} (fit : EntriesFit entries)
    (opened : entries.openTables path key = some changed) : EntriesFit changed := by
  refine entriesFit_descend ?_ fit opened
  intro entries changed fit opened
  split at opened
  · cases opened
    exact entriesFit_set fit (.tables nofun nofun)
  · next front last found =>
    cases opened
    cases holds_of_lookup fit found with
    | tables before each =>
      refine entriesFit_set fit (.tables ?_ nofun)
      intro table among
      rcases List.mem_append.mp among with earlier | latest
      · exact before table earlier
      · obtain rfl := List.mem_singleton.mp latest
        exact each
  · cases opened

end

mutual

lemma fits_toValue : ∀ {node : Node}, node.Fits → node.toValue.Fits
  | .value _, .value fits => by
    rw [Node.toValue]
    exact fits
  | .table _ entries, .table each => by
    rw [Node.toValue]
    exact .table (fits_entriesValues each)
  | .tables front last, .tables before each => by
    rw [Node.toValue]
    refine .array ?_
    intro item among
    rcases List.mem_append.mp among with earlier | latest
    · exact fits_tablesValues before item earlier
    · obtain rfl := List.mem_singleton.mp latest
      exact .table (fits_entriesValues each)

lemma fits_entriesValues : ∀ {entries : List (String × Node)}, EntriesFit entries →
    ∀ entry ∈ entriesValues entries, entry.2.Fits
  | [], _ => by
    rw [entriesValues]
    exact nofun
  | (key, node) :: entries, fit => by
    rw [entriesValues]
    intro entry among
    rcases List.mem_cons.mp among with rfl | later
    · exact fits_toValue (fit _ List.mem_cons_self)
    · exact fits_entriesValues (fun entry among => fit entry (.tail _ among)) entry later

lemma fits_tablesValues : ∀ {tables : List (List (String × Node))},
    (∀ entries ∈ tables, EntriesFit entries) → ∀ item ∈ tablesValues tables, item.Fits
  | [], _ => by
    rw [tablesValues]
    exact nofun
  | entries :: tables, fit => by
    rw [tablesValues]
    intro item among
    rcases List.mem_cons.mp among with rfl | later
    · exact .table (fits_entriesValues (fit _ List.mem_cons_self))
    · exact fits_tablesValues (fun entries among => fit entries (.tail _ among)) item later

end

/-! ### Nested values -/

section

variable {scan : Scan Value}

lemma gives_keyValue (gives : Gives scan Value.Fits) :
    Gives (keyValue scan) fun entry => entry.2.2.Fits := by
  intro text entry rest read
  obtain ⟨⟨⟨path, name⟩, behind⟩, -, found⟩ := Option.bind_eq_some_iff.mp read
  obtain ⟨more, -, valued⟩ := Option.bind_eq_some_iff.mp found
  obtain ⟨⟨v, behind⟩, inner, same⟩ := Option.bind_eq_some_iff.mp valued
  cases same
  exact gives inner

lemma gives_array (gives : Gives scan Value.Fits) : Gives (array scan) Value.Fits := by
  have more : Gives (moreItems scan) Value.Fits := by
    intro text v rest read
    obtain ⟨behind, -, inner⟩ := Option.bind_eq_some_iff.mp read
    exact gives inner
  intro text v rest read
  simp only [array] at read
  split at read
  · obtain ⟨_, -, ⟨⟩⟩ := Option.map_eq_some_iff.mp read
    exact .array nofun
  · next first behind inner =>
    obtain ⟨_, -, ⟨⟩⟩ := Option.bind_eq_some_iff.mp read
    refine .array ?_
    intro item among
    rcases List.mem_cons.mp among with rfl | later
    · exact gives inner
    · exact forall_many more behind item later

lemma entriesFit_collect {entries : List (List String × String × Value)} {collected : Entries}
    (fits : ∀ entry ∈ entries, entry.2.2.Fits) (whole : collect entries = some collected) :
    EntriesFit collected :=
  foldlM_preserves (fun fit fits inserted => entriesFit_insertDotted fit fits inserted)
    entriesFit_nil fits whole

lemma gives_inlineTable (gives : Gives scan Value.Fits) :
    Gives (inlineTable scan) Value.Fits := by
  have more : Gives (moreEntries scan) fun entry => entry.2.2.Fits := by
    intro text entry rest read
    obtain ⟨behind, -, inner⟩ := Option.bind_eq_some_iff.mp read
    exact gives_keyValue gives inner
  intro text v rest read
  unfold inlineTable at read
  split at read
  · obtain ⟨_, -, ⟨⟩⟩ := Option.map_eq_some_iff.mp read
    exact .table nofun
  · next first behind inner =>
    obtain ⟨entries, whole, closed⟩ := Option.bind_eq_some_iff.mp read
    obtain ⟨_, -, ⟨⟩⟩ := Option.bind_eq_some_iff.mp closed
    refine .table (fits_entriesValues (entriesFit_collect ?_ whole))
    intro entry among
    rcases List.mem_cons.mp among with rfl | later
    · exact gives_keyValue gives inner
    · exact forall_many more behind entry later

end

lemma gives_value (budget : Nat) : Gives (value budget) Value.Fits := by
  induction budget with
  | zero =>
    intro text v rest read
    unfold value at read
    split at read
    · cases read
    · cases read
    · exact gives_simpleValue read
  | succ budget ih =>
    intro text v rest read
    unfold value at read
    split at read
    · exact gives_array ih read
    · exact gives_inlineTable ih read
    · exact gives_simpleValue read

/-! ### Documents -/

/-- The value that a statement gives a key fits. -/
def Statement.Fits : Statement → Prop
  | .entry _ _ v => v.Fits
  | _ => True

lemma gives_statement : Gives statement Statement.Fits := by
  intro text s rest read
  unfold statement at read
  split at read
  · cases read
  · obtain ⟨_, -, ⟨⟩⟩ := Option.map_eq_some_iff.mp read
    trivial
  · obtain ⟨_, -, ⟨⟩⟩ := Option.map_eq_some_iff.mp read
    trivial
  · obtain ⟨_, -, ⟨⟩⟩ := Option.map_eq_some_iff.mp read
    trivial
  · cases read
    trivial
  · obtain ⟨_, -, ⟨⟩⟩ := Option.map_eq_some_iff.mp read
    trivial
  · obtain ⟨⟨⟨path, name, v⟩, behind⟩, inner, found⟩ := Option.bind_eq_some_iff.mp read
    obtain ⟨_, -, ⟨⟩⟩ := Option.bind_eq_some_iff.mp found
    exact gives_keyValue (gives_value nestingLimit) inner

/-- One statement keeps the numbers of a document small. -/
lemma entriesFit_follow {r next : Reading} {s : Statement} (fit : EntriesFit r.entries)
    (fits : s.Fits) (followed : r.follow s = some next) : EntriesFit next.entries := by
  cases s with
  | table path name =>
    obtain ⟨entries, opened, ⟨⟩⟩ := Option.bind_eq_some_iff.mp followed
    exact entriesFit_openTable fit opened
  | tables path name =>
    obtain ⟨entries, opened, ⟨⟩⟩ := Option.bind_eq_some_iff.mp followed
    exact entriesFit_openTables fit opened
  | entry path name v =>
    obtain ⟨entries, inserted, ⟨⟩⟩ := Option.bind_eq_some_iff.mp followed
    exact entriesFit_descend (fun fit inserted => entriesFit_insertDotted fit fits inserted) fit
      inserted
  | nothing =>
    cases followed
    exact fit

/-- All whole numbers of a document fit into 64 bits with a sign. -/
lemma fits_of_parse {text : String} {document : List (String × Value)}
    (parsed : parse text = some document) : ∀ entry ∈ document, entry.2.Fits := by
  obtain ⟨read, spelled, found⟩ := Option.bind_eq_some_iff.mp parsed
  obtain ⟨reading, followed, ⟨⟩⟩ := Option.bind_eq_some_iff.mp found
  have fits : ∀ s ∈ read, s.Fits := by
    simp only [statements] at spelled
    split at spelled
    · cases spelled
      exact forall_many (fun _ _ _ found => gives_statement found) _
    · cases spelled
  have small : EntriesFit reading.entries :=
    foldlM_preserves (p := fun r => EntriesFit r.entries) entriesFit_follow entriesFit_nil fits
      followed
  exact fits_entriesValues small

end HostBoard.Toml
