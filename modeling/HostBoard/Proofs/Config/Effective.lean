import HostBoard.Config.Load
import HostBoard.Proofs.Text.Utf8
import Mathlib.Logic.Relator

/-!
# Effective settings

Which configuration a run is given, before it is checked: `Effective`, which says of every setting
from which of three layers it comes. The layers are a variable of the environment, the document in
the file and a default (`Layered`). All settings are layered alike; they differ in the variable, in
the place in the document, and in which texts and values they take.

A file that cannot be read (`Unreadable`) and one that is not a document of the right shape
(`Malformed`) give no settings, whatever the environment holds. `effective_iff` ties all this to how
the configuration is loaded.
-/

namespace HostBoard.Config

open Toml (Value)

/-! ### Spellings -/

/-- A text that spells a number of 64 bits: decimal digits, perhaps behind a plus sign. -/
def IsWord (text : String) (n : Nat) : Prop :=
  ∃ digits : List Char, digits ≠ [] ∧ (∀ c ∈ digits, c.isDigit) ∧
    (text.toList = digits ∨ text.toList = '+' :: digits) ∧
    n = Nat.ofDigitChars 10 digits 0 ∧ n < 2 ^ 64

/-- A value that is a text. -/
def IsText (v : Value) (text : String) : Prop :=
  v = .string text

/-- A value that is a number from zero on. -/
def IsNumber (v : Value) (n : Nat) : Prop :=
  v = .integer n

/-- An absolute address of one of the two schemes of the web. -/
def IsHttp (idna : Idna) (raw : String) : Prop :=
  ∃ url, Url.parse idna none raw = .ok url ∧ (url.scheme = "http" ∨ url.scheme = "https")

lemma digits_eq_some_iff {digits : List Char} {n : Nat} :
    (if digits.isEmpty ∨ !digits.all Char.isDigit then none
      else if Nat.ofDigitChars 10 digits 0 < Nat.pow 2 64 then some (Nat.ofDigitChars 10 digits 0)
      else none) = some n ↔
      digits ≠ [] ∧ (∀ c ∈ digits, c.isDigit) ∧ n = Nat.ofDigitChars 10 digits 0 ∧ n < 2 ^ 64 := by
  have misspelled : (digits.isEmpty ∨ !digits.all Char.isDigit) ↔
      ¬(digits ≠ [] ∧ ∀ c ∈ digits, c.isDigit) := by
    rw [← List.all_eq_true, List.isEmpty_iff, Bool.not_eq_true', not_and_or, not_not,
      Bool.not_eq_true]
  by_cases spelled : digits ≠ [] ∧ ∀ c ∈ digits, c.isDigit
  · rw [if_neg (mt misspelled.mp (not_not_intro spelled)), Option.ite_none_right_eq_some,
      Option.some_inj]
    constructor
    · rintro ⟨small, rfl⟩
      exact ⟨spelled.1, spelled.2, rfl, small⟩
    · rintro ⟨-, -, rfl, small⟩
      exact ⟨small, rfl⟩
  · rw [if_pos (misspelled.mpr spelled)]
    refine iff_of_false nofun ?_
    rintro ⟨nonempty, all, -⟩
    exact spelled ⟨nonempty, all⟩

lemma word?_eq_some_iff {text : String} {n : Nat} : word? text = some n ↔ IsWord text n := by
  simp only [word?]
  split
  · next rest signed =>
    rw [digits_eq_some_iff, IsWord]
    constructor
    · rintro ⟨nonempty, all, value⟩
      exact ⟨rest, nonempty, all, .inr signed, value⟩
    · rintro ⟨digits, nonempty, all, spelled | spelled, value⟩
      · -- A sign is no digit.
        rw [← spelled, signed] at all
        cases all '+' List.mem_cons_self
      · cases signed.symm.trans spelled
        exact ⟨nonempty, all, value⟩
  · next unsigned =>
    rw [digits_eq_some_iff, IsWord]
    constructor
    · rintro ⟨nonempty, all, value⟩
      exact ⟨_, nonempty, all, .inl rfl, value⟩
    · rintro ⟨digits, nonempty, all, rfl | spelled, value⟩
      · exact ⟨nonempty, all, value⟩
      · exact absurd spelled (unsigned digits)

lemma exists_parseBase_iff {idna : Idna} {raw : String} :
    (∃ url, Url.parseBase idna raw = .ok url) ↔ IsHttp idna raw :=
  exists_congr fun _ => Url.parseBase_eq_ok_iff

/-- An address that is refused is named in the error. -/
lemma raw_of_parseBase_eq_error {idna : Idna} {raw : String} {e : BaseUrlError}
    (refused : Url.parseBase idna raw = .error e) : e.raw = raw := by
  rw [Url.parseBase] at refused
  split at refused
  · cases refused
    rfl
  · split at refused
    · cases refused
    · cases refused
      rfl

/-! ### Documents -/

/-- What may stand for a section: a table, a list of its settings, a date or time, or nothing. -/
inductive IsSection : Option Value → Prop where
  | missing : IsSection none
  | table (entries : List (String × Value)) : IsSection (some (.table entries))
  | array (items : List Value) : IsSection (some (.array items))
  | moment : IsSection (some .moment)

/-- What a document has for a setting, by its name in a table or by its place in a list. -/
def setting (document : List (String × Value)) (heading name : String) (place : Nat) :
    Option Value :=
  match document.lookup heading with
  | some (.table entries) => entries.lookup name
  | some (.array items) => items[place]?
  | _ => none

/-- A document of the shape of the configuration: both sections are sections, and each setting that
it has is of the right type. What else it has does not matter. -/
structure WellShaped (document : List (String × Value)) : Prop where
  api : IsSection (document.lookup "api")
  logging : IsSection (document.lookup "logging")
  baseUrl : ∀ v, setting document "api" "base_url" 0 = some v → ∃ text, IsText v text
  hostsPath : ∀ v, setting document "api" "hosts_path" 1 = some v → ∃ text, IsText v text
  logsPath : ∀ v, setting document "api" "logs_path" 2 = some v → ∃ text, IsText v text
  timeoutSeconds : ∀ v, setting document "api" "timeout_seconds" 3 = some v → ∃ n, IsNumber v n
  filter : ∀ v, setting document "logging" "filter" 0 = some v → ∃ text, IsText v text

/-- The document that a path leads to; where there is no file, an empty one. -/
inductive Provides (files : Files) (path : String) : List (String × Value) → Prop where
  | missing (absent : files path = .error .notFound) : Provides files path []
  | written {text : String} {document : List (String × Value)}
      (holds : files path = .ok (Text.octets text)) (parsed : Toml.parse text = some document) :
      Provides files path document

/-- A path that leads to something that is no text. -/
def Unreadable (files : Files) (path : String) : Prop :=
  files path = .error .unreadable ∨
    ∃ octets, files path = .ok octets ∧ ¬∃ text, octets = Text.octets text

/-- A path that leads to a text that is no document of the shape of the configuration. -/
def Malformed (files : Files) (path : String) : Prop :=
  ∃ text, files path = .ok (Text.octets text) ∧
    ¬∃ document, Toml.parse text = some document ∧ WellShaped document

/-! ### Layers -/

section

variable {α : Type} {Reads : String → α → Prop} {Spells : Value → α → Prop}
  {given : Option String} {written : Option Value} {fallback a b : α}

/-- What stands in a document, or else the default. -/
def Stands (Spells : Value → α → Prop) (written : Option Value) (fallback a : α) : Prop :=
  match written with
  | some v => Spells v a
  | none => a = fallback

/-- What a variable of the environment gives, if it can be taken; then what stands in a document, or
else the default. -/
def Layered (Reads : String → α → Prop) (Spells : Value → α → Prop) (given : Option String)
    (written : Option Value) (fallback a : α) : Prop :=
  (∃ text, given = some text ∧ Reads text a) ∨
    (¬∃ text b, given = some text ∧ Reads text b) ∧ Stands Spells written fallback a

lemma Stands.unique (functional : Relator.RightUnique Spells)
    (first : Stands Spells written fallback a) (second : Stands Spells written fallback b) :
    a = b := by
  cases written with
  | none => exact first.trans second.symm
  | some v => exact functional first second

lemma layered_none : Layered Reads Spells none written fallback a ↔
    Stands Spells written fallback a := by
  simp [Layered]

lemma exists_layered_none_iff :
    (∃ a, Layered Reads Spells none written fallback a) ↔
      ∀ v, written = some v → ∃ a, Spells v a := by
  simp only [layered_none]
  cases written with
  | none => exact iff_of_true ⟨fallback, rfl⟩ nofun
  | some v =>
    constructor
    · rintro spelled _ ⟨⟩
      exact spelled
    · intro spelled
      exact spelled v rfl

/-- A variable stands above what would be there without it. -/
lemma layered_iff {read : String → Option α} (reads : ∀ text a, read text = some a ↔ Reads text a)
    (functional : Relator.RightUnique Spells)
    (below : Layered Reads Spells none written fallback b) :
    Layered Reads Spells given written fallback a ↔ a = (given.bind read).getD b := by
  have taken : ∀ {a}, (∃ text, given = some text ∧ Reads text a) ↔ given.bind read = some a := by
    simp only [Option.bind_eq_some_iff, reads, implies_true]
  have untaken : (¬∃ text a, given = some text ∧ Reads text a) ↔ given.bind read = none := by
    rw [exists_comm]
    simp only [taken, ← Option.isSome_iff_exists, Option.not_isSome_iff_eq_none]
  rw [Layered, taken, untaken]
  cases given.bind read with
  | some found => simp [eq_comm]
  | none =>
    constructor
    · rintro (⟨⟨⟩⟩ | ⟨-, also⟩)
      exact also.unique functional (layered_none.mp below)
    · rintro rfl
      exact .inr ⟨rfl, layered_none.mp below⟩

end

lemma isText_rightUnique : Relator.RightUnique IsText := by
  intro v a b first second
  cases first.symm.trans second
  rfl

lemma isNumber_rightUnique : Relator.RightUnique IsNumber := by
  intro v a b first second
  cases first.symm.trans second
  rfl

lemma layered_text_iff {given : Option String} {written : Option Value} {fallback a b : String}
    (below : Layered Eq IsText none written fallback b) :
    Layered Eq IsText given written fallback a ↔ a = given.getD b := by
  rw [layered_iff (fun _ _ => Option.some_inj) isText_rightUnique below, Option.bind_fun_some]

lemma layered_word_iff {given : Option String} {written : Option Value} {fallback a b : Nat}
    (below : Layered IsWord IsNumber none written fallback b) :
    Layered IsWord IsNumber given written fallback a ↔ a = (given.bind word?).getD b :=
  layered_iff (fun _ _ => word?_eq_some_iff) isNumber_rightUnique below

/-- Where each setting comes from. Two variables can give the filter, and the first of them
counts. -/
structure Layers (env : Environment) (document : List (String × Value)) (config : Config) :
    Prop where
  baseUrl : Layered Eq IsText (env "HOSTDASH_BASE_URL") (setting document "api" "base_url" 0)
    "http://localhost:1234" config.baseUrl
  hostsPath : Layered Eq IsText (env "HOSTDASH_HOSTS_PATH") (setting document "api" "hosts_path" 1)
    "/api/host/alive" config.hostsPath
  logsPath : Layered Eq IsText (env "HOSTDASH_LOGS_PATH") (setting document "api" "logs_path" 2)
    "/api/logs" config.logsPath
  timeoutSeconds : Layered IsWord IsNumber (env "HOSTDASH_TIMEOUT")
    (setting document "api" "timeout_seconds" 3) 10 config.timeoutSeconds
  filter : Layered Eq IsText ((env "RUST_LOG").or (env "HOSTDASH_LOG"))
    (setting document "logging" "filter" 0) "hostdash=info,hostdash_app=info" config.filter

/-- The configuration before it is checked. -/
def Effective (files : Files) (env : Environment) (config : Config) : Prop :=
  ∃ document, Provides files (path env) document ∧ WellShaped document ∧
    Layers env document config

/-! ### Reading a document -/

section

variable {document : List (String × Value)} {written : Option Value}

lemma textSetting_eq_some_iff {fallback text : String} :
    textSetting fallback written = some text ↔ Stands IsText written fallback text := by
  cases written with
  | none => exact Option.some_inj.trans eq_comm
  | some v =>
    cases v with
    | string s => simp [textSetting, Stands, IsText]
    | _ => exact iff_of_false nofun nofun

lemma numberSetting_eq_some_iff {fallback n : Nat} :
    numberSetting fallback written = some n ↔ Stands IsNumber written fallback n := by
  cases written with
  | none => exact Option.some_inj.trans eq_comm
  | some v =>
    cases v with
    | integer m =>
      rw [numberSetting, Stands, IsNumber, Value.integer.injEq]
      split
      · rw [Option.some_inj]
        omega
      · refine iff_of_false nofun ?_
        omega
    | _ => exact iff_of_false nofun nofun

lemma sectionOf_eq_some_iff {heading : String} {named : Section} :
    sectionOf (document.lookup heading) = some named ↔
      IsSection (document.lookup heading) ∧ setting document heading = named := by
  have lookedUp : setting document heading = fun name place =>
      match document.lookup heading with
      | some (.table entries) => entries.lookup name
      | some (.array items) => items[place]?
      | _ => none := rfl
  rw [lookedUp]
  cases document.lookup heading with
  | none => exact Option.some_inj.trans (and_iff_right .missing).symm
  | some v =>
    cases v with
    | table entries => exact Option.some_inj.trans (and_iff_right (.table entries)).symm
    | array items => exact Option.some_inj.trans (and_iff_right (.array items)).symm
    | moment => exact Option.some_inj.trans (and_iff_right .moment).symm
    | _ => exact iff_of_false nofun nofun

/-- What a document gives in an empty environment, if it is of the right shape. -/
structure Describes (document : List (String × Value)) (config : Config) : Prop where
  api : IsSection (document.lookup "api")
  logging : IsSection (document.lookup "logging")
  layers : Layers (fun _ => none) document config

lemma ofDocument_eq_some_iff {config : Config} :
    ofDocument document = some config ↔ Describes document config := by
  simp only [ofDocument, bind, pure, Option.bind_eq_some_iff, sectionOf_eq_some_iff,
    textSetting_eq_some_iff, numberSetting_eq_some_iff]
  constructor
  · rintro ⟨_, ⟨api, rfl⟩, _, ⟨logging, rfl⟩, _, baseUrl, _, hostsPath, _, logsPath, _,
      timeoutSeconds, _, filter, ⟨⟩⟩
    exact ⟨api, logging, layered_none.mpr baseUrl, layered_none.mpr hostsPath,
      layered_none.mpr logsPath, layered_none.mpr timeoutSeconds, layered_none.mpr filter⟩
  · rintro ⟨api, logging, baseUrl, hostsPath, logsPath, timeoutSeconds, filter⟩
    exact ⟨_, ⟨api, rfl⟩, _, ⟨logging, rfl⟩, _, layered_none.mp baseUrl, _,
      layered_none.mp hostsPath, _, layered_none.mp logsPath, _, layered_none.mp timeoutSeconds, _,
      layered_none.mp filter, rfl⟩

lemma wellShaped_iff : WellShaped document ↔ ∃ config, Describes document config := by
  constructor
  · rintro ⟨api, logging, baseUrl, hostsPath, logsPath, timeoutSeconds, filter⟩
    obtain ⟨base, baseUrl⟩ := exists_layered_none_iff.mpr baseUrl
    obtain ⟨hosts, hostsPath⟩ := exists_layered_none_iff.mpr hostsPath
    obtain ⟨logs, logsPath⟩ := exists_layered_none_iff.mpr logsPath
    obtain ⟨seconds, timeoutSeconds⟩ := exists_layered_none_iff.mpr timeoutSeconds
    obtain ⟨directives, filter⟩ := exists_layered_none_iff.mpr filter
    exact ⟨⟨base, hosts, logs, seconds, directives⟩,
      ⟨api, logging, baseUrl, hostsPath, logsPath, timeoutSeconds, filter⟩⟩
  · rintro ⟨config, api, logging, layers⟩
    exact {
      api := api
      logging := logging
      baseUrl := exists_layered_none_iff.mp ⟨_, layers.baseUrl⟩
      hostsPath := exists_layered_none_iff.mp ⟨_, layers.hostsPath⟩
      logsPath := exists_layered_none_iff.mp ⟨_, layers.logsPath⟩
      timeoutSeconds := exists_layered_none_iff.mp ⟨_, layers.timeoutSeconds⟩
      filter := exists_layered_none_iff.mp ⟨_, layers.filter⟩ }

lemma layers_iff {env : Environment} {config written : Config}
    (below : Layers (fun _ => none) document written) :
    Layers env document config ↔ config = written.withOverrides env := by
  constructor
  · intro layers
    obtain ⟨baseUrl, hostsPath, logsPath, timeoutSeconds, filter⟩ := config
    rw [withOverrides, mk.injEq]
    exact ⟨(layered_text_iff below.baseUrl).mp layers.baseUrl,
      (layered_text_iff below.hostsPath).mp layers.hostsPath,
      (layered_text_iff below.logsPath).mp layers.logsPath,
      (layered_word_iff below.timeoutSeconds).mp layers.timeoutSeconds,
      (layered_text_iff below.filter).mp layers.filter⟩
  · rintro rfl
    exact {
      baseUrl := (layered_text_iff below.baseUrl).mpr rfl
      hostsPath := (layered_text_iff below.hostsPath).mpr rfl
      logsPath := (layered_text_iff below.logsPath).mpr rfl
      timeoutSeconds := (layered_word_iff below.timeoutSeconds).mpr rfl
      filter := (layered_text_iff below.filter).mpr rfl }

end

/-! ### Reading a file -/

section

variable {files : Files} {path : String}

lemma text_eq_ok_iff {text : String} :
    files.text path = .ok text ↔ files path = .ok (Text.octets text) := by
  rw [Files.text]
  cases files path with
  | error e => simp
  | ok octets =>
    rw [Except.ok.injEq, ← Text.ofOctets?_eq_some_iff]
    cases read : Text.ofOctets? octets <;> simp [read]

lemma text_eq_notFound_iff :
    files.text path = .error .notFound ↔ files path = .error .notFound := by
  rw [Files.text]
  cases files path with
  | error e => simp
  | ok octets => cases read : Text.ofOctets? octets <;> simp [read]

lemma text_eq_unreadable_iff : files.text path = .error .unreadable ↔ Unreadable files path := by
  rw [Files.text, Unreadable]
  cases files path with
  | error e => simp
  | ok octets =>
    simp only [Except.ok.injEq, reduceCtorEq, false_or, exists_eq_left',
      ← Text.ofOctets?_eq_some_iff]
    cases Text.ofOctets? octets <;> simp

lemma Provides.unique {document other : List (String × Value)}
    (first : Provides files path document) (second : Provides files path other) :
    document = other := by
  cases first with
  | missing absent =>
    cases second with
    | missing _ => rfl
    | written holds _ => cases absent.symm.trans holds
  | written holds parsed =>
    cases second with
    | missing absent => cases absent.symm.trans holds
    | written again reparsed =>
      have same := Except.ok.inj (holds.symm.trans again)
      rw [Text.octets_injective same] at parsed
      exact Option.some.inj (parsed.symm.trans reparsed)

lemma ofText_eq_some_iff {text : String} {config : Config} :
    ofText text = some config ↔
      ∃ document, Toml.parse text = some document ∧ Describes document config := by
  simp only [ofText, bind, Option.bind_eq_some_iff, ofDocument_eq_some_iff]

lemma describes_nil_iff {config : Config} : Describes [] config ↔ config = default := by
  rw [← ofDocument_eq_some_iff]
  exact Option.some_inj.trans eq_comm

lemma fromFile_eq_ok_iff {config : Config} :
    fromFile files path = .ok config ↔
      ∃ document, Provides files path document ∧ Describes document config := by
  constructor
  · intro loaded
    rw [fromFile] at loaded
    split at loaded
    · next text read =>
      split at loaded
      · next found =>
        cases loaded
        obtain ⟨document, parsed, described⟩ := ofText_eq_some_iff.mp found
        exact ⟨document, .written (text_eq_ok_iff.mp read) parsed, described⟩
      · cases loaded
    · next absent =>
      cases loaded
      exact ⟨[], .missing (text_eq_notFound_iff.mp absent), describes_nil_iff.mpr rfl⟩
    · cases loaded
  · rintro ⟨document, provided, described⟩
    rw [fromFile]
    cases provided with
    | missing absent =>
      rw [text_eq_notFound_iff.mpr absent, describes_nil_iff.mp described]
    | written holds parsed =>
      have found := ofText_eq_some_iff.mpr ⟨document, parsed, described⟩
      simp only [text_eq_ok_iff.mpr holds, found]

lemma fromFile_eq_io_iff : fromFile files path = .error .io ↔ Unreadable files path := by
  rw [← text_eq_unreadable_iff, fromFile]
  cases files.text path with
  | ok text => cases read : ofText text <;> simp [read]
  | error e => cases e <;> simp

lemma malformed_iff :
    Malformed files path ↔ ∃ text, files.text path = .ok text ∧ ofText text = none := by
  have shapeless : ∀ text, (¬∃ document, Toml.parse text = some document ∧ WellShaped document) ↔
      ofText text = none := by
    intro text
    rw [← Option.not_isSome_iff_eq_none, Option.isSome_iff_exists, not_iff_not]
    simp only [wellShaped_iff, ofText_eq_some_iff]
    constructor
    · rintro ⟨document, parsed, config, described⟩
      exact ⟨config, document, parsed, described⟩
    · rintro ⟨config, document, parsed, described⟩
      exact ⟨document, parsed, config, described⟩
  simp only [Malformed, shapeless, text_eq_ok_iff]

lemma fromFile_eq_parse_iff : fromFile files path = .error .parse ↔ Malformed files path := by
  rw [malformed_iff, fromFile]
  cases files.text path with
  | ok text => cases read : ofText text <;> simp [read]
  | error e => cases e <;> simp

end

lemma effective_iff {files : Files} {env : Environment} {config : Config} :
    Effective files env config ↔
      ∃ written, fromFile files (path env) = .ok written ∧ config = written.withOverrides env := by
  constructor
  · rintro ⟨document, provided, shaped, layers⟩
    obtain ⟨written, described⟩ := wellShaped_iff.mp shaped
    exact ⟨written, fromFile_eq_ok_iff.mpr ⟨document, provided, described⟩,
      (layers_iff described.layers).mp layers⟩
  · rintro ⟨written, read, overridden⟩
    obtain ⟨document, provided, described⟩ := fromFile_eq_ok_iff.mp read
    exact ⟨document, provided, wellShaped_iff.mpr ⟨written, described⟩,
      (layers_iff described.layers).mpr overridden⟩

end HostBoard.Config
