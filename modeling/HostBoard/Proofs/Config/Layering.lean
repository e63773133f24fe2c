import HostBoard.Proofs.Config.Loading
import HostBoard.Proofs.Toml.Integers

/-!
# Settings are layered one by one

Each setting of a configuration has its own key and its own variables, and nothing else decides it
(`layering_is_fieldwise`). A layered setting is determined by the two layers and the default
(`Layered.agree`), so no setting depends on the keys and variables of another. The number of seconds
fits into 64 bits in every layer (`timeoutSeconds_lt`): in a variable because it is refused
otherwise, and in a document because all its whole numbers do.
-/

namespace HostBoard.Config

open Toml (Value)

/-- Layers that agree give the same setting. -/
lemma Layered.agree {α : Type} {Reads : String → α → Prop} {Spells : Value → α → Prop}
    {given given' : Option String} {written written' : Option Value} {fallback a b : α}
    (reads : Relator.RightUnique Reads) (spells : Relator.RightUnique Spells)
    (first : Layered Reads Spells given written fallback a)
    (second : Layered Reads Spells given' written' fallback b)
    (sameVariable : given = given') (sameKey : written = written') : a = b := by
  subst sameVariable sameKey
  rcases first with ⟨text, set, read⟩ | ⟨unset, stands⟩
  · rcases second with ⟨_, again, other⟩ | ⟨unset, -⟩
    · cases set.symm.trans again
      exact reads read other
    · exact absurd ⟨text, a, set, read⟩ unset
  · rcases second with ⟨text, set, read⟩ | ⟨-, also⟩
    · exact absurd ⟨text, b, set, read⟩ unset
    · exact stands.unique spells also

lemma isWord_rightUnique : Relator.RightUnique IsWord := by
  intro text a b first second
  have same := (word?_eq_some_iff.mpr first).symm.trans (word?_eq_some_iff.mpr second)
  exact Option.some.inj same

section

variable {idna : Idna} {files : Files} {env : Environment} {config : Config}
  {document : List (String × Value)}

lemma fits_setting {path heading name : String} {place : Nat} {v : Value}
    (provided : Provides files path document)
    (found : setting document heading name place = some v) : v.Fits := by
  cases provided with
  | missing _ => cases found
  | written _ parsed =>
    have fits := Toml.fits_of_parse parsed
    rw [setting] at found
    split at found
    · next entries table =>
      cases Toml.holds_of_lookup fits table with
      | table each => exact Toml.holds_of_lookup each found
    · next items array =>
      cases Toml.holds_of_lookup fits array with
      | array each => exact each v (List.mem_of_getElem? found)
    · cases found

/-- In every layer the number of seconds fits into 64 bits. -/
lemma timeoutSeconds_lt {path heading name : String} {place : Nat} {given : Option String} {n : Nat}
    (provided : Provides files path document)
    (layered : Layered IsWord IsNumber given (setting document heading name place) 10 n) :
    n < 2 ^ 64 := by
  rcases layered with ⟨text, -, digits, -, -, -, -, small⟩ | ⟨-, stands⟩
  · exact small
  cases found : setting document heading name place with
  | none =>
    rw [found] at stands
    cases stands
    decide
  | some v =>
    rw [found] at stands
    cases stands
    cases fits_setting provided found with
    | integer small =>
      have := small.2
      omega

/-- A configuration that was loaded is layered over the document in its file. -/
lemma layers_of_load (provided : Provides files (path env) document)
    (loaded : load idna files env = .ok config) : Layers env document config := by
  obtain ⟨⟨other, same, -, layers⟩, -⟩ := load_eq_ok_iff_effective.mp loaded
  rwa [provided.unique same]

end

/-- Settings are layered one by one, for every document, whatever keys it has, and for every
environment with which a configuration can be loaded. `Layers` says which layer a setting comes
from. A text comes from its variable if that is set, even to nothing, then from the document, then
from the defaults; the timeout comes from its variable only if this spells a number of 64 bits. Two
runs agree on a setting if they agree on its key and its variables, whatever else differs. The
addresses of the collections and the settings of the client are made of these settings, with the
timeout in thousandths of a second, and without overflow. -/
theorem layering_is_fieldwise {idna : Idna} {files : Files} {env : Environment}
    {document : List (String × Value)} {config : Config}
    (provided : Provides files (path env) document) (loaded : load idna files env = .ok config) :
    Layers env document config ∧
    (∀ {files₂ env₂ document₂ config₂}, Provides files₂ (path env₂) document₂ →
      load idna files₂ env₂ = .ok config₂ →
      (env "HOSTDASH_BASE_URL" = env₂ "HOSTDASH_BASE_URL" →
        setting document "api" "base_url" 0 = setting document₂ "api" "base_url" 0 →
        config.baseUrl = config₂.baseUrl) ∧
      (env "HOSTDASH_HOSTS_PATH" = env₂ "HOSTDASH_HOSTS_PATH" →
        setting document "api" "hosts_path" 1 = setting document₂ "api" "hosts_path" 1 →
        config.hostsPath = config₂.hostsPath) ∧
      (env "HOSTDASH_LOGS_PATH" = env₂ "HOSTDASH_LOGS_PATH" →
        setting document "api" "logs_path" 2 = setting document₂ "api" "logs_path" 2 →
        config.logsPath = config₂.logsPath) ∧
      (env "HOSTDASH_TIMEOUT" = env₂ "HOSTDASH_TIMEOUT" →
        setting document "api" "timeout_seconds" 3 = setting document₂ "api" "timeout_seconds" 3 →
        config.timeoutSeconds = config₂.timeoutSeconds) ∧
      (env "RUST_LOG" = env₂ "RUST_LOG" → env "HOSTDASH_LOG" = env₂ "HOSTDASH_LOG" →
        setting document "logging" "filter" 0 = setting document₂ "logging" "filter" 0 →
        config.filter = config₂.filter)) ∧
    config.endpoints = ⟨config.hostsPath, config.logsPath⟩ ∧
    config.clientSettings = ⟨config.baseUrl, 1000 * config.timeoutSeconds⟩ ∧
    config.timeoutSeconds < 2 ^ 64 ∧ config.clientSettings.timeoutMillis < 2 ^ 128 := by
  have layers := layers_of_load provided loaded
  have small : config.timeoutSeconds < 2 ^ 64 := timeoutSeconds_lt provided layers.timeoutSeconds
  refine ⟨layers, ?_, rfl, rfl, small, ?_⟩
  · intro files₂ env₂ document₂ config₂ provided₂ loaded₂
    have layers₂ := layers_of_load provided₂ loaded₂
    have texts : Relator.RightUnique (Eq : String → String → Prop) := fun _ _ _ first second =>
      first.symm.trans second
    refine ⟨layers.baseUrl.agree texts isText_rightUnique layers₂.baseUrl,
      layers.hostsPath.agree texts isText_rightUnique layers₂.hostsPath,
      layers.logsPath.agree texts isText_rightUnique layers₂.logsPath,
      layers.timeoutSeconds.agree isWord_rightUnique isNumber_rightUnique layers₂.timeoutSeconds, ?_⟩
    intro sameFirst sameSecond
    refine layers.filter.agree texts isText_rightUnique layers₂.filter ?_
    rw [sameFirst, sameSecond]
  · have millis : config.clientSettings.timeoutMillis = 1000 * config.timeoutSeconds := rfl
    omega

/-- A file with some of the settings, and with a key that is no setting. -/
def partialText : String := "[api]\nlogs_path = \"/l\"\ntimeout_seconds = 5\nother = 1\n"

/-- That file under the usual name. -/
def partialFiles : Files := fun path =>
  if path = "hostdash.toml" then .ok (Text.octets partialText) else .error .notFound

/-- Variables that give an empty path, a timeout that is no number, and a filter. -/
def partialEnvironment : Environment := fun name =>
  [("HOSTDASH_HOSTS_PATH", ""), ("HOSTDASH_TIMEOUT", "soon"), ("HOSTDASH_LOG", "warn")].lookup name

theorem layering_is_fieldwise_partialFiles : ∃ document,
    Provides partialFiles (path partialEnvironment) document ∧
    load .asciiOnly partialFiles partialEnvironment =
      .ok ⟨"http://localhost:1234", "", "/l", 5, "warn"⟩ ∧
    Layers partialEnvironment document ⟨"http://localhost:1234", "", "/l", 5, "warn"⟩ := by
  have read : (Toml.parse partialText).isSome := by decide +kernel
  obtain ⟨document, parsed⟩ := Option.isSome_iff_exists.mp read
  have provided : Provides partialFiles (path partialEnvironment) document :=
    .written (if_pos rfl) parsed
  have loaded : load .asciiOnly partialFiles partialEnvironment =
      .ok ⟨"http://localhost:1234", "", "/l", 5, "warn"⟩ := by
    decide +kernel
  exact ⟨document, provided, loaded, (layering_is_fieldwise provided loaded).1⟩

end HostBoard.Config
