import HostBoard.Config.Files
import HostBoard.Config.Settings
import HostBoard.Url.BaseUrl

/-!
# Loading the configuration

The configuration file is optional. Variables of the environment come before what the file says,
and the result must have a base address that can be used and a timeout that is not zero.
-/

namespace HostBoard

/-- The variables of the environment that are text. -/
abbrev Environment := String → Option String

/-- The environment of variables given as octets; one that does not spell text is left out. -/
def Environment.ofOctets (values : List (String × List UInt8)) : Environment := fun name =>
  (values.lookup name).bind Text.ofOctets?

/-- Why there is no configuration. -/
inductive ConfigError where
  | parse
  | io
  | invalidBase (error : BaseUrlError)
  | zeroTimeout
deriving DecidableEq, Repr

/-- The error in words. -/
def ConfigError.message : ConfigError → String
  | .parse => "failed to parse config file"
  | .io => "failed to read config file"
  | .invalidBase e => "invalid configuration: " ++ e.text
  | .zeroTimeout => "invalid configuration: timeout must be non-zero"

namespace Config

/-- The file that is read unless the environment names another. -/
def defaultPath : String := "hostdash.toml"

/-- The path of the configuration file. -/
def path (env : Environment) : String :=
  (env "HOSTDASH_CONFIG").getD defaultPath

/-- The settings of a file; a file that is not there has none. -/
def fromFile (files : Files) (path : String) : Except ConfigError Config :=
  match files.text path with
  | .ok text =>
    match ofText text with
    | some config => .ok config
    | none => .error .parse
  | .error .notFound => .ok default
  | .error .unreadable => .error .io

/-- A number of 64 bits: decimal digits, perhaps behind a plus sign. -/
def word? (text : String) : Option Nat :=
  let digits := match text.toList with
    | '+' :: digits => digits
    | digits => digits
  if digits.isEmpty ∨ !digits.all Char.isDigit then none
  else
    let n := Nat.ofDigitChars 10 digits 0
    if n < Nat.pow 2 64 then some n else none

/-- The settings with those of the environment before them. -/
def withOverrides (env : Environment) (config : Config) : Config where
  baseUrl := (env "HOSTDASH_BASE_URL").getD config.baseUrl
  hostsPath := (env "HOSTDASH_HOSTS_PATH").getD config.hostsPath
  logsPath := (env "HOSTDASH_LOGS_PATH").getD config.logsPath
  timeoutSeconds := ((env "HOSTDASH_TIMEOUT").bind word?).getD config.timeoutSeconds
  filter := ((env "RUST_LOG").or (env "HOSTDASH_LOG")).getD config.filter

/-- Check settings before they are used. -/
def validate (idna : Idna) (config : Config) : Except ConfigError Unit :=
  match Url.parseBase idna config.baseUrl with
  | .error e => .error (.invalidBase e)
  | .ok _ => if config.timeoutSeconds = 0 then .error .zeroTimeout else .ok ()

theorem validate_eq_ok_iff {idna : Idna} {config : Config} :
    config.validate idna = .ok () ↔
      (∃ base, Url.parseBase idna config.baseUrl = .ok base) ∧ config.timeoutSeconds ≠ 0 := by
  rw [validate]
  cases Url.parseBase idna config.baseUrl with
  | error e => exact iff_of_false nofun nofun
  | ok base =>
    by_cases zero : config.timeoutSeconds = 0
    · simp [zero]
    · simp [zero]

/-- Load the configuration. -/
def load (idna : Idna) (files : Files) (env : Environment) : Except ConfigError Config := do
  let config ← fromFile files (path env)
  let config := config.withOverrides env
  config.validate idna
  return config

/-- What has been loaded is what the file says, below the environment, and it has been checked. -/
theorem load_eq_ok_iff {idna : Idna} {files : Files} {env : Environment} {config : Config} :
    load idna files env = .ok config ↔
      ∃ written, fromFile files (path env) = .ok written ∧ config = written.withOverrides env ∧
        config.validate idna = .ok () := by
  simp only [load, bind, Except.bind, pure, Except.pure]
  cases fromFile files (path env) with
  | error e => exact iff_of_false nofun nofun
  | ok written =>
    cases checked : (written.withOverrides env).validate idna with
    | error e =>
      simp only [checked]
      refine iff_of_false nofun ?_
      rintro ⟨_, ⟨⟩, rfl, passed⟩
      cases checked.symm.trans passed
    | ok _ =>
      simp only [checked]
      constructor
      · rintro ⟨⟩
        exact ⟨written, rfl, rfl, checked⟩
      · rintro ⟨_, ⟨⟩, rfl, -⟩
        rfl

end Config

end HostBoard
