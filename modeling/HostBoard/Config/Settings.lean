import HostBoard.Service.Load
import HostBoard.Toml.Document

/-!
# Settings

What can be configured, with the defaults, and how a document gives it. The settings stand in two
sections. A section is a table, or a list of its settings in order; a date or time counts as a table
without any of them. Whatever is missing has its default, and what is not known is ignored.
-/

namespace HostBoard

/-- The settings of the program. -/
structure Config where
  baseUrl : String
  hostsPath : String
  logsPath : String
  timeoutSeconds : Nat
  filter : String
deriving DecidableEq, Repr

/-- What a client of the network has to know: the base address, and how long a request may take, in
thousandths of a second. -/
structure ClientSettings where
  baseUrl : String
  timeoutMillis : Nat
deriving DecidableEq, Repr

namespace Config

/-- The settings where nothing is configured. -/
def default : Config where
  baseUrl := "http://localhost:1234"
  hostsPath := Endpoints.default.hosts
  logsPath := Endpoints.default.logs
  timeoutSeconds := 10
  filter := "hostdash=info,hostdash_app=info"

/-- How the settings of a section are looked up: by name, or by place. -/
abbrev Section := String → Nat → Option Toml.Value

/-- The settings of a section, which may be missing. -/
def sectionOf : Option Toml.Value → Option Section
  | none => some fun _ _ => none
  | some (.table entries) => some fun name _ => entries.lookup name
  | some (.array items) => some fun _ place => items[place]?
  | some .moment => some fun _ _ => none
  | some _ => none

/-- A setting that is a text. -/
def textSetting (fallback : String) : Option Toml.Value → Option String
  | none => some fallback
  | some (.string text) => some text
  | some _ => none

/-- A setting that is a number from zero on. -/
def numberSetting (fallback : Nat) : Option Toml.Value → Option Nat
  | none => some fallback
  | some (.integer n) => if 0 ≤ n then some n.toNat else none
  | some _ => none

/-- The settings that a document gives, if it has their shape. -/
def ofDocument (document : List (String × Toml.Value)) : Option Config := do
  let api ← sectionOf (document.lookup "api")
  let logging ← sectionOf (document.lookup "logging")
  return {
    baseUrl := ← textSetting default.baseUrl (api "base_url" 0)
    hostsPath := ← textSetting default.hostsPath (api "hosts_path" 1)
    logsPath := ← textSetting default.logsPath (api "logs_path" 2)
    timeoutSeconds := ← numberSetting default.timeoutSeconds (api "timeout_seconds" 3)
    filter := ← textSetting default.filter (logging "filter" 0) }

/-- The settings that the text of a document gives. -/
def ofText (text : String) : Option Config :=
  Toml.parse text >>= ofDocument

/-- The addresses of the collections. -/
def endpoints (config : Config) : Endpoints :=
  ⟨config.hostsPath, config.logsPath⟩

/-- The settings of the client. -/
def clientSettings (config : Config) : ClientSettings :=
  ⟨config.baseUrl, 1000 * config.timeoutSeconds⟩

end Config

end HostBoard
