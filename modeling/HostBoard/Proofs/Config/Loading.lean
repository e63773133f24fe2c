import HostBoard.Proofs.Config.Effective
import Mathlib.Logic.ExistsUnique
import Mathlib.Logic.Function.Basic

/-!
# How loading a configuration ends

Loading ends in one of five ways, and `load_fails_iff_unusable` says for each of them when. The file
is read first, and how that fails does not depend on the environment. What is checked afterwards is
the effective configuration and not what the file says (`load_eq_error_iff`), so a variable can
repair a setting, but never a file.
-/

namespace HostBoard.Config

variable {idna : Idna} {files : Files} {env : Environment} {config : Config}

/-! ### Checking -/

/-- A base address that is refused is named in the error. -/
lemma exists_parseBase_eq_error_iff {raw base : String} :
    (∃ reason, Url.parseBase idna raw = .error ⟨base, reason⟩) ↔
      raw = base ∧ ¬IsHttp idna base := by
  constructor
  · rintro ⟨reason, refused⟩
    obtain rfl : base = raw := raw_of_parseBase_eq_error refused
    refine ⟨rfl, ?_⟩
    rw [← exists_parseBase_iff]
    rintro ⟨url, accepted⟩
    cases refused.symm.trans accepted
  · rintro ⟨rfl, other⟩
    cases read : Url.parseBase idna raw with
    | ok url => exact absurd (exists_parseBase_iff.mp ⟨url, read⟩) other
    | error e =>
      obtain ⟨base, reason⟩ := e
      obtain rfl : base = raw := raw_of_parseBase_eq_error read
      exact ⟨reason, rfl⟩

lemma validate_eq_error_iff {e : ConfigError} :
    config.validate idna = .error e ↔
      (∃ refused, Url.parseBase idna config.baseUrl = .error refused ∧ e = .invalidBase refused) ∨
        (IsHttp idna config.baseUrl ∧ config.timeoutSeconds = 0) ∧ e = .zeroTimeout := by
  rw [← exists_parseBase_iff, validate]
  cases Url.parseBase idna config.baseUrl with
  | error refused => simp [eq_comm]
  | ok url =>
    by_cases zero : config.timeoutSeconds = 0
    · simp [zero, eq_comm]
    · simp [zero]

/-! ### Loading -/

lemma fromFile_eq_error {e : ConfigError} {path : String}
    (failed : fromFile files path = .error e) : e = .io ∨ e = .parse := by
  rw [fromFile] at failed
  split at failed
  · split at failed
    · cases failed
    · cases failed
      exact .inr rfl
  · cases failed
  · cases failed
    exact .inl rfl

/-- Loading fails where reading the file fails or the effective configuration is refused. -/
lemma load_eq_error_iff {e : ConfigError} :
    load idna files env = .error e ↔ fromFile files (path env) = .error e ∨
      ∃ config, Effective files env config ∧ config.validate idna = .error e := by
  simp only [effective_iff, load, bind, Except.bind, pure, Except.pure]
  cases fromFile files (path env) with
  | error failure => simp
  | ok written =>
    cases checked : (written.withOverrides env).validate idna <;> simp [checked]

lemma load_eq_ok_iff_effective :
    load idna files env = .ok config ↔
      Effective files env config ∧ IsHttp idna config.baseUrl ∧ config.timeoutSeconds ≠ 0 := by
  rw [load_eq_ok_iff, effective_iff, validate_eq_ok_iff, exists_parseBase_iff]
  constructor
  · rintro ⟨written, read, overridden, checked⟩
    exact ⟨⟨written, read, overridden⟩, checked⟩
  · rintro ⟨⟨written, read, overridden⟩, checked⟩
    exact ⟨written, read, overridden, checked⟩

/-- Reading the file ends in one of two failures, or there is one effective configuration. -/
lemma existsUnique_effective (readable : ¬Unreadable files (path env))
    (formed : ¬Malformed files (path env)) : ∃! config, Effective files env config := by
  simp only [effective_iff]
  cases read : fromFile files (path env) with
  | ok written =>
    refine ⟨written.withOverrides env, ⟨written, rfl, rfl⟩, ?_⟩
    rintro _ ⟨_, ⟨⟩, rfl⟩
    rfl
  | error e =>
    rcases fromFile_eq_error read with rfl | rfl
    · exact absurd (fromFile_eq_io_iff.mp read) readable
    · exact absurd (fromFile_eq_parse_iff.mp read) formed

lemma load_eq_io_iff : load idna files env = .error .io ↔ Unreadable files (path env) := by
  rw [load_eq_error_iff, fromFile_eq_io_iff]
  simp [validate_eq_error_iff]

lemma load_eq_parse_iff : load idna files env = .error .parse ↔ Malformed files (path env) := by
  rw [load_eq_error_iff, fromFile_eq_parse_iff]
  simp [validate_eq_error_iff]

lemma load_eq_invalidBase_iff {base : String} :
    (∃ reason, load idna files env = .error (.invalidBase ⟨base, reason⟩)) ↔
      ∃ config, Effective files env config ∧ config.baseUrl = base ∧ ¬IsHttp idna base := by
  have read : ∀ reason, fromFile files (path env) ≠ .error (.invalidBase ⟨base, reason⟩) := by
    intro reason failed
    rcases fromFile_eq_error failed with ⟨⟨⟩⟩ | ⟨⟨⟩⟩
  simp only [← exists_parseBase_eq_error_iff, load_eq_error_iff, read, false_or,
    validate_eq_error_iff]
  constructor
  · rintro ⟨reason, config, effective, ⟨refused, failed, ⟨⟩⟩ | ⟨-, ⟨⟩⟩⟩
    exact ⟨config, effective, reason, failed⟩
  · rintro ⟨config, effective, reason, failed⟩
    exact ⟨reason, config, effective, .inl ⟨_, failed, rfl⟩⟩

lemma load_eq_zeroTimeout_iff :
    load idna files env = .error .zeroTimeout ↔
      ∃ config, Effective files env config ∧ IsHttp idna config.baseUrl ∧
        config.timeoutSeconds = 0 := by
  have read : fromFile files (path env) ≠ .error .zeroTimeout := by
    intro failed
    rcases fromFile_eq_error failed with ⟨⟨⟩⟩ | ⟨⟨⟩⟩
  rw [load_eq_error_iff, or_iff_right read]
  simp [validate_eq_error_iff]

/-! ### Repairs -/

lemma effective_update_baseUrl (effective : Effective files env config) (base : String) :
    Effective files (Function.update env "HOSTDASH_BASE_URL" (some base))
      { config with baseUrl := base } := by
  obtain ⟨written, read, rfl⟩ := effective_iff.mp effective
  exact effective_iff.mpr ⟨written, read, rfl⟩

lemma effective_update_timeout (effective : Effective files env config) {text : String} {n : Nat}
    (word : IsWord text n) :
    Effective files (Function.update env "HOSTDASH_TIMEOUT" (some text))
      { config with timeoutSeconds := n } := by
  obtain ⟨written, read, rfl⟩ := effective_iff.mp effective
  refine effective_iff.mpr ⟨written, read, ?_⟩
  simp [withOverrides, word?_eq_some_iff.mpr word]

/-- How loading ends, for all files and every environment. The path is the one that the environment
names, or else the usual one. Loading fails because of the file if the file cannot be read, or is no
document of the right shape. Otherwise there is one effective configuration, and loading fails
because of its base address if that is no absolute address of the web, or else because of its
timeout if that is zero; it gives the effective configuration if neither is the case.

A variable thus repairs a base address or a timeout, and changes nothing else; no environment that
leads to the same file repairs a malformed one. -/
theorem load_fails_iff_unusable (idna : Idna) (files : Files) (env : Environment) :
    let path := (env "HOSTDASH_CONFIG").getD "hostdash.toml"
    (load idna files env = .error .io ↔ Unreadable files path) ∧
    (load idna files env = .error .parse ↔ Malformed files path) ∧
    (¬Unreadable files path → ¬Malformed files path → ∃! config, Effective files env config) ∧
    (∀ base, (∃ reason, load idna files env = .error (.invalidBase ⟨base, reason⟩)) ↔
      ∃ config, Effective files env config ∧ config.baseUrl = base ∧ ¬IsHttp idna base) ∧
    (load idna files env = .error .zeroTimeout ↔
      ∃ config, Effective files env config ∧ IsHttp idna config.baseUrl ∧
        config.timeoutSeconds = 0) ∧
    ConfigError.zeroTimeout.message = "invalid configuration: timeout must be non-zero" ∧
    (∀ config, load idna files env = .ok config ↔
      Effective files env config ∧ IsHttp idna config.baseUrl ∧ config.timeoutSeconds ≠ 0) ∧
    -- What a variable repairs, and what none does.
    (∀ config, Effective files env config →
      (∀ base, IsHttp idna base → config.timeoutSeconds ≠ 0 →
        load idna files (Function.update env "HOSTDASH_BASE_URL" (some base)) =
          .ok { config with baseUrl := base }) ∧
      (∀ text n, IsWord text n → n ≠ 0 → IsHttp idna config.baseUrl →
        load idna files (Function.update env "HOSTDASH_TIMEOUT" (some text)) =
          .ok { config with timeoutSeconds := n })) ∧
    (load idna files env = .error .parse → ∀ other : Environment,
      (other "HOSTDASH_CONFIG").getD "hostdash.toml" = path →
        load idna files other = .error .parse) ∧
    (∀ config, load idna files env = .ok config →
      (∃ url, Url.parseBase idna config.baseUrl = .ok url) ∧ 1 ≤ config.timeoutSeconds) := by
  refine ⟨load_eq_io_iff, load_eq_parse_iff, existsUnique_effective, fun _ => load_eq_invalidBase_iff,
    load_eq_zeroTimeout_iff, rfl, fun _ => load_eq_ok_iff_effective, ?_, ?_, ?_⟩
  · intro config effective
    constructor
    · intro base http positive
      exact load_eq_ok_iff_effective.mpr ⟨effective_update_baseUrl effective base, http, positive⟩
    · intro text n word positive http
      exact load_eq_ok_iff_effective.mpr ⟨effective_update_timeout effective word, http, positive⟩
  · intro failed other samePath
    have malformed : Malformed files (path other) := by
      rw [show path other = path env from samePath]
      exact load_eq_parse_iff.mp failed
    exact load_eq_parse_iff.mpr malformed
  · intro config loaded
    obtain ⟨-, http, positive⟩ := load_eq_ok_iff_effective.mp loaded
    exact ⟨exists_parseBase_iff.mpr http, Nat.one_le_iff_ne_zero.mpr positive⟩

end HostBoard.Config
