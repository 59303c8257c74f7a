import DispatchCache.CommandLine.Program
import DispatchCache.Proofs.Config.File
import DispatchCache.Proofs.Config.Flags
import Mathlib.Tactic.SplitIfs

/-! # The configuration that counts

Without a file the environment sets the fields one by one, and only a text that is no flag can spoil
that. With a file the environment does not matter at all. The option to skip duplicates comes on
top. -/

namespace DispatchCache

namespace Config

/-- The variable is set to a word for the flag. -/
def Sets (environment : String → Option String) (name : String) (flag : Bool) : Prop :=
  ∃ text, environment name = some text ∧ ∃ word ∈ flagWords flag, Spells text word

/-- The variable is set to a text that is no flag. -/
def Spoilt (environment : String → Option String) (name text : String) : Prop :=
  environment name = some text ∧ ∀ flag, ∀ word ∈ flagWords flag, ¬ Spells text word

variable {environment : String → Option String} {name : String}

theorem sets_iff {flag : Bool} :
    Sets environment name flag ↔ (environment name).bind flag? = some flag := by
  simp only [Sets, Option.bind_eq_some_iff, flag?_eq_some_iff]

theorem spoilt_iff {text : String} :
    Spoilt environment name text ↔ environment name = some text ∧ flag? text = none := by
  rw [Option.eq_none_iff_forall_ne_some]
  simp only [Spoilt, ne_eq, flag?_eq_some_iff, not_exists, not_and]

/-- The ways a variable can tell a flag. -/
inductive FlagSource (environment : String → Option String) (name : String) (missing : Bool) :
    Except ConfigError Bool → Prop where
  | unset (vacant : environment name = none) : FlagSource environment name missing (.ok missing)
  | sets {flag : Bool} (sets : Sets environment name flag) :
      FlagSource environment name missing (.ok flag)
  | spoilt {text : String} (spoilt : Spoilt environment name text) :
      FlagSource environment name missing (.error (.invalidFlag name text))

theorem flagSource (environment : String → Option String) (name : String) (missing : Bool) :
    FlagSource environment name missing (flagOf environment name missing) := by
  unfold flagOf
  split
  case h_1 vacant => exact .unset vacant
  case h_2 text set =>
    split
    case h_1 flag read => exact .sets (sets_iff.mpr (by rw [set, Option.bind_some, read]))
    case h_2 unread => exact .spoilt (spoilt_iff.mpr ⟨set, unread⟩)

theorem flagOf_of_spoilt {text : String} (spoilt : Spoilt environment name text)
    (missing : Bool) : flagOf environment name missing = .error (.invalidFlag name text) := by
  obtain ⟨set, unread⟩ := spoilt_iff.mp spoilt
  simp only [flagOf, set, unread]

theorem flagOf_eq_error_iff {missing : Bool} {cause : ConfigError} :
    flagOf environment name missing = .error cause ↔
      ∃ text, Spoilt environment name text ∧ cause = .invalidFlag name text := by
  constructor
  · intro told
    have source := flagSource environment name missing
    rw [told] at source
    cases source with
    | spoilt spoilt => exact ⟨_, spoilt, rfl⟩
  · rintro ⟨text, spoilt, rfl⟩
    exact flagOf_of_spoilt spoilt missing

/-- A flag differs from the default exactly if the variable says so. -/
theorem flag_of_flagOf {missing flag : Bool} (told : flagOf environment name missing = .ok flag) :
    flag = !missing ↔ Sets environment name (!missing) := by
  have source := flagSource environment name missing
  rw [told] at source
  cases source with
  | unset vacant =>
    rw [sets_iff, vacant]
    cases missing <;> decide
  | sets sets =>
    rw [sets_iff] at sets ⊢
    rw [sets, Option.some.injEq]

/-- The ways the environment can be looked up. Metrics are looked at last. -/
inductive Lookup (environment : String → Option String) : Except ConfigError Config → Prop where
  | dedupe {cause : ConfigError} (told : flagOf environment dedupeVariable false = .error cause) :
      Lookup environment (.error cause)
  | metrics {dedupe : Bool} {cause : ConfigError}
      (first : flagOf environment dedupeVariable false = .ok dedupe)
      (told : flagOf environment metricsVariable true = .error cause) :
      Lookup environment (.error cause)
  | fine {dedupe collectMetrics : Bool}
      (first : flagOf environment dedupeVariable false = .ok dedupe)
      (second : flagOf environment metricsVariable true = .ok collectMetrics) :
      Lookup environment (.ok {
        insertPolicy := if dedupe then .skipDuplicates else .allowDuplicates
        collectMetrics
        logFilter := (environment logVariable).getD "warn" })

theorem lookup (environment : String → Option String) :
    Lookup environment (ofEnvironment environment) := by
  show Lookup environment (flagOf environment dedupeVariable false >>= fun dedupe =>
    flagOf environment metricsVariable true >>= fun collectMetrics => pure {
      insertPolicy := if dedupe then .skipDuplicates else .allowDuplicates
      collectMetrics
      logFilter := (environment logVariable).getD "warn" })
  rcases first : flagOf environment dedupeVariable false with cause | dedupe
  · exact .dedupe first
  · rcases second : flagOf environment metricsVariable true with cause | collectMetrics
    · exact .metrics first second
    · exact .fine first second

/-- Of two spoilt variables the first one is named. -/
theorem ofEnvironment_eq_error_iff {cause : ConfigError} :
    ofEnvironment environment = .error cause ↔
      ∃ name text, cause = .invalidFlag name text ∧ Spoilt environment name text ∧
        (name = dedupeVariable ∨
          name = metricsVariable ∧ ∀ text, ¬ Spoilt environment dedupeVariable text) := by
  have looked := lookup environment
  generalize ofEnvironment environment = answer at looked
  have sound {flag : Bool} (told : flagOf environment dedupeVariable false = .ok flag) (text) :
      ¬ Spoilt environment dedupeVariable text := by
    intro spoilt
    rw [flagOf_of_spoilt spoilt] at told
    cases told
  constructor
  · rintro rfl
    cases looked with
    | dedupe told =>
      obtain ⟨text, spoilt, rfl⟩ := flagOf_eq_error_iff.mp told
      exact ⟨_, text, rfl, spoilt, .inl rfl⟩
    | metrics first told =>
      obtain ⟨text, spoilt, rfl⟩ := flagOf_eq_error_iff.mp told
      exact ⟨_, text, rfl, spoilt, .inr ⟨rfl, sound first⟩⟩
  · rintro ⟨name, text, rfl, spoilt, rfl | ⟨rfl, sound_first⟩⟩
    · cases looked with
      | dedupe told =>
        rw [Except.error.inj (told.symm.trans (flagOf_of_spoilt spoilt _))]
      | metrics first told => exact absurd spoilt (sound first text)
      | fine first second => exact absurd spoilt (sound first text)
    · cases looked with
      | dedupe told =>
        obtain ⟨text', spoilt', -⟩ := flagOf_eq_error_iff.mp told
        exact absurd spoilt' (sound_first text')
      | metrics first told =>
        rw [Except.error.inj (told.symm.trans (flagOf_of_spoilt spoilt _))]
      | fine first second =>
        rw [flagOf_of_spoilt spoilt] at second
        cases second

theorem fields_of_ofEnvironment {config : Config}
    (loaded : ofEnvironment environment = .ok config) :
    (config.insertPolicy = .skipDuplicates ↔ Sets environment dedupeVariable true) ∧
      (config.collectMetrics = false ↔ Sets environment metricsVariable false) ∧
      config.logFilter = (environment logVariable).getD "warn" := by
  have looked := lookup environment
  rw [loaded] at looked
  cases looked with
  | @fine dedupe collectMetrics first second =>
    have skips : dedupe = true ↔ Sets environment dedupeVariable true := flag_of_flagOf first
    refine ⟨?_, flag_of_flagOf second, rfl⟩
    rw [← skips]
    cases dedupe <;> simp

end Config

namespace CommandLine

variable {surroundings : Surroundings} {options : Options}

/-- The configuration with the option to skip duplicates on top. -/
def Options.on (options : Options) (config : Config) : Config :=
  if options.dedupe then { config with insertPolicy := .skipDuplicates } else config

theorem loadConfig_of_unfiled (unfiled : options.config = none) :
    loadConfig surroundings options =
      ((Config.ofEnvironment surroundings.environment.text?).mapError .environment).map
        options.on := by
  simp only [loadConfig, unfiled]
  rfl

theorem loadConfig_of_filed {path : String} (filed : options.config = some path) :
    loadConfig surroundings options =
      ((Config.ofFile (surroundings.file path)).mapError (.file path)).map options.on := by
  simp only [loadConfig, filed]
  rfl

section Except

variable {α β ε δ : Type} {f : α → β} {g : ε → δ} {answer : Except ε α}

theorem map_mapError_eq_error_iff {cause : δ} :
    (answer.mapError g).map f = .error cause ↔
      ∃ inner, answer = .error inner ∧ g inner = cause := by
  cases answer <;> simp [Except.mapError, Except.map]

theorem map_mapError_eq_ok_iff {b : β} :
    (answer.mapError g).map f = .ok b ↔ ∃ a, answer = .ok a ∧ f a = b := by
  cases answer <;> simp [Except.mapError, Except.map]

end Except

theorem loadConfig_eq_error_of_unfiled (unfiled : options.config = none) {failure : Failure} :
    loadConfig surroundings options = .error failure ↔
      ∃ name text, failure = .environment (.invalidFlag name text) ∧
        Config.Spoilt surroundings.environment.text? name text ∧
        (name = Config.dedupeVariable ∨ name = Config.metricsVariable ∧
          ∀ text, ¬ Config.Spoilt surroundings.environment.text? Config.dedupeVariable text) := by
  rw [loadConfig_of_unfiled unfiled, map_mapError_eq_error_iff]
  simp only [Config.ofEnvironment_eq_error_iff]
  constructor
  · rintro ⟨_, ⟨name, text, rfl, spoilt⟩, rfl⟩
    exact ⟨name, text, rfl, spoilt⟩
  · rintro ⟨name, text, rfl, spoilt⟩
    exact ⟨_, ⟨name, text, rfl, spoilt⟩, rfl⟩

/-- The configuration that a command line gets, as its surroundings tell it. -/
structure Effective (surroundings : Surroundings) (options : Options) : Prop where
  unfiledFails : options.config = none → ∀ failure,
    loadConfig surroundings options = .error failure ↔
      ∃ name text, failure = .environment (.invalidFlag name text) ∧
        Config.Spoilt surroundings.environment.text? name text ∧
        (name = Config.dedupeVariable ∨ name = Config.metricsVariable ∧
          ∀ text, ¬ Config.Spoilt surroundings.environment.text? Config.dedupeVariable text)
  unfiled : options.config = none →
    (∀ text, ¬ Config.Spoilt surroundings.environment.text? Config.dedupeVariable text) →
    (∀ text, ¬ Config.Spoilt surroundings.environment.text? Config.metricsVariable text) →
    ∃ config, loadConfig surroundings options = .ok config ∧
      (config.insertPolicy = .skipDuplicates ↔ options.dedupe = true ∨
        Config.Sets surroundings.environment.text? Config.dedupeVariable true) ∧
      (config.collectMetrics = false ↔
        Config.Sets surroundings.environment.text? Config.metricsVariable false) ∧
      config.logFilter = (surroundings.environment.text? Config.logVariable).getD "warn"
  filed : ∀ path, options.config = some path → ∀ told,
    loadConfig surroundings { options with dedupe := false } = told.mapError (.file path) ↔
      Config.FileTells (surroundings.file path) told
  filedFails : ∀ path, options.config = some path → ∀ failure,
    loadConfig surroundings options = .error failure ↔
      ∃ cause, Config.FileTells (surroundings.file path) (.error cause) ∧
        failure = .file path cause
  /-- Where there is a file, nothing depends on the environment. -/
  unaffected : ∀ path, options.config = some path → ∀ other,
    loadConfig { surroundings with environment := other } options = loadConfig surroundings options
  dedupe : loadConfig surroundings { options with dedupe := true } =
    (loadConfig surroundings { options with dedupe := false }).map
      fun config => { config with insertPolicy := .skipDuplicates }

/-- Without a file, the configuration fails exactly if one of the two flags is set to a text that is
none. The failure names it with that text, dedupe before metrics. Otherwise each field is told by
its own variable, or has its default. With a file the configuration is what the file tells, in
whatever environment. The option to skip duplicates replaces the policy and does nothing else, and
no failure is undone by it. -/
theorem loadConfig_effective (surroundings : Surroundings) (options : Options) :
    Effective surroundings options := by
  constructor
  case unfiledFails => exact fun unfiled failure => loadConfig_eq_error_of_unfiled unfiled
  case unfiled =>
    intro unfiled dedupe_sound metrics_sound
    rcases loaded : loadConfig surroundings options with failure | config
    · obtain ⟨name, text, -, spoilt, rfl | ⟨rfl, -⟩⟩ :=
        (loadConfig_eq_error_of_unfiled unfiled).mp loaded
      · exact absurd spoilt (dedupe_sound text)
      · exact absurd spoilt (metrics_sound text)
    · rw [loadConfig_of_unfiled unfiled, map_mapError_eq_ok_iff] at loaded
      obtain ⟨found, looked, rfl⟩ := loaded
      obtain ⟨policy, metrics, log⟩ := Config.fields_of_ofEnvironment looked
      refine ⟨options.on found, rfl, ?_⟩
      unfold Options.on
      split_ifs with dedupe
      · exact ⟨by simp [dedupe], metrics, log⟩
      · exact ⟨by simp [dedupe, policy], metrics, log⟩
  case filed =>
    intro path filed told
    have filed' : ({ options with dedupe := false } : Options).config = some path := filed
    rw [loadConfig_of_filed filed', ← Config.ofFile_eq_iff]
    cases Config.ofFile (surroundings.file path) <;> cases told <;>
      simp [Except.mapError, Except.map, Options.on]
  case filedFails =>
    intro path filed failure
    rw [loadConfig_of_filed filed, map_mapError_eq_error_iff]
    simp only [Config.ofFile_eq_iff, @eq_comm _ failure]
  case unaffected =>
    intro path filed other
    rw [loadConfig_of_filed filed, loadConfig_of_filed filed]
  case dedupe =>
    rcases options with ⟨dedupe, json, _ | path⟩
    · rw [loadConfig_of_unfiled rfl, loadConfig_of_unfiled rfl]
      cases Config.ofEnvironment surroundings.environment.text? <;> rfl
    · rw [loadConfig_of_filed rfl, loadConfig_of_filed rfl]
      cases Config.ofFile (surroundings.file path) <;> rfl

/-- Metrics are spoilt, but dedupe is not, for blanks and capitals do not matter, and the filter is
set to no text. A file that turns metrics off makes all of that irrelevant, and one that is not
there or tells another kind of value fails for itself. -/
theorem spoilt_environment_ignored_with_file :
    let environment : Environment := ⟨fun name =>
      if name = Config.dedupeVariable then some "\u2003 YeS\n".toUTF8
      else if name = Config.metricsVariable then some " maybe".toUTF8 else some ⟨#[0xff]⟩⟩
    let file : String → FileContents := fun path =>
      if path = "cache.toml" then some "collect_metrics = false\n".toUTF8
      else if path = "wrong.toml" then some "log_filter = 3\n".toUTF8 else none
    let surroundings : Surroundings := { environment, file }
    loadConfig surroundings { dedupe := true } =
        .error (.environment (.invalidFlag Config.metricsVariable " maybe")) ∧
      loadConfig surroundings { config := some "cache.toml" } = .ok { collectMetrics := false } ∧
      loadConfig { surroundings with environment := ⟨fun _ => none⟩ }
        { config := some "cache.toml" } = .ok { collectMetrics := false } ∧
      loadConfig surroundings { config := some "gone.toml" } =
        .error (.file "gone.toml" .unreadable) ∧
      loadConfig surroundings { config := some "wrong.toml" } =
        .error (.file "wrong.toml" .malformed) := by
  intro environment file surroundings
  have effective (path : String) := loadConfig_effective surroundings { config := some path }
  have tells : Config.FileTells (file "cache.toml") (.ok { collectMetrics := false }) := by
    have read :
        Config.ofTomlText? "collect_metrics = false\n" = some { collectMetrics := false } := by
      decide +kernel
    obtain ⟨entries, isToml, told⟩ := Option.bind_eq_some_iff.mp read
    exact .told rfl (by decide) isToml (Config.ofTomlEntries?_eq_some_iff.mp told)
  have misfits : Config.FileTells (file "wrong.toml") (.error .malformed) := by
    have isToml : ∃ entries, Toml.parse? "log_filter = 3\n" = some entries :=
      Option.isSome_iff_exists.mp (by decide +kernel)
    obtain ⟨entries, isToml⟩ := isToml
    have read : Config.ofTomlText? "log_filter = 3\n" = none := by decide +kernel
    rw [Config.ofTomlText?, isToml, Option.bind_some] at read
    exact .misfits rfl (by decide) isToml (Config.ofTomlEntries?_eq_none_iff.mp read)
  have loaded := ((effective "cache.toml").filed _ rfl _).mpr tells
  refine ⟨?_, loaded, ((effective "cache.toml").unaffected _ rfl _).trans loaded,
    ((effective "gone.toml").filed _ rfl (.error .unreadable)).mpr (.gone rfl),
    ((effective "wrong.toml").filed _ rfl _).mpr misfits⟩
  have unfiled := (loadConfig_effective surroundings { dedupe := true }).unfiledFails rfl
  refine (unfiled _).mpr
    ⟨_, " maybe", rfl, Config.spoilt_iff.mpr ⟨by decide, by decide⟩, .inr ⟨rfl, ?_⟩⟩
  intro text spoilt
  obtain ⟨set, unread⟩ := Config.spoilt_iff.mp spoilt
  have given : environment.text? Config.dedupeVariable = some "\u2003 YeS\n" := by decide
  obtain rfl : "\u2003 YeS\n" = text := Option.some.inj (given.symm.trans set)
  exact absurd unread (by decide)

end CommandLine

end DispatchCache
