import DispatchCache.Config.Toml
import DispatchCache.Text.Blank

/-! # Where a configuration comes from

The environment sets fields one by one; a file sets all of them at once. -/

namespace DispatchCache

inductive ConfigError where
  | invalidFlag (name value : String)
  | unreadable
  | malformed
  deriving DecidableEq, Repr

def ConfigError.message : ConfigError → String
  | .invalidFlag name value =>
    "invalid value `" ++ value ++ "` for " ++ name ++ ": expected true/false/1/0"
  | .unreadable => "failed to read config file"
  | .malformed => "failed to parse config file"

/-- A flag in words: blanks around it do not matter, nor does the case of its letters. -/
def flag? (value : String) : Option Bool :=
  let word := String.ofList ((Text.trimmed value.toList).map Char.toLower)
  if word ∈ ["1", "true", "yes", "on"] then some true
  else if word ∈ ["0", "false", "no", "off"] then some false
  else none

/-- The variables around a program. A variable is set to bytes, which need not be a text. -/
structure Environment where
  bytes? : String → Option ByteArray

namespace Environment

/-- Variables that are set to texts. -/
def ofTexts (texts : String → Option String) : Environment :=
  ⟨fun name => (texts name).map String.toUTF8⟩

instance : Coe (String → Option String) Environment := ⟨ofTexts⟩

/-- The text that a variable is set to. A variable whose bytes are no text counts as not set. -/
def text? (environment : Environment) (name : String) : Option String :=
  (environment.bytes? name).bind String.fromUTF8?

@[simp] theorem text?_ofTexts (texts : String → Option String) : (ofTexts texts).text? = texts := by
  funext name
  cases given : texts name <;>
    simp [text?, ofTexts, given, String.fromUTF8?, String.fromUTF8, String.isValidUTF8]

end Environment

/-- What a file holds: bytes, unless it cannot be read at all. -/
abbrev FileContents := Option ByteArray

namespace Config

def dedupeVariable : String := "MULTICACHE_DEDUPE"

def metricsVariable : String := "MULTICACHE_METRICS"

def logVariable : String := "MULTICACHE_LOG"

/-- The flag that a variable sets, or `missing` if it is not set. -/
def flagOf (environment : String → Option String) (name : String) (missing : Bool) :
    Except ConfigError Bool :=
  match environment name with
  | none => .ok missing
  | some value =>
    match flag? value with
    | some flag => .ok flag
    | none => .error (.invalidFlag name value)

/-- The configuration by the texts of variables. -/
def ofEnvironment (environment : String → Option String) : Except ConfigError Config := do
  let defaults : Config := {}
  let dedupe ← flagOf environment dedupeVariable false
  let collectMetrics ← flagOf environment metricsVariable defaults.collectMetrics
  return {
    insertPolicy := if dedupe then .skipDuplicates else .allowDuplicates
    collectMetrics
    logFilter := (environment logVariable).getD defaults.logFilter }

def ofFile (contents : FileContents) : Except ConfigError Config :=
  match contents.bind String.fromUTF8? with
  | none => .error .unreadable
  | some text =>
    match ofTomlText? text with
    | some config => .ok config
    | none => .error .malformed

end Config

end DispatchCache
