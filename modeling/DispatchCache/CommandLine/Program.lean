import DispatchCache.CommandLine.Arguments
import DispatchCache.Config.Source
import DispatchCache.Config.Json
import DispatchCache.LogFilter
import DispatchCache.Report
import DispatchCache.Cache.Shown

/-! # The program

What a command line does, as a function of the environment and of the files it may read. -/

namespace DispatchCache.CommandLine

/-- What the program finds around it. -/
structure Surroundings where
  environment : Environment
  file : String → FileContents
  /-- Whether standard output is a terminal. -/
  terminal : Bool := false

structure Result where
  exit : UInt32 := 0
  output : String := ""
  errors : String := ""
  log : List LogLine := []

/-- Why a command fails. -/
inductive Failure where
  | environment (cause : ConfigError)
  | file (path : String) (cause : ConfigError)
  | noRounds
  | simulation (cause : Reference.ModelError)
  deriving DecidableEq, Repr

/-- A text with each of its lines four columns in. -/
def indented (text : String) : String :=
  "\n".intercalate ((text.splitOn "\n").map fun line => "    " ++ line)

/-- The failure and what it comes from. A file's failure has causes behind this one, so it
is numbered. -/
def Failure.message : Failure → String
  | .environment cause =>
    "invalid environment configuration\n\nCaused by:\n" ++ indented cause.message
  | .file path cause => "failed to load " ++ path ++ "\n\nCaused by:\n    0: " ++ cause.message
  | .noRounds => "--rounds must be at least 1"
  | .simulation cause =>
    "simulation failed\n\nCaused by:\n    0: failed to decontainerize argument\n    1: " ++
      cause.message

/-- The configuration that counts: a file's, or else the environment's, with the option to
skip duplicates on top. -/
def loadConfig (surroundings : Surroundings) (options : Options) : Except Failure Config := do
  let config ← match options.config with
    | some path => (Config.ofFile (surroundings.file path)).mapError (.file path)
    | none => (Config.ofEnvironment surroundings.environment.text?).mapError .environment
  return if options.dedupe then { config with insertPolicy := .skipDuplicates } else config

/-- The filter of the environment, if it has one that can be read, or else the
configuration's. -/
def logFilter (surroundings : Surroundings) (config : Config) : LogFilter :=
  let filterOf (name : String) := (surroundings.environment.text? name).bind LogFilter.parse?
  ((filterOf Config.logVariable) <|> (filterOf "RUST_LOG")).getD
    (LogFilter.lenient config.logFilter)

/-- Colours can be forced; otherwise they are for terminals and can be turned off. -/
def usesColours (surroundings : Surroundings) : Bool :=
  if (surroundings.environment.text? "CLICOLOR_FORCE").any (· ≠ "0") then true
  else if (surroundings.environment.text? "NO_COLOR").isSome then false
  else surroundings.terminal && (surroundings.environment.text? "CLICOLOR").all (· ≠ "0")

def loadedLine (config : Config) : LogLine :=
  ⟨.debug, "multicache::cli", "configuration loaded", [("config", config.shown)]⟩

/-- Runs a command. What it logs is returned unfiltered. -/
def Invocation.run (invocation : Invocation) (config : Config) (colours : Bool) :
    Except Failure String × List LogLine :=
  match invocation.command with
  | .config => (.ok (config.toJsonText ++ "\n"), [])
  | .simulate workload =>
    if workload.rounds = 0 then (.error .noRounds, [])
    else
      match runSimulation config workload with
      | (.error (.decontainerize cause), log) => (.error (.simulation cause), log)
      | (.ok report, log) =>
        let text :=
          if invocation.options.json then report.toJsonText ++ "\n" else report.render colours
        (.ok text, log)

def failed (failure : Failure) (log : List LogLine) : Result :=
  { exit := 1, errors := "Error: " ++ failure.message ++ "\n", log }

def usageText : String := "Usage: multicache [OPTIONS] <COMMAND>\n"

def helpText : String :=
  "Multi-dispatch cache toolbox\n\n" ++ usageText ++ "\nCommands:\n" ++
  "  simulate  Dispatches a synthetic workload through one cached call site\n" ++
  "  config    Prints the effective configuration\n" ++
  "  help      Print this message\n\nOptions:\n" ++
  "      --dedupe           Skip inserting fingerprints that are already cached\n" ++
  "      --json             Print machine-readable JSON instead of a summary\n" ++
  "      --config <CONFIG>  Load settings from a TOML file instead of the environment\n" ++
  "  -h, --help             Print help\n" ++
  "  -V, --version          Print version\n"

def versionText : String := "multicache 0.1.0\n"

def program (surroundings : Surroundings) (args : List String) : Result :=
  match parse args with
  | .error .usage => { exit := 2, errors := usageText }
  | .error .version => { output := versionText }
  | .error .help => { output := helpText }
  | .ok invocation =>
    match loadConfig surroundings invocation.options with
    | .error failure => failed failure []
    | .ok config =>
      let (answer, log) := invocation.run config (usesColours surroundings)
      let log := (loadedLine config :: log).filter (logFilter surroundings config).passes
      match answer with
      | .error failure => failed failure log
      | .ok output => { output, log }

end DispatchCache.CommandLine
