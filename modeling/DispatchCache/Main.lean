import DispatchCache.CommandLine.Program

/-! # Running the program

Collects what the program asks for, runs it, and writes what it answers. -/

open DispatchCache CommandLine

/-- The bytes of a file, if they can be read. -/
def readContents (path : String) : IO FileContents := do
  try
    return some (← IO.FS.readBinFile path)
  catch _ => return none

/-- The variables that the program looks at. -/
def knownVariables : List String :=
  [Config.dedupeVariable, Config.metricsVariable, Config.logVariable, "RUST_LOG",
   "CLICOLOR_FORCE", "NO_COLOR", "CLICOLOR"]

def readVariables : IO (List (String × String)) :=
  knownVariables.filterMapM fun name => do
    return (← IO.getEnv name).map (name, ·)

def configPath? (args : List String) : Option String :=
  match parse args with
  | .ok invocation => invocation.options.config
  | .error _ => none

def main (args : List String) : IO UInt32 := do
  let environment ← readVariables
  let path? := configPath? args
  let contents ← match path? with
    | some path => readContents path
    | none => pure none
  let output ← IO.getStdout
  let result := program
    { environment := Environment.ofTexts fun name => environment.lookup name
      file := fun path => if path? = some path then contents else none
      terminal := ← output.isTty } args
  result.log.forM fun line => IO.eprintln line.render
  IO.eprint result.errors
  output.putStr result.output
  return result.exit
