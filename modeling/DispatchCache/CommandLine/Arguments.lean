import DispatchCache.Simulation
import DispatchCache.Text.Count

/-! # Arguments of the command line

Options may stand before or behind the command, at each place once; where an option that
takes a value stands at both, the one behind the command counts. -/

namespace DispatchCache.CommandLine

structure Options where
  dedupe : Bool := false
  json : Bool := false
  config : Option String := none
  deriving DecidableEq, Repr

inductive Command where
  | simulate (workload : Workload)
  | config
  deriving DecidableEq, Repr

structure Invocation where
  options : Options
  command : Command
  deriving DecidableEq, Repr

/-- Reasons not to run a command. -/
inductive Stop where
  | usage
  | version
  | help
  deriving DecidableEq, Repr

/-- An argument by its form. -/
inductive Form where
  /-- Two dashes, behind which nothing is an option. -/
  | dashes
  | long (name : String) (attached : Option String)
  | short (letter : Char)
  | word
  deriving DecidableEq, Repr

def formOf (arg : String) : Form :=
  match arg.toList with
  | ['-', '-'] => .dashes
  | '-' :: '-' :: chars =>
    let name := chars.takeWhile (· ≠ '=')
    match chars.drop name.length with
    | _ :: value => .long (String.ofList name) (some (String.ofList value))
    | [] => .long (String.ofList name) none
  | '-' :: letter :: _ => .short letter
  | _ => .word

/-- The options given at one place, last first, with their values. -/
abbrev Given := List (String × String)

def globalFlags : List String := ["dedupe", "json"]

/-- What a place knows: options with values, and whether the version can be asked for. -/
structure Place where
  valued : List String
  knowsVersion : Bool

def top : Place := ⟨["config"], true⟩

def behindSimulate : Place := ⟨["config", "arity", "shapes", "rounds"], false⟩

def behindConfig : Place := ⟨["config"], false⟩

/-- Paths are not empty, and all other values are numbers. -/
def isValidFor (name value : String) : Bool :=
  if name = "config" then value ≠ "" else (Text.count? value).isSome

def accept (given : Given) (name value : String) : Except Stop Given :=
  if (given.lookup name).isSome then .error .usage else .ok ((name, value) :: given)

def acceptValue (given : Given) (name value : String) : Except Stop Given :=
  if isValidFor name value then accept given name value else .error .usage

/-- What the arguments of a place lead to: its options, and the first word with all behind it. -/
structure Split where
  given : Given
  behind : Option (String × List String)

/-- Reads options up to the first word. An option without its value waits in `pending`. -/
def split (place : Place) (given : Given) (pending : Option String) :
    List String → Except Stop Split
  | [] => if pending.isSome then .error .usage else .ok ⟨given, none⟩
  | arg :: rest =>
    match pending, formOf arg with
    | some name, .word => do split place (← acceptValue given name arg) none rest
    | some _, _ => .error .usage
    | none, .word => .ok ⟨given, some (arg, rest)⟩
    | none, .dashes => if rest.isEmpty then .ok ⟨given, none⟩ else .error .usage
    | none, .short letter =>
      if letter = 'h' then .error .help
      else if letter = 'V' ∧ place.knowsVersion then .error .version
      else .error .usage
    | none, .long name attached =>
      if name ∈ globalFlags ∧ attached.isNone then do
        split place (← accept given name "") none rest
      else if name ∈ place.valued then
        match attached with
        | some value => do split place (← acceptValue given name value) none rest
        | none => split place given (some name) rest
      else if name = "help" ∧ attached.isNone then .error .help
      else if name = "version" ∧ attached.isNone ∧ place.knowsVersion then .error .version
      else .error .usage

/-- The options behind a command, where no further word may stand. -/
def behind (place : Place) (args : List String) : Except Stop Given := do
  let found ← split place [] none args
  if found.behind.isSome then .error .usage else .ok found.given

def optionsOf (before after : Given) : Options where
  dedupe := ((after ++ before).lookup "dedupe").isSome
  json := ((after ++ before).lookup "json").isSome
  config := (after ++ before).lookup "config"

def workloadOf (given : Given) : Workload :=
  let number (name : String) (missing : Nat) :=
    ((given.lookup name).bind Text.count?).getD missing
  { arity := number "arity" 2, shapes := number "shapes" 8, rounds := number "rounds" 100 }

def parse (args : List String) : Except Stop Invocation := do
  let found ← split top [] none args
  match found.behind with
  | some ("simulate", rest) =>
    let after ← behind behindSimulate rest
    return ⟨optionsOf found.given after, .simulate (workloadOf after)⟩
  | some ("config", rest) =>
    let after ← behind behindConfig rest
    return ⟨optionsOf found.given after, .config⟩
  | some ("help", []) | some ("help", ["simulate"]) | some ("help", ["config"])
  | some ("help", ["help"]) => .error .help
  | _ => .error .usage

end DispatchCache.CommandLine
