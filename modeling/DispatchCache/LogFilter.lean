import DispatchCache.Event
import DispatchCache.Text.Blank
import DispatchCache.Text.Count

/-! # Log filters

A filter is a list of directives, separated by commas. A directive names a target, a scope
in brackets, a level, or several of these; of the directives that concern a line, the
narrowest decides. -/

namespace DispatchCache

/-- What the brackets of a directive say. -/
inductive Directive.Scope where
  | everywhere
  /-- Lines that have a field of this name. -/
  | withField (name : String)
  /-- Lines inside of spans. No line is inside one. -/
  | inSpan
  deriving DecidableEq, Repr

structure Directive where
  /-- A prefix of the targets that the directive is about; without one it is about all. -/
  target : Option String
  scope : Directive.Scope := .everywhere
  /-- The rank of the most detailed level that passes; 0 lets nothing pass. -/
  limit : Nat
  deriving DecidableEq, Repr

structure LogFilter where
  directives : List Directive
  deriving DecidableEq, Repr

/-- The rank of a level, by number or by its name in letters of any case. -/
def Level.rank? (text : String) : Option Nat :=
  let word := String.ofList (text.toList.map Char.toLower)
  match Text.count? text with
  | some n => if n ≤ 5 then some n else none
  | none =>
    if word = "off" then some 0
    else if word = "error" then some 1
    else if word = "warn" then some 2
    else if word = "info" then some 3
    else if word = "debug" then some 4
    else if word = "trace" then some 5
    else none

namespace Directive

/-- What stands in brackets, and the text behind them. A name in front of braces is a span's,
and so is a field with a value. -/
def Scope.parse? (chars : List Char) : Option (Scope × List Char) :=
  let span := chars.takeWhile fun c => c ≠ '\x7b' && c ≠ ']'
  match chars.drop span.length with
  | ']' :: rest => some (.inSpan, rest)
  | '\x7b' :: rest =>
    let field := rest.takeWhile (· ≠ '\x7d')
    match rest.drop field.length with
    | '\x7d' :: ']' :: rest =>
      if field.isEmpty then none
      else if span.isEmpty && !field.contains '=' then
        some (.withField (String.ofList field), rest)
      else some (.inSpan, rest)
    | _ => none
  | _ => none

/-- The level behind an equals sign; without one every level passes. -/
def limit? (chars : List Char) : Option Nat :=
  match chars with
  | [] | ['='] => some Level.trace.rank
  | '=' :: level => Level.rank? (String.ofList level)
  | _ => none

/-- Directives start with a bracket, a letter, a digit or one of three signs. Beyond ASCII
every character passes for a letter. -/
def isStart (c : Char) : Bool :=
  c.isAlphanum || 0x80 ≤ c.toNat || c = '[' || c = '-' || c = ':' || c = '_'

/-- Reads a directive without blanks around it: a level alone, or a target and a scope with a
level behind them. -/
def ofChars? (chars : List Char) : Option Directive := do
  let name := chars.takeWhile fun c => c ≠ '=' && c ≠ '['
  let target := if name.isEmpty then none else some (String.ofList name)
  match chars.drop name.length with
  | [] =>
    match Level.rank? (String.ofList name) with
    | some limit => return { target := none, limit }
    | none => return { target, limit := Level.trace.rank }
  | '[' :: rest =>
    let (scope, rest) ← Scope.parse? rest
    return { target, scope, limit := ← limit? rest }
  | rest => return { target, limit := ← limit? rest }

/-- Reads one directive. Blanks may stand behind a scope. Where else they stand around a
directive, its level cannot be read; without a level it names a target that no line has. -/
def parse? (text : String) : Option Directive := do
  let chars := text.toList
  let inner := Text.trimmed chars
  let directive ← if inner.head?.any isStart then ofChars? inner else none
  let endsInScope := inner.getLast? = some ']'
  if inner = chars ∨ (endsInScope ∧ inner.head? = chars.head?) then return directive
  else if '=' ∈ inner ∧ ¬ endsInScope then none
  else return { target := some text, limit := Level.trace.rank }

/-- Whether a directive decides rather than another before it: a target is narrower than none,
and the longer the narrower; then a field is narrower than none. Of equals the later decides. -/
def outweighs (a b : Directive) : Bool :=
  let width (directive : Directive) :=
    directive.target.elim 0 fun target => target.utf8ByteSize + 1
  match compare (width a) (width b), a.scope, b.scope with
  | .gt, _, _ => true
  | .lt, _, _ => false
  | .eq, .withField a, .withField b => b ≤ a
  | .eq, .withField _, _ => true
  | .eq, _, .withField _ => false
  | .eq, _, _ => true

def concerns (directive : Directive) (line : LogLine) : Bool :=
  directive.target.all (·.isPrefixOf line.target) &&
    match directive.scope with
    | .everywhere => true
    | .withField name => line.hasField name
    | .inSpan => false

end Directive

namespace LogFilter

def parts (text : String) : List String := (text.splitOn ",").filter (· ≠ "")

/-- A filter without directives lets errors pass. -/
def ofDirectives (directives : List Directive) : LogFilter :=
  ⟨if directives.isEmpty then [{ target := none, limit := Level.error.rank }] else directives⟩

/-- Reads a filter, if all of its directives can be read. -/
def parse? (text : String) : Option LogFilter :=
  ((parts text).mapM Directive.parse?).map ofDirectives

/-- Reads a filter and passes over what cannot be read. -/
def lenient (text : String) : LogFilter := ofDirectives ((parts text).filterMap Directive.parse?)

/-- The narrowest directive for a line; of two that are equally narrow, the later one. -/
def deciding? (filter : LogFilter) (line : LogLine) : Option Directive :=
  (filter.directives.filter (·.concerns line)).foldl (fun best directive =>
    match best with
    | none => some directive
    | some chosen => if directive.outweighs chosen then some directive else best) none

def passes (filter : LogFilter) (line : LogLine) : Bool :=
  (filter.deciding? line).any fun directive => line.level.rank ≤ directive.limit

end LogFilter

end DispatchCache
