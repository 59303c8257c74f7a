import DispatchCache.Text.Hex

/-! # JSON tokens

Text is read one character at a time by a machine whose state holds the token that is
being read. Reading a text in two pieces is the same as reading it whole. -/

namespace DispatchCache.Json

inductive Token where
  | openArray
  | closeArray
  | openObject
  | closeObject
  | comma
  | colon
  | null
  | bool (value : Bool)
  /-- A number as it is written. -/
  | number (text : String)
  /-- A string; `none` if its escapes leave half of a surrogate pair alone. -/
  | string (text : Option String)
  deriving DecidableEq, Repr

/-- What stands between quotes: characters as such, and code units given by number. -/
inductive Piece where
  | char (c : Char)
  | unit (code : Nat)
  deriving DecidableEq, Repr

def isHighSurrogate (code : Nat) : Bool := 0xD800 ≤ code && code < 0xDC00

def isLowSurrogate (code : Nat) : Bool := 0xDC00 ≤ code && code < 0xE000

/-- The characters of a string, where two code units may make one character. -/
def joinPieces : List Piece → Option (List Char)
  | [] => some []
  | .char c :: rest => (joinPieces rest).map (c :: ·)
  | .unit high :: rest =>
    if isHighSurrogate high then
      match rest with
      | .unit low :: rest =>
        if isLowSurrogate low then
          (joinPieces rest).map
            (Char.ofNat (0x10000 + (high - 0xD800) * 0x400 + (low - 0xDC00)) :: ·)
        else none
      | _ => none
    else if isLowSurrogate high then none
    else (joinPieces rest).map (Char.ofNat high :: ·)

/-- What has been read of the current token. Parts are kept last first. -/
inductive Mode where
  | idle
  | word (chars : List Char)
  | number (chars : List Char)
  | string (pieces : List Piece)
  | escape (pieces : List Piece)
  | hex (pieces : List Piece) (count value : Nat)
  deriving DecidableEq, Repr

structure Scan where
  mode : Mode := .idle
  /-- The tokens so far, last first. -/
  tokens : List Token := []
  deriving DecidableEq, Repr

def isBlank (c : Char) : Bool := c = ' ' || c = '\t' || c = '\n' || c = '\r'

def isNumberChar (c : Char) : Bool :=
  c.isDigit || c = '-' || c = '+' || c = '.' || c = 'e' || c = 'E'

/-- Drops digits, of which there must be one at least. -/
def dropDigits (chars : List Char) : Option (List Char) :=
  match chars with
  | c :: rest => if c.isDigit then some (rest.dropWhile Char.isDigit) else none
  | [] => none

/-- The part of a number before point and exponent: a zero alone, or no zero in front. -/
def dropWhole : List Char → Option (List Char)
  | '0' :: rest => some rest
  | chars => dropDigits chars

def dropFraction : List Char → Option (List Char)
  | '.' :: rest => dropDigits rest
  | chars => some chars

def dropExponent : List Char → Option (List Char)
  | c :: rest =>
    if c = 'e' ∨ c = 'E' then
      match rest with
      | '+' :: digits | '-' :: digits => dropDigits digits
      | digits => dropDigits digits
    else some (c :: rest)
  | [] => some []

def isNumber (chars : List Char) : Bool :=
  let unsigned := match chars with
    | '-' :: rest => rest
    | all => all
  ((dropWhole unsigned).bind dropFraction).bind dropExponent = some []

def ofWord (chars : List Char) : Option Token :=
  if chars = ['n', 'u', 'l', 'l'] then some .null
  else if chars = ['t', 'r', 'u', 'e'] then some (.bool true)
  else if chars = ['f', 'a', 'l', 's', 'e'] then some (.bool false)
  else none

def ofEscape (c : Char) : Option Char :=
  if c = '"' ∨ c = '\\' ∨ c = '/' then some c
  else if c = 'b' then some '\x08'
  else if c = 'f' then some '\x0c'
  else if c = 'n' then some '\n'
  else if c = 'r' then some '\r'
  else if c = 't' then some '\t'
  else none

namespace Scan

def emit (scan : Scan) (token : Token) : Scan := ⟨.idle, token :: scan.tokens⟩

/-- Ends a token that only the next character, or the end of the text, can end. -/
def settle (scan : Scan) : Option Scan :=
  match scan.mode with
  | .idle => some scan
  | .word chars => (ofWord chars.reverse).map scan.emit
  | .number chars =>
    if isNumber chars.reverse then some (scan.emit (.number (String.ofList chars.reverse)))
    else none
  | .string _ | .escape _ | .hex _ _ _ => none

/-- Begins a token. -/
def start (scan : Scan) (c : Char) : Option Scan :=
  if isBlank c then some scan
  else if c = '[' then some (scan.emit .openArray)
  else if c = ']' then some (scan.emit .closeArray)
  else if c = '\x7b' then some (scan.emit .openObject)
  else if c = '\x7d' then some (scan.emit .closeObject)
  else if c = ',' then some (scan.emit .comma)
  else if c = ':' then some (scan.emit .colon)
  else if c = '"' then some { scan with mode := .string [] }
  else if c.isDigit ∨ c = '-' then some { scan with mode := .number [c] }
  else if c.isLower then some { scan with mode := .word [c] }
  else none

def step (scan : Scan) (c : Char) : Option Scan :=
  match scan.mode with
  | .idle => scan.start c
  | .word chars =>
    if c.isLower then some { scan with mode := .word (c :: chars) }
    else scan.settle.bind (·.start c)
  | .number chars =>
    if isNumberChar c then some { scan with mode := .number (c :: chars) }
    else scan.settle.bind (·.start c)
  | .string pieces =>
    if c = '"' then
      some (scan.emit (.string ((joinPieces pieces.reverse).map String.ofList)))
    else if c = '\\' then some { scan with mode := .escape pieces }
    else if c.toNat < 0x20 then none
    else some { scan with mode := .string (.char c :: pieces) }
  | .escape pieces =>
    if c = 'u' then some { scan with mode := .hex pieces 0 0 }
    else (ofEscape c).map fun c => { scan with mode := .string (.char c :: pieces) }
  | .hex pieces count value =>
    (Text.hexValue c).map fun digit =>
      let value := 16 * value + digit
      if count = 3 then { scan with mode := .string (.unit value :: pieces) }
      else { scan with mode := .hex pieces (count + 1) value }

end Scan

/-- The tokens of a text, if it has any reading. -/
def tokens? (text : String) : Option (List Token) :=
  ((text.toList.foldlM Scan.step {}).bind Scan.settle).map fun scan => scan.tokens.reverse

end DispatchCache.Json
