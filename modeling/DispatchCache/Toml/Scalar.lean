import DispatchCache.Toml.Value
import DispatchCache.Text.Hex

/-! # TOML numbers, dates and times

A scalar without quotes is a word of letters, digits and a few signs. What kind it is
follows from its form alone. -/

namespace DispatchCache.Toml

def isWordChar (c : Char) : Bool :=
  c.isAlphanum || c = '_' || c = '+' || c = '-' || c = '.' || c = ':'

/-- Digits behind a first one; an underscore must stand between two of them. -/
def moreDigits (isDigit : Char → Bool) : List Char → Option (List Char × List Char)
  | [] => some ([], [])
  | ['_'] => none
  | '_' :: c :: rest =>
    if isDigit c then (moreDigits isDigit rest).map fun (digits, rest) => (c :: digits, rest)
    else none
  | c :: rest =>
    if isDigit c then (moreDigits isDigit rest).map fun (digits, rest) => (c :: digits, rest)
    else some ([], c :: rest)

/-- One digit or more. -/
def digits (isDigit : Char → Bool) : List Char → Option (List Char × List Char)
  | c :: rest =>
    if isDigit c then (moreDigits isDigit rest).map fun (digits, rest) => (c :: digits, rest)
    else none
  | [] => none

def valueIn (base : Nat) (digits : List Char) : Nat :=
  digits.foldl (fun n c => base * n + (Text.hexValue c).getD 0) 0

def splitSign : List Char → Bool × List Char
  | '-' :: rest => (true, rest)
  | '+' :: rest => (false, rest)
  | chars => (false, chars)

/-- The part of a decimal number before point and exponent: a zero alone, or digits that do
not start with one. -/
def wholePart : List Char → Option (List Char × List Char)
  | '0' :: rest => some (['0'], rest)
  | chars => digits Char.isDigit chars

/-- Whole numbers have 64 bits with a sign. -/
def inRange (value : Int) : Bool := Int64.minValue.toInt ≤ value && value ≤ Int64.maxValue.toInt

def based (base : Nat) (isDigit : Char → Bool) (chars : List Char) : Option Int := do
  let (digits, rest) ← digits isDigit chars
  let value : Int := valueIn base digits
  if rest.isEmpty && inRange value then some value else none

def isHexDigit (c : Char) : Bool := (Text.hexValue c).isSome

def integer? : List Char → Option Int
  | '0' :: 'x' :: rest => based 16 isHexDigit rest
  | '0' :: 'o' :: rest => based 8 (fun c => '0' ≤ c && c ≤ '7') rest
  | '0' :: 'b' :: rest => based 2 (fun c => c = '0' || c = '1') rest
  | chars => do
    let (negative, unsigned) := splitSign chars
    let (digits, rest) ← wholePart unsigned
    let size : Int := valueIn 10 digits
    let value := if negative then -size else size
    if rest.isEmpty && inRange value then some value else none

/-- A decimal float: sign, digits without the point, and the power of ten of the last one. -/
structure Scientific where
  negative : Bool
  digits : Nat
  exponent : Int
  deriving DecidableEq, Repr

/-- An exponent behind its letter. -/
def exponentPart (chars : List Char) : Option Int := do
  let (negative, unsigned) := splitSign chars
  let (digits, rest) ← digits Char.isDigit unsigned
  let size : Int := valueIn 10 digits
  if rest.isEmpty then some (if negative then -size else size) else none

def isExponentMark (c : Char) : Bool := c = 'e' || c = 'E'

def scientific? (chars : List Char) : Option Scientific := do
  let (negative, unsigned) := splitSign chars
  let (whole, rest) ← wholePart unsigned
  match rest with
  | '.' :: rest =>
    let (fraction, rest) ← digits Char.isDigit rest
    let number := valueIn 10 (whole ++ fraction)
    match rest with
    | [] => some ⟨negative, number, -fraction.length⟩
    | c :: rest =>
      if isExponentMark c then
        (exponentPart rest).map fun exponent => ⟨negative, number, exponent - fraction.length⟩
      else none
  | c :: rest =>
    if isExponentMark c then
      (exponentPart rest).map fun exponent => ⟨negative, valueIn 10 whole, exponent⟩
    else none
  | [] => none

/-- Whether a number is too large for a float, that is, rounds to infinity. Only numbers of
about the size of the largest float are looked at closely. -/
def Scientific.isHuge (number : Scientific) : Bool :=
  let magnitude := number.exponent + (Nat.toDigits 10 number.digits).length
  if number.digits = 0 || magnitude < 300 then false
  else if 400 < magnitude then true
  else
    let limit := Nat.pow 2 1024 - Nat.pow 2 970
    limit * Nat.pow 10 (-number.exponent).toNat ≤ number.digits * Nat.pow 10 number.exponent.toNat

/-- Floats may be infinite by name, or by size if they are negative. -/
def isFloat (chars : List Char) : Bool :=
  let unsigned := (splitSign chars).2
  unsigned = ['i', 'n', 'f'] || unsigned = ['n', 'a', 'n'] ||
    (scientific? chars).any fun number => number.negative || !number.isHuge

/-- Exactly `count` digits. -/
def fixedDigits (count : Nat) (chars : List Char) : Option (Nat × List Char) :=
  let front := chars.take count
  if front.length = count && front.all Char.isDigit then
    some (valueIn 10 front, chars.drop count)
  else none

def expect (c : Char) : List Char → Option (List Char)
  | d :: rest => if d = c then some rest else none
  | [] => none

def daysIn (year month : Nat) : Nat :=
  if month = 2 then
    if year % 4 = 0 && (year % 100 ≠ 0 || year % 400 = 0) then 29 else 28
  else if month = 4 || month = 6 || month = 9 || month = 11 then 30
  else 31

/-- Reads a date of the calendar and returns what is behind it. -/
def afterDate (chars : List Char) : Option (List Char) := do
  let (year, rest) ← fixedDigits 4 chars
  let (month, rest) ← fixedDigits 2 (← expect '-' rest)
  let (day, rest) ← fixedDigits 2 (← expect '-' rest)
  if 1 ≤ month && month ≤ 12 && 1 ≤ day && day ≤ daysIn year month then some rest else none

def afterFraction : List Char → Option (List Char)
  | '.' :: rest =>
    let behind := rest.dropWhile Char.isDigit
    if behind.length < rest.length then some behind else none
  | chars => some chars

/-- Reads a time of the day, leap seconds included, and returns what is behind it. -/
def afterTime (chars : List Char) : Option (List Char) := do
  let (hour, rest) ← fixedDigits 2 chars
  let (minute, rest) ← fixedDigits 2 (← expect ':' rest)
  let (second, rest) ← fixedDigits 2 (← expect ':' rest)
  if hour ≤ 23 && minute ≤ 59 && second ≤ 60 then afterFraction rest else none

def isOffset : List Char → Bool
  | [] | ['Z'] | ['z'] => true
  | c :: rest =>
    (c = '+' || c = '-') &&
      (do
        let (hour, rest) ← fixedDigits 2 rest
        let (minute, rest) ← fixedDigits 2 (← expect ':' rest)
        return hour ≤ 23 && minute ≤ 59 && rest.isEmpty : Option Bool) = some true

/-- A time with or without an offset, as it may follow a date. -/
def isTimeOfDate (chars : List Char) : Bool := (afterTime chars).any isOffset

def isDate (chars : List Char) : Bool := afterDate chars = some []

def isMoment (chars : List Char) : Bool :=
  afterTime chars = some [] ||
    (afterDate chars).any fun rest =>
      match rest with
      | [] => true
      | c :: rest => (c = 'T' || c = 't') && isTimeOfDate rest

def ofWord (chars : List Char) : Option Toml :=
  let text := String.ofList chars
  if chars = ['t', 'r', 'u', 'e'] then some (.boolean true)
  else if chars = ['f', 'a', 'l', 's', 'e'] then some (.boolean false)
  else if isMoment chars then some (.moment text)
  else if isFloat chars then some (.float text)
  else (integer? chars).map .integer

/-- Reads a scalar without quotes. A date and a time may have one blank between them. -/
def scalar (chars : List Char) : Option (Toml × List Char) :=
  let word := chars.takeWhile isWordChar
  let rest := chars.drop word.length
  let time := (rest.drop 1).takeWhile isWordChar
  if isDate word && rest.head? = some ' ' && isTimeOfDate time then
    some (.moment (String.ofList (word ++ ' ' :: time)), rest.drop (time.length + 1))
  else (ofWord word).map fun value => (value, rest)

end DispatchCache.Toml
