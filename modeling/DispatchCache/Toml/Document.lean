import DispatchCache.Toml.Scalar
import DispatchCache.Toml.Strings

/-! # TOML documents

A document is read line by line: blank lines and comments, headers that open a table, and
keys with values for the table that was opened last. -/

namespace DispatchCache.Toml

/-- How deep arrays and inline tables may be nested, and how long a dotted key may be. -/
def maxNesting : Nat := 79

/-- Drops blanks, line ends and comments, each of which must end with its line. -/
def dropTrivia : Bool → List Char → Option (List Char)
  | false, '\n' :: rest => dropTrivia false rest
  | false, '\r' :: '\n' :: rest => dropTrivia false rest
  | false, c :: rest =>
    if isBlank c then dropTrivia false rest
    else if c = '#' then dropTrivia true rest
    else some (c :: rest)
  | false, [] => some []
  | true, '\n' :: rest => dropTrivia false rest
  | true, '\r' :: '\n' :: rest => dropTrivia false rest
  | true, c :: rest => if isPlain c then dropTrivia true rest else none
  | true, [] => none

/-- The end of a line: blanks, perhaps a comment, and a line end or the end of the text. -/
def endLine (chars : List Char) : Option (List Char) :=
  let rest := chars.dropWhile isBlank
  let rest := if rest.head? = some '#' then rest.dropWhile isPlain else rest
  if rest.isEmpty then some [] else lineFeed? rest

def isBareKeyChar (c : Char) : Bool := c.isAlphanum || c = '_' || c = '-'

/-- One part of a key: bare, or a string on one line. -/
def simpleKey (chars : List Char) : Option (String × List Char) :=
  match chars with
  | '"' :: rest => (basic chars.length rest).map fun (text, rest) => (String.ofList text, rest)
  | '\'' :: rest => (literal rest).map fun (text, rest) => (String.ofList text, rest)
  | _ =>
    let key := chars.takeWhile isBareKeyChar
    if key.isEmpty then none else some (String.ofList key, chars.drop key.length)

/-- The parts of a dotted key; blanks may stand around each. -/
def keyParts : Nat → List Char → Option (List String × List Char)
  | 0, _ => none
  | fuel + 1, chars => do
    let (part, rest) ← simpleKey (chars.dropWhile isBlank)
    match rest.dropWhile isBlank with
    | '.' :: rest => (keyParts fuel rest).map fun (parts, rest) => (part :: parts, rest)
    | rest => some ([part], rest)

/-- A key as the path to its table and its last part. -/
structure KeyPath where
  path : List String
  last : String
  deriving DecidableEq, Repr

def keyPath (chars : List Char) : Option (KeyPath × List Char) := do
  let (parts, rest) ← keyParts maxNesting chars
  match parts.reverse with
  | last :: before => some (⟨before.reverse, last⟩, rest)
  | [] => none

mutual

/-- A value. The first number bounds the length of the text, the second the nesting. -/
def value : Nat → Nat → List Char → Option (Toml × List Char)
  | 0, _, _ => none
  | fuel + 1, depth, chars =>
    match chars with
    | '[' :: rest => if depth = 0 then none else items fuel (depth - 1) [] rest
    | '\x7b' :: rest =>
      if depth = 0 then none
      else
        match rest.dropWhile isBlank with
        | '\x7d' :: rest => some (.inline [], rest)
        | rest => pairs fuel (depth - 1) [] rest
    | '"' :: _ | '\'' :: _ => (anyString chars).map fun (text, rest) => (.string text, rest)
    | _ => scalar chars

/-- The items of an array from one on, with those before it last first. -/
def items : Nat → Nat → List Toml → List Char → Option (Toml × List Char)
  | 0, _, _, _ => none
  | fuel + 1, depth, before, chars =>
    match dropTrivia false chars with
    | none => none
    | some (']' :: rest) => some (.array before.reverse, rest)
    | some chars =>
      match value fuel depth chars with
      | none => none
      | some (item, rest) =>
        match dropTrivia false rest with
        | some (',' :: rest) => items fuel depth (item :: before) rest
        | some (']' :: rest) => some (.array (item :: before).reverse, rest)
        | _ => none

/-- The pairs of an inline table from one on, after the entries before it. -/
def pairs : Nat → Nat → Entries → List Char → Option (Toml × List Char)
  | 0, _, _, _ => none
  | fuel + 1, depth, before, chars =>
    match keyPath chars with
    | some (key, '=' :: rest) =>
      match value fuel depth (rest.dropWhile isBlank) with
      | none => none
      | some (content, rest) =>
        match before.put key.path key.last content with
        | none => none
        | some entries =>
          match rest.dropWhile isBlank with
          | ',' :: rest => pairs fuel depth entries rest
          | '\x7d' :: rest => some (.inline entries, rest)
          | _ => none
    | _ => none

end

/-- What has been read of a document: its entries and the path of the last header. -/
structure Draft where
  entries : Entries := []
  path : List String := []

namespace Draft

def openTable (draft : Draft) (key : KeyPath) : Option Draft :=
  (draft.entries.under key.path (·.openTable key.last)).map fun entries =>
    ⟨entries, key.path ++ [key.last]⟩

def openElement (draft : Draft) (key : KeyPath) : Option Draft :=
  (draft.entries.under key.path (·.openElement key.last)).map fun entries =>
    ⟨entries, key.path ++ [key.last]⟩

def put (draft : Draft) (key : KeyPath) (content : Toml) : Option Draft :=
  (draft.entries.under draft.path (·.put key.path key.last content)).map fun entries =>
    { draft with entries }

/-- Reads one line that is not empty and returns the text behind it. -/
def line (draft : Draft) (chars : List Char) : Option (Draft × List Char) :=
  match chars with
  | '#' :: _ => (endLine chars).map (draft, ·)
  | '[' :: '[' :: rest => do
    let (key, rest) ← keyPath rest
    let rest ← endLine (← expect ']' (← expect ']' rest))
    return (← draft.openElement key, rest)
  | '[' :: rest => do
    let (key, rest) ← keyPath rest
    let rest ← endLine (← expect ']' rest)
    return (← draft.openTable key, rest)
  | _ => do
    let (key, rest) ← keyPath chars
    let rest ← expect '=' rest
    let (content, rest) ← value (chars.length + 1) maxNesting (rest.dropWhile isBlank)
    let rest ← endLine rest
    return (← draft.put key content, rest)

/-- Reads line after line; every line takes up some of the text. -/
def lines : Nat → Draft → List Char → Option Draft
  | 0, _, _ => none
  | fuel + 1, draft, chars =>
    let chars := chars.dropWhile isBlank
    if chars.isEmpty then some draft
    else
      match lineFeed? chars with
      | some rest => lines fuel draft rest
      | none =>
        match draft.line chars with
        | some (draft, rest) => lines fuel draft rest
        | none => none

end Draft

/-- The entries of a document. A byte order mark may stand in front of it. -/
def parse? (text : String) : Option Entries :=
  let chars := match text.toList with
    | '\ufeff' :: rest => rest
    | all => all
  (Draft.lines (chars.length + 1) {} chars).map Draft.entries

end DispatchCache.Toml
