import DispatchCache.Text.Hex

/-! # TOML strings

The four kinds of strings: basic ones with escapes and literal ones without, on one line or
on several. Readers start behind the opening quotes and return the rest behind the closing
ones. -/

namespace DispatchCache.Toml

def isBlank (c : Char) : Bool := c = ' ' || c = '\t'

/-- Characters that may stand in a comment or a string: no controls but the tab. -/
def isPlain (c : Char) : Bool := c = '\t' || (0x20 ≤ c.toNat && c.toNat ≠ 0x7f)

/-- The character with a hexadecimal number, unless the number is no character's. -/
def ofHex (digits : List Char) : Option Char := do
  let values ← digits.mapM Text.hexValue
  let point := values.foldl (fun n digit => 16 * n + digit) 0
  if point.isValidChar then some (Char.ofNat point) else none

def ofEscape (c : Char) : Option Char :=
  if c = 'b' then some '\x08'
  else if c = 't' then some '\t'
  else if c = 'n' then some '\n'
  else if c = 'f' then some '\x0c'
  else if c = 'r' then some '\r'
  else if c = '"' then some '"'
  else if c = '\\' then some '\\'
  else none

/-- Reads an escape behind its backslash. -/
def escape : List Char → Option (Char × List Char)
  | 'u' :: a :: b :: c :: d :: rest => (ofHex [a, b, c, d]).map (·, rest)
  | 'U' :: a :: b :: c :: d :: e :: f :: g :: h :: rest =>
    (ofHex [a, b, c, d, e, f, g, h]).map (·, rest)
  | c :: rest => (ofEscape c).map (·, rest)
  | [] => none

def prepend (c : Char) (reading : Option (List Char × List Char)) :
    Option (List Char × List Char) :=
  reading.map fun (text, rest) => (c :: text, rest)

/-- A line end: a line feed, with or without a carriage return in front of it. -/
def lineFeed? : List Char → Option (List Char)
  | '\n' :: rest => some rest
  | '\r' :: '\n' :: rest => some rest
  | _ => none

/-- A literal string on one line. -/
def literal : List Char → Option (List Char × List Char)
  | [] => none
  | '\'' :: rest => some ([], rest)
  | c :: rest => if isPlain c then prepend c (literal rest) else none

/-- A basic string on one line. The fuel bounds its length. -/
def basic : Nat → List Char → Option (List Char × List Char)
  | 0, _ => none
  | _, [] => none
  | _, '"' :: rest => some ([], rest)
  | fuel + 1, '\\' :: rest => do
    let (c, rest) ← escape rest
    prepend c (basic fuel rest)
  | fuel + 1, c :: rest => if isPlain c then prepend c (basic fuel rest) else none

/-- The closing quotes of a string on several lines, up to two more of which belong to the
string. -/
def closing (quote : Char) (chars : List Char) : Option (List Char × List Char) :=
  let count := (chars.takeWhile (· = quote)).length
  if count < 3 then none
  else
    let own := min (count - 3) 2
    some (List.replicate own quote, chars.drop (own + 3))

def literalLines : Nat → List Char → Option (List Char × List Char)
  | 0, _ => none
  | fuel + 1, chars =>
    match closing '\'' chars with
    | some reading => some reading
    | none =>
      match lineFeed? chars with
      | some rest => prepend '\n' (literalLines fuel rest)
      | none =>
        match chars with
        | c :: rest => if isPlain c then prepend c (literalLines fuel rest) else none
        | [] => none

/-- Drops blanks and line ends. -/
def dropSpace : List Char → List Char
  | '\n' :: rest => dropSpace rest
  | '\r' :: '\n' :: rest => dropSpace rest
  | c :: rest => if isBlank c then dropSpace rest else c :: rest
  | [] => []

/-- A backslash at the end of a line joins it with the next text, whatever space is between. -/
def continued (chars : List Char) : Option (List Char) :=
  (lineFeed? (chars.dropWhile isBlank)).map dropSpace

def basicLines : Nat → List Char → Option (List Char × List Char)
  | 0, _ => none
  | fuel + 1, chars =>
    match closing '"' chars with
    | some reading => some reading
    | none =>
      match lineFeed? chars with
      | some rest => prepend '\n' (basicLines fuel rest)
      | none =>
        match chars with
        | '\\' :: rest =>
          match continued rest with
          | some rest => basicLines fuel rest
          | none => do
            let (c, rest) ← escape rest
            prepend c (basicLines fuel rest)
        | c :: rest => if isPlain c then prepend c (basicLines fuel rest) else none
        | [] => none

/-- Any string, from its opening quotes on. A line end right behind three opening quotes does
not belong to the string. -/
def anyString (chars : List Char) : Option (String × List Char) :=
  let fuel := chars.length + 1
  let body (rest : List Char) := (lineFeed? rest).getD rest
  let reading := match chars with
    | '"' :: '"' :: '"' :: rest => basicLines fuel (body rest)
    | '\'' :: '\'' :: '\'' :: rest => literalLines fuel (body rest)
    | '"' :: rest => basic fuel rest
    | '\'' :: rest => literal rest
    | _ => none
  reading.map fun (text, rest) => (String.ofList text, rest)

end DispatchCache.Toml
