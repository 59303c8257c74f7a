import DispatchCache.Json.Token

/-! # JSON values

Tokens are put together by a machine with a stack of the arrays and objects that are open,
so values may be nested to any depth. Objects keep their fields in order, repeated ones
included. -/

namespace DispatchCache

inductive Json where
  | null
  | bool (value : Bool)
  /-- A number as it is written. -/
  | number (text : String)
  /-- A string; `none` if its escapes leave half of a surrogate pair alone. -/
  | string (text : Option String)
  | array (items : List Json)
  | object (fields : List (Option String × Json))

namespace Json

/-- An array or object that is open. Its parts are kept last first. -/
inductive Frame where
  | array (items : List Json)
  | object (fields : List (Option String × Json))
  | field (fields : List (Option String × Json)) (key : Option String)

/-- What may come next. -/
inductive Expected where
  | value
  | firstItem
  | firstKey
  | key
  | colon
  | separator
  deriving DecidableEq, Repr

structure Assembly where
  stack : List Frame := []
  expected : Expected := .value
  /-- The value of the whole text, once it is complete. -/
  whole : Option Json := none

namespace Assembly

/-- Puts a complete value where it belongs. -/
def complete (assembly : Assembly) (value : Json) : Option Assembly :=
  match assembly.stack with
  | [] => some { stack := [], expected := .separator, whole := some value }
  | .array items :: stack =>
    some { assembly with stack := .array (value :: items) :: stack, expected := .separator }
  | .field fields key :: stack =>
    some { assembly with
      stack := .object ((key, value) :: fields) :: stack
      expected := .separator }
  | .object _ :: _ => none

/-- Closes the array or object on top of the stack. -/
def close (assembly : Assembly) (token : Token) : Option Assembly :=
  match token, assembly.stack with
  | .closeArray, .array items :: stack =>
    { assembly with stack }.complete (.array items.reverse)
  | .closeObject, .object fields :: stack =>
    { assembly with stack }.complete (.object fields.reverse)
  | _, _ => none

def beginValue (assembly : Assembly) (token : Token) : Option Assembly :=
  match token with
  | .null => assembly.complete .null
  | .bool value => assembly.complete (.bool value)
  | .number text => assembly.complete (.number text)
  | .string text => assembly.complete (.string text)
  | .openArray =>
    some { assembly with stack := .array [] :: assembly.stack, expected := .firstItem }
  | .openObject =>
    some { assembly with stack := .object [] :: assembly.stack, expected := .firstKey }
  | .closeArray | .closeObject | .comma | .colon => none

def beginField (assembly : Assembly) (token : Token) : Option Assembly :=
  match token, assembly.stack with
  | .string key, .object fields :: stack =>
    some { assembly with stack := .field fields key :: stack, expected := .colon }
  | _, _ => none

def separate (assembly : Assembly) : Option Assembly :=
  match assembly.stack with
  | .array _ :: _ => some { assembly with expected := .value }
  | .object _ :: _ => some { assembly with expected := .key }
  | _ => none

def step (assembly : Assembly) (token : Token) : Option Assembly :=
  match assembly.expected with
  | .value => assembly.beginValue token
  | .firstItem => if token = .closeArray then assembly.close token else assembly.beginValue token
  | .firstKey => if token = .closeObject then assembly.close token else assembly.beginField token
  | .key => assembly.beginField token
  | .colon => if token = .colon then some { assembly with expected := .value } else none
  | .separator => if token = .comma then assembly.separate else assembly.close token

end Assembly

/-- The value that a text is; nothing but blanks may stand around it. -/
def parse? (text : String) : Option Json := do
  let tokens ← tokens? text
  let assembly ← tokens.foldlM Assembly.step {}
  assembly.whole

/-- The values of a field, in order. -/
def valuesOf (fields : List (Option String × Json)) (key : String) : List Json :=
  (fields.filter (·.1 = some key)).map Prod.snd

end Json

end DispatchCache
