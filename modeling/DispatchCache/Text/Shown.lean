import DispatchCache.Text.Quoted

/-! # Showing structured values

The one-line notation of records, constructors, lists and optional values. -/

namespace DispatchCache.Text

def commaSeparated (items : List String) : String := ", ".intercalate items

def shownRecord (name : String) (fields : List (String × String)) : String :=
  name ++ " \x7b " ++ commaSeparated (fields.map fun (field, value) => field ++ ": " ++ value)
    ++ " \x7d"

def shownCall (name : String) (arguments : List String) : String :=
  name ++ "(" ++ commaSeparated arguments ++ ")"

def shownList (items : List String) : String := "[" ++ commaSeparated items ++ "]"

def shownOption : Option String → String
  | none => "None"
  | some item => shownCall "Some" [item]

end DispatchCache.Text
