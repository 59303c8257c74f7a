import DispatchCache.Json.Value

/-! # Writing JSON

Values over several lines, two blanks deeper for each level, with only those characters
escaped that must be. -/

namespace DispatchCache.Json

/-- A character between quotes. -/
def escapeChar (c : Char) : List Char :=
  if c = '"' then ['\\', '"']
  else if c = '\\' then ['\\', '\\']
  else if c = '\x08' then ['\\', 'b']
  else if c = '\x0c' then ['\\', 'f']
  else if c = '\n' then ['\\', 'n']
  else if c = '\r' then ['\\', 'r']
  else if c = '\t' then ['\\', 't']
  else if c.toNat < 0x20 then
    ['\\', 'u', '0', '0', Nat.digitChar (c.toNat / 16), Nat.digitChar (c.toNat % 16)]
  else [c]

def quoted (text : String) : List Char := '"' :: text.toList.flatMap escapeChar ++ ['"']

def newline (depth : Nat) : List Char := '\n' :: List.replicate (2 * depth) ' '

/-- A flat object over several lines: its fields with values that are written already. -/
def record (fields : List (String × List Char)) (depth : Nat) : List Char :=
  match fields with
  | [] => ['\x7b', '\x7d']
  | _ =>
    let lines := fields.map fun (key, value) =>
      newline (depth + 1) ++ quoted key ++ [':', ' '] ++ value
    '\x7b' :: [','].intercalate lines ++ newline depth ++ ['\x7d']

end DispatchCache.Json
