import ApiGateway.Json

/-!
# Printing JSON

The compact form has no spaces. The indented form has two spaces a level, and empty containers
stay on one line.
-/

set_option autoImplicit false

namespace ApiGateway.Json

/-- Positional notation reaches from `1e-5` to just below `1e16`; whole doubles keep a point. -/
def layout : Layout := ⟨fun e => -5 ≤ e && e < 16, ".0", "+", .even⟩

def escape (c : Char) : List Char :=
  match c with
  | '"' => ['\\', '"']
  | '\\' => ['\\', '\\']
  | '\n' => ['\\', 'n']
  | '\r' => ['\\', 'r']
  | '\t' => ['\\', 't']
  | '\x08' => ['\\', 'b']
  | '\x0c' => ['\\', 'f']
  | c =>
    if c.toNat < 0x20 then
      ['\\', 'u', '0', '0'] ++ [Nat.digitChar (c.toNat / 16), Nat.digitChar (c.toNat % 16)]
    else [c]

def printText (s : String) : String := String.ofList ('"' :: s.toList.flatMap escape ++ ['"'])

mutual

def compact : Json → String
  | null => "null"
  | bool b => if b then "true" else "false"
  | integer n => toString n
  | float x => x.text layout
  | string s => printText s
  | array items => "[" ++ ",".intercalate (compactItems items) ++ "]"
  | object fields => "\x7b" ++ ",".intercalate (compactFields fields) ++ "\x7d"

def compactItems : List Json → List String
  | [] => []
  | item :: items => compact item :: compactItems items

def compactFields : List (String × Json) → List String
  | [] => []
  | (key, value) :: fields => (printText key ++ ":" ++ compact value) :: compactFields fields

end

/-- Lines between an opening and a closing bracket, the last at the indentation of the first. -/
def block (opening closing indent : String) (lines : List String) : String :=
  if lines = [] then opening ++ closing
  else opening ++ "\n" ++ ",\n".intercalate lines ++ "\n" ++ indent ++ closing

mutual

def indented (indent : String) : Json → String
  | array items => block "[" "]" indent (indentedItems (indent ++ "  ") items)
  | object fields => block "\x7b" "\x7d" indent (indentedFields (indent ++ "  ") fields)
  | null => "null"
  | bool b => if b then "true" else "false"
  | integer n => toString n
  | float x => x.text layout
  | string s => printText s

def indentedItems (indent : String) : List Json → List String
  | [] => []
  | item :: items => (indent ++ indented indent item) :: indentedItems indent items

def indentedFields (indent : String) : List (String × Json) → List String
  | [] => []
  | (key, value) :: fields =>
    (indent ++ printText key ++ ": " ++ indented indent value) :: indentedFields indent fields

end

def pretty (value : Json) : String := indented "" value

end ApiGateway.Json
