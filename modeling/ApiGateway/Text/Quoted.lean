import ApiGateway.Unicode.Classes

/-!
# Quoted text

A text as messages show it: between double quotes, on one line and without invisible characters.
Values with such texts in them are shown with the names of their types and fields.
-/

set_option autoImplicit false

namespace ApiGateway.Text

/-- A code point in braces, in lower-case hexadecimal without padding. -/
def escapeCode (c : Char) : List Char :=
  ['\\', 'u', '\x7b'] ++ Nat.toDigits 16 c.toNat ++ ['\x7d']

def escape (c : Char) : List Char :=
  match c with
  | '"' => ['\\', '"']
  | '\\' => ['\\', '\\']
  | '\n' => ['\\', 'n']
  | '\r' => ['\\', 'r']
  | '\t' => ['\\', 't']
  | '\x00' => ['\\', '0']
  | c => if Unicode.isPrintable c && !Unicode.isExtender c then [c] else escapeCode c

def quoted (s : String) : String :=
  String.ofList ('"' :: s.toList.flatMap escape ++ ['"'])

/-! ## Values as developers are shown them -/

def tuple (name : String) (fields : List String) : String :=
  name ++ "(" ++ ", ".intercalate fields ++ ")"

def record (name : String) (fields : List (String × String)) : String :=
  name ++ " \x7b " ++ ", ".intercalate (fields.map fun f => f.1 ++ ": " ++ f.2) ++ " \x7d"

def sequence (items : List String) : String := "[" ++ ", ".intercalate items ++ "]"

end ApiGateway.Text
