import ApiGateway.Toml
import ApiGateway.Unicode.CodePoints

/-!
# Strings and keys of TOML

Four kinds of strings: with or without escapes, on one line or on several.
-/

set_option autoImplicit false

namespace ApiGateway.Toml

def isSpace (c : Char) : Bool := c == ' ' || c == '\t'

def skipSpaces (cs : List Char) : List Char := cs.dropWhile isSpace

/-- A tab, or any character but a control. -/
def isTextChar (c : Char) : Bool := c == '\t' || (0x20 ≤ c.toNat && c.toNat ≠ 0x7f)

def isKeyChar (c : Char) : Bool := c.isAlphanum || c == '_' || c == '-'

/-- What follows a line end, if there is one in front. -/
def lineEnd? : List Char → Option (List Char)
  | '\n' :: rest => some rest
  | '\r' :: '\n' :: rest => some rest
  | _ => none

/-- The character of a code point in hexadecimal, if it is one. -/
def codePoint? (digits : List Char) : Option Char := do
  Unicode.char? (← Digits.valueIn? 16 digits)

/-- What a single letter after a backslash stands for. -/
def unescape? (c : Char) : Option Char :=
  match c with
  | 'b' => some '\x08'
  | 't' => some '\t'
  | 'n' => some '\n'
  | 'f' => some '\x0c'
  | 'r' => some '\r'
  | '"' => some '"'
  | '\\' => some '\\'
  | _ => none

abbrev Text := Option (String × List Char)

def finishText (done rest : List Char) : Text := some (String.ofList done.reverse, rest)

/-- A string with escapes on one line, after its opening quote; `done` is in reverse. -/
def readBasic (done : List Char) : List Char → Text
  | '"' :: rest => finishText done rest
  | '\\' :: 'u' :: a :: b :: c :: d :: rest => do
    readBasic ((← codePoint? [a, b, c, d]) :: done) rest
  | '\\' :: 'U' :: a :: b :: c :: d :: e :: f :: g :: h :: rest => do
    readBasic ((← codePoint? [a, b, c, d, e, f, g, h]) :: done) rest
  | '\\' :: c :: rest => do readBasic ((← unescape? c) :: done) rest
  | c :: rest => if isTextChar c then readBasic (c :: done) rest else none
  | [] => none

/-- A string without escapes on one line, after its opening quote. -/
def readLiteral (cs : List Char) : Text :=
  match cs.dropWhile (fun c => c ≠ '\'' && isTextChar c) with
  | '\'' :: rest => some (String.ofList (cs.takeWhile fun c => c ≠ '\'' && isTextChar c), rest)
  | _ => none

/-- A string with escapes on several lines, after its opening quotes. Up to two quotes may stand
before the three that close it. In a gap, blanks and line ends after a backslash are passed over. -/
def readLongBasic (gap : Bool) (done : List Char) : List Char → Text
  | '"' :: '"' :: '"' :: '"' :: '"' :: rest => finishText ('"' :: '"' :: done) rest
  | '"' :: '"' :: '"' :: '"' :: rest => finishText ('"' :: done) rest
  | '"' :: '"' :: '"' :: rest => finishText done rest
  | '\\' :: 'u' :: a :: b :: c :: d :: rest => do
    readLongBasic false ((← codePoint? [a, b, c, d]) :: done) rest
  | '\\' :: 'U' :: a :: b :: c :: d :: e :: f :: g :: h :: rest => do
    readLongBasic false ((← codePoint? [a, b, c, d, e, f, g, h]) :: done) rest
  | '\\' :: c :: rest =>
    if (lineEnd? (skipSpaces (c :: rest))).isSome then readLongBasic true done (c :: rest)
    else do readLongBasic false ((← unescape? c) :: done) rest
  | '\n' :: rest => readLongBasic gap (if gap then done else '\n' :: done) rest
  | '\r' :: '\n' :: rest => readLongBasic gap (if gap then done else '\n' :: done) rest
  | c :: rest =>
    if gap && isSpace c then readLongBasic true done rest
    else if isTextChar c then readLongBasic false (c :: done) rest
    else none
  | [] => none

/-- A string without escapes on several lines, after its opening quotes. -/
def readLongLiteral (done : List Char) : List Char → Text
  | '\'' :: '\'' :: '\'' :: '\'' :: '\'' :: rest => finishText ('\'' :: '\'' :: done) rest
  | '\'' :: '\'' :: '\'' :: '\'' :: rest => finishText ('\'' :: done) rest
  | '\'' :: '\'' :: '\'' :: rest => finishText done rest
  | '\n' :: rest => readLongLiteral ('\n' :: done) rest
  | '\r' :: '\n' :: rest => readLongLiteral ('\n' :: done) rest
  | c :: rest => if isTextChar c then readLongLiteral (c :: done) rest else none
  | [] => none

/-- A line end right after the opening quotes does not belong to the string. -/
def afterOpening (cs : List Char) : List Char := (lineEnd? cs).getD cs

/-- A string of any kind. -/
def readString : List Char → Text
  | '"' :: '"' :: '"' :: rest => readLongBasic false [] (afterOpening rest)
  | '"' :: rest => readBasic [] rest
  | '\'' :: '\'' :: '\'' :: rest => readLongLiteral [] (afterOpening rest)
  | '\'' :: rest => readLiteral rest
  | _ => none

/-- A bare key, or a string on one line. -/
def readSimpleKey : List Char → Text
  | '"' :: rest => readBasic [] rest
  | '\'' :: rest => readLiteral rest
  | cs =>
    let key := cs.takeWhile isKeyChar
    if key = [] then none else some (String.ofList key, cs.dropWhile isKeyChar)

/-- Keys with points between them, and blanks around each. -/
def readKey : Nat → List Char → Option (List String × List Char)
  | 0, _ => none
  | fuel + 1, cs => do
    let (key, rest) ← readSimpleKey (skipSpaces cs)
    match skipSpaces rest with
    | '.' :: rest => (readKey fuel rest).map fun (keys, rest) => (key :: keys, rest)
    | rest => some ([key], rest)

end ApiGateway.Toml
