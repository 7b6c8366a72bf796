import ApiGateway.Json

/-!
# Reading JSON

The grammar is strict: no trailing comma, comment, leading zero, unpaired surrogate or raw control
character, and nothing after the value. Arrays and objects nest only so deep.
-/

set_option autoImplicit false

namespace ApiGateway.Json

def isSpace (c : Char) : Bool := c == ' ' || c == '\n' || c == '\r' || c == '\t'

def skipSpaces (cs : List Char) : List Char := cs.dropWhile isSpace

/-- What a single letter after a backslash stands for. -/
def unescape? (c : Char) : Option Char :=
  match c with
  | '"' => some '"'
  | '\\' => some '\\'
  | '/' => some '/'
  | 'b' => some '\x08'
  | 'f' => some '\x0c'
  | 'n' => some '\n'
  | 'r' => some '\r'
  | 't' => some '\t'
  | _ => none

/-- The text up to the closing quote, and what follows it; `done` is what precedes, in reverse. -/
def readText (done : List Char) : List Char → Option (String × List Char)
  | '"' :: rest => some (String.ofList done.reverse, rest)
  | '\\' :: 'u' :: a :: b :: c :: d :: rest => do
    let unit ← Digits.valueIn? 16 [a, b, c, d]
    if 0xd800 ≤ unit ∧ unit < 0xdc00 then
      match rest with
      | '\\' :: 'u' :: e :: f :: g :: h :: rest =>
        let low ← Digits.valueIn? 16 [e, f, g, h]
        if 0xdc00 ≤ low ∧ low < 0xe000 then
          readText (Char.ofNat (0x10000 + (unit - 0xd800) * 1024 + (low - 0xdc00)) :: done) rest
        else none
      | _ => none
    else if 0xdc00 ≤ unit ∧ unit < 0xe000 then none
    else readText (Char.ofNat unit :: done) rest
  | '\\' :: c :: rest => do readText ((← unescape? c) :: done) rest
  | c :: rest => if c.toNat < 0x20 then none else readText (c :: done) rest
  | [] => none

/-- An exponent part, if there is one. -/
def readExponent (cs : List Char) : Option (Option Int × List Char) :=
  let signed (negative : Bool) (cs : List Char) : Option (Option Int × List Char) :=
    match Digits.split cs with
    | ([], _) => none
    | (ds, rest) =>
      some (some (if negative then -(Digits.value ds : Int) else Digits.value ds), rest)
  match cs with
  | c :: cs' =>
    if c = 'e' ∨ c = 'E' then
      match cs' with
      | '-' :: rest => signed true rest
      | '+' :: rest => signed false rest
      | rest => signed false rest
    else some (none, cs)
  | [] => some (none, [])

/-- The digits after a point, if there is one. -/
def readFraction : List Char → Option (Option (List Char) × List Char)
  | '.' :: cs => match Digits.split cs with
    | ([], _) => none
    | (ds, rest) => some (some ds, rest)
  | cs => some (none, cs)

/-- Integers have 64 bits, with or without sign. -/
def isInteger (n : Int) : Bool := -9223372036854775808 ≤ n && n < 18446744073709551616

/-- A literal without point and exponent is an integer if it fits, and not minus zero. Every other
one is a double, which has to be finite. -/
def ofLiteral (negative : Bool) (whole : List Char) (fraction : Option (List Char))
    (exponent : Option Int) : Option Json :=
  let n : Int := if negative then -(Digits.value whole : Int) else Digits.value whole
  let x := Binary64.ofDecimal negative (Digits.value (whole ++ fraction.getD []))
    (exponent.getD 0 - (fraction.getD []).length)
  if fraction.isNone && exponent.isNone && isInteger n && !(negative && n == 0) then
    some (integer n)
  else if x.isFinite then some (float x)
  else none

def readNumber (negative : Bool) (cs : List Char) : Option (Json × List Char) := do
  let (whole, rest) := Digits.split cs
  if whole = [] ∨ (whole.head? = some '0' ∧ 1 < whole.length) then none
  let (fraction, rest) ← readFraction rest
  let (exponent, rest) ← readExponent rest
  let value ← ofLiteral negative whole fraction exponent
  return (value, rest)

mutual

/-- A value, and what follows it. -/
def readValue : Nat → Nat → List Char → Option (Json × List Char)
  | 0, _, _ => none
  | fuel + 1, depth, cs =>
    match skipSpaces cs with
    | 'n' :: 'u' :: 'l' :: 'l' :: rest => some (null, rest)
    | 't' :: 'r' :: 'u' :: 'e' :: rest => some (bool true, rest)
    | 'f' :: 'a' :: 'l' :: 's' :: 'e' :: rest => some (bool false, rest)
    | '"' :: rest => (readText [] rest).map fun (s, rest) => (string s, rest)
    | '[' :: rest =>
      if depth = 0 then none
      else match skipSpaces rest with
        | ']' :: rest => some (array [], rest)
        | rest => (readItems fuel (depth - 1) rest).map fun (items, rest) => (array items, rest)
    | '\x7b' :: rest =>
      if depth = 0 then none
      else match skipSpaces rest with
        | '\x7d' :: rest => some (object [], rest)
        | rest => (readMembers fuel (depth - 1) rest).map fun (ps, rest) => (ofFields ps, rest)
    | '-' :: rest => readNumber true rest
    | rest => readNumber false rest

/-- The items of an array up to its end, at least one. -/
def readItems : Nat → Nat → List Char → Option (List Json × List Char)
  | 0, _, _ => none
  | fuel + 1, depth, cs => do
    let (item, rest) ← readValue fuel depth cs
    match skipSpaces rest with
    | ']' :: rest => some ([item], rest)
    | ',' :: rest => (readItems fuel depth rest).map fun (items, rest) => (item :: items, rest)
    | _ => none

/-- The members of an object up to its end, at least one. -/
def readMembers : Nat → Nat → List Char → Option (List (String × Json) × List Char)
  | 0, _, _ => none
  | fuel + 1, depth, cs =>
    match skipSpaces cs with
    | '"' :: rest => do
      let (key, rest) ← readText [] rest
      match skipSpaces rest with
      | ':' :: rest =>
        let (value, rest) ← readValue fuel depth rest
        match skipSpaces rest with
        | '\x7d' :: rest => some ([(key, value)], rest)
        | ',' :: rest =>
          (readMembers fuel depth rest).map fun (ps, rest) => ((key, value) :: ps, rest)
        | _ => none
      | _ => none
    | _ => none

end

/-- The deepest nesting of arrays and objects in a document. -/
def maxDepth : Nat := 127

/-- The value that a whole text writes, nested at most `depth` levels. -/
def parseWithin? (depth : Nat) (text : String) : Option Json := do
  let cs := text.toList
  let (value, rest) ← readValue (2 * cs.length + 1) depth cs
  if skipSpaces rest = [] then some value else none

/-- The value that a document writes. -/
def parse? (text : String) : Option Json := parseWithin? maxDepth text

end ApiGateway.Json
