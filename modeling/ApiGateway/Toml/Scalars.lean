import ApiGateway.Toml

/-!
# Numbers, dates and truth values of TOML

A scalar that is no string is one word. Digits may be grouped by single underscores.
-/

set_option autoImplicit false

namespace ApiGateway.Toml

def isWordChar (c : Char) : Bool :=
  c.isAlphanum || c == '+' || c == '-' || c == '.' || c == ':' || c == '_'

/-- Digits of some kind, grouped by underscores that have one on both sides. -/
def digits? (isDigit : Char → Bool) (cs : List Char) : Option (List Char) :=
  match cs with
  | [] => none
  | c :: rest =>
    if !isDigit c then none
    else
      let grouped := rest.foldl (fun state c =>
        match state with
        | none => none
        | some (afterDigit, ds) =>
          if isDigit c then some (true, c :: ds)
          else if c = '_' ∧ afterDigit then some (false, ds)
          else none) (some (true, [c]))
      match grouped with
      | some (true, ds) => some ds.reverse
      | _ => none

def splitSign : List Char → Bool × List Char
  | '-' :: cs => (true, cs)
  | '+' :: cs => (false, cs)
  | cs => (false, cs)

/-- Decimal digits without a leading zero. -/
def decimal? (cs : List Char) : Option (List Char) := do
  let ds ← digits? Char.isDigit cs
  if ds.head? = some '0' ∧ ds.length ≠ 1 then none else some ds

/-- An integer of 64 bits with sign. -/
def fit? (n : Int) : Option Node :=
  if -9223372036854775808 ≤ n ∧ n < 9223372036854775808 then some (.integer n) else none

/-- An integer in a base, after what marks the base. -/
def integerIn? (base : Nat) (cs : List Char) : Option Node := do
  let n ← Digits.valueIn? base (← digits? (fun c => (Digits.digitIn? base c).isSome) cs)
  fit? n

def integer? (word : List Char) : Option Node :=
  match word with
  | '0' :: 'x' :: ds => integerIn? 16 ds
  | '0' :: 'o' :: ds => integerIn? 8 ds
  | '0' :: 'b' :: ds => integerIn? 2 ds
  | word => do
    let (negative, cs) := splitSign word
    let n : Int := Digits.value (← decimal? cs)
    fit? (if negative then -n else n)

/-- An exponent part after its letter. -/
def exponent? (cs : List Char) : Option Int := do
  let (negative, cs) := splitSign cs
  let n : Int := Digits.value (← digits? Char.isDigit cs)
  return if negative then -n else n

def isExponentMark (c : Char) : Bool := c == 'e' || c == 'E'

/-- A float has a fraction, an exponent, or a name. Only one below the format is infinite. -/
def float? (word : List Char) : Option Node :=
  let (negative, cs) := splitSign word
  if cs = "inf".toList then some (.float (.infinity negative))
  else if cs = "nan".toList then some (.float .nan)
  else do
    let mantissa := cs.takeWhile fun c => !isExponentMark c
    let exponent ← match cs.dropWhile fun c => !isExponentMark c with
      | [] => some none
      | _ :: rest => (exponent? rest).map some
    let whole ← decimal? (mantissa.takeWhile (· ≠ '.'))
    let fraction ← match mantissa.dropWhile (· ≠ '.') with
      | [] => some none
      | _ :: rest => (digits? Char.isDigit rest).map some
    if exponent.isNone && fraction.isNone then none
    let places := fraction.getD []
    let x := Binary64.ofDecimal negative (Digits.value (whole ++ places))
      (exponent.getD 0 - places.length)
    if x = .infinity false then none else some (.float x)

/-- A number of exactly `count` digits in a range, and what follows it. -/
def fixed? (count low high : Nat) (cs : List Char) : Option (Nat × List Char) :=
  let ds := cs.take count
  let n := Digits.value ds
  if ds.length = count ∧ ds.all Char.isDigit ∧ low ≤ n ∧ n ≤ high then some (n, cs.drop count)
  else none

def skip? (c : Char) : List Char → Option (List Char)
  | d :: cs => if c = d then some cs else none
  | [] => none

def daysIn (year month : Nat) : Nat :=
  if month = 2 then
    if year % 4 = 0 ∧ (year % 100 ≠ 0 ∨ year % 400 = 0) then 29 else 28
  else if month = 4 ∨ month = 6 ∨ month = 9 ∨ month = 11 then 30
  else 31

/-- A calendar date, and what follows it. -/
def date? (cs : List Char) : Option (List Char) := do
  let (year, cs) ← fixed? 4 0 9999 cs
  let (month, cs) ← fixed? 2 1 12 (← skip? '-' cs)
  let (_, cs) ← fixed? 2 1 (daysIn year month) (← skip? '-' cs)
  return cs

/-- A time of day with seconds, and what follows it. -/
def time? (cs : List Char) : Option (List Char) := do
  let (_, cs) ← fixed? 2 0 23 cs
  let (_, cs) ← fixed? 2 0 59 (← skip? ':' cs)
  let (_, cs) ← fixed? 2 0 60 (← skip? ':' cs)
  match cs with
  | '.' :: rest =>
    if rest.head?.any Char.isDigit then some (rest.dropWhile Char.isDigit) else none
  | cs => some cs

/-- An offset from universal time, which may be missing, up to the end. -/
def isOffset : List Char → Bool
  | [] => true
  | ['Z'] | ['z'] => true
  | c :: cs =>
    (c = '+' || c = '-') && (do
      let (_, cs) ← fixed? 2 0 23 cs
      let (_, cs) ← fixed? 2 0 59 (← skip? ':' cs)
      return cs.isEmpty).getD false

/-- A date with or without a time, or a time. -/
def isDateTime (word : List Char) : Bool :=
  match date? word with
  | some [] => true
  | some ('T' :: cs) | some ('t' :: cs) | some (' ' :: cs) => (time? cs).any isOffset
  | some _ => false
  | none => (time? word).any List.isEmpty

def scalar? (word : List Char) : Option Node :=
  if word = "true".toList then some (.bool true)
  else if word = "false".toList then some (.bool false)
  else if isDateTime word then some .dateTime
  else (float? word).or (integer? word)

/-- A scalar, and what follows it. A time may follow its date after a blank. -/
def readScalar (cs : List Char) : Option (Node × List Char) :=
  let word := cs.takeWhile isWordChar
  let rest := cs.dropWhile isWordChar
  match rest with
  | ' ' :: c :: more =>
    if c.isDigit ∧ date? word = some [] then
      let time := (c :: more).takeWhile isWordChar
      (scalar? (word ++ ' ' :: time)).map (·, (c :: more).dropWhile isWordChar)
    else (scalar? word).map (·, rest)
  | _ => (scalar? word).map (·, rest)

end ApiGateway.Toml
