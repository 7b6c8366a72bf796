import ApiGateway.Binary64.Rounding
import ApiGateway.Text.Digits

/-!
# Doubles and decimal numerals

Reading takes the double nearest to a numeral. Writing takes the fewest digits that read back,
and of those the nearest; a `Layout` says how they are set.
-/

set_option autoImplicit false

namespace ApiGateway

namespace Binary64

/-- The double nearest to `digits · 10 ^ exponent`.

An exponent far outside the format decides the result without computing the power: the number is
then at least `10 ^ 310`, or below `10 ^ (-350)`. -/
def ofDecimal (negative : Bool) (digits : Nat) : Int → Binary64
  | .ofNat e =>
    if digits = 0 then .finite negative 0 fits_zero
    else if 310 < e then .infinity negative
    else ofRatio negative (digits * Nat.pow 10 e) 1
  | .negSucc e =>
    if 350 + digits.log2 < e then .finite negative 0 fits_zero
    else ofRatio negative digits (Nat.pow 10 (e + 1))

/-- An exponent part, empty or `e` and a number; nothing may follow it. -/
def exponent? : List Char → Option Int
  | [] => some 0
  | c :: rest =>
    if c = 'e' ∨ c = 'E' then
      match rest with
      | '-' :: ds => if ds ≠ [] ∧ ds.all Char.isDigit then some (-(Digits.value ds : Int)) else none
      | '+' :: ds => if ds ≠ [] ∧ ds.all Char.isDigit then some (Digits.value ds) else none
      | ds => if ds ≠ [] ∧ ds.all Char.isDigit then some (Digits.value ds) else none
    else none

/-- A numeral without its sign: digits with at most one point among or around them, and an
exponent part; or the name of an infinity or NaN in any case. -/
def magnitudeOfText? (negative : Bool) (cs : List Char) : Option Binary64 :=
  let word := String.ofList (cs.map Char.toLower)
  if word = "inf" ∨ word = "infinity" then some (.infinity negative)
  else if word = "nan" then some .nan
  else
    let (whole, rest) := Digits.split cs
    let (fraction, rest) := match rest with
      | '.' :: rest => Digits.split rest
      | rest => ([], rest)
    if whole = [] ∧ fraction = [] then none
    else (exponent? rest).map fun e =>
      ofDecimal negative (Digits.value (whole ++ fraction)) (e - fraction.length)

/-- The number that a text writes, with at most one sign. -/
def ofText? : List Char → Option Binary64
  | '-' :: cs => magnitudeOfText? true cs
  | '+' :: cs => magnitudeOfText? false cs
  | cs => magnitudeOfText? false cs

end Binary64

/-- The number `digits · 10 ^ exponent`. -/
structure Numeral where
  digits : Nat
  exponent : Int
  deriving DecidableEq, Repr

/-- Which of two equally near numerals is written. -/
inductive Tie where
  | up
  | even
  deriving DecidableEq

namespace Binary64

/-- The gap just below, which is half of `step` where the number of bits changes. -/
def stepBelow (units : Nat) : Nat :=
  if 2 * units = significandLimit * step units ∧ step units ≠ 1 then step units / 2 else step units

/-- A multiple of `10 ^ exponent` that reads back as the given magnitude, the nearest one.

Both neighbours on that grid are tried. A point half-way to the next double reads back when the
magnitude has an even last bit. -/
def onGrid? (tie : Tie) (units : Nat) (exponent : Int) : Option Numeral :=
  let scale := Nat.pow 10 (-exponent).toNat
  let grid := Nat.pow 10 exponent.toNat * one
  let below := units * scale / grid
  let rest := units * scale % grid
  let even : Bool := units / step units % 2 = 0
  let takesBelow : Bool := 2 * rest < stepBelow units * scale ||
    (even && 2 * rest = stepBelow units * scale)
  let takesAbove : Bool := 2 * (grid - rest) < step units * scale ||
    (even && 2 * (grid - rest) = step units * scale)
  let prefersBelow : Bool := 2 * rest < grid ||
    (2 * rest = grid && tie = .even && below % 2 = 0)
  if takesBelow && (prefersBelow || !takesAbove) then some ⟨below, exponent⟩
  else if takesAbove then some ⟨below + 1, exponent⟩
  else none

/-- The coarsest grid with a numeral that reads back, from `exponent` on downwards. -/
def shortestFrom (tie : Tie) (units : Nat) : Nat → Int → Numeral
  | 0, exponent =>
    ⟨units * Nat.pow 10 (-exponent).toNat / (Nat.pow 10 exponent.toNat * one), exponent⟩
  | fuel + 1, exponent =>
    (onGrid? tie units exponent).getD (shortestFrom tie units fuel (exponent - 1))

/-- The shortest numeral that reads back as the given magnitude.

The search starts above the first digit, at an estimate from the number of bits, and 17 digits
always suffice. -/
def shortest (tie : Tie) (units : Nat) : Numeral :=
  if units = 0 then ⟨0, 0⟩
  else shortestFrom tie units 24 (((units.log2 : Int) - places) * 30103 / 100000 + 2)

end Binary64

namespace Numeral

def zeros (n : Nat) : String := String.ofList (List.replicate n '0')

/-- The exponent of the first digit. -/
def leading (n : Numeral) : Int := n.exponent + (toString n.digits).length - 1

/-- Positional notation; `whole` follows a number without a fraction. -/
def positional (n : Numeral) (whole : String) : String :=
  let ds := toString n.digits
  if 0 ≤ n.exponent then ds ++ zeros n.exponent.toNat ++ whole
  else if 0 ≤ n.leading then
    let point := (n.leading + 1).toNat
    String.ofList (ds.toList.take point) ++ "." ++ String.ofList (ds.toList.drop point)
  else "0." ++ zeros (-n.leading - 1).toNat ++ ds

/-- One digit, the others after a point, and an exponent; `plus` is the sign of one that is not
negative. -/
def scientific (n : Numeral) (plus : String) : String :=
  let ds := (toString n.digits).toList
  let tail := if ds.length = 1 then "" else "." ++ String.ofList (ds.drop 1)
  let e := n.leading
  String.ofList (ds.take 1) ++ tail ++ "e" ++ (if e < 0 then "-" else plus) ++ toString e.natAbs

end Numeral

/-- How a double is set as text. -/
structure Layout where
  /-- The exponents of the first digit that are written positionally. -/
  isPositional : Int → Bool
  /-- What follows a positional number without a fraction. -/
  whole : String
  /-- The sign of an exponent that is not negative. -/
  plus : String
  tie : Tie

namespace Binary64

def text (layout : Layout) : Binary64 → String
  | nan => "NaN"
  | infinity negative => if negative then "-inf" else "inf"
  | finite negative units _ =>
    let n := shortest layout.tie units
    (if negative then "-" else "") ++
      if layout.isPositional n.leading then n.positional layout.whole
        else n.scientific layout.plus

end Binary64

end ApiGateway
