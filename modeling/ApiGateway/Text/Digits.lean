/-!
# Digits

The value of a run of ASCII digits in base ten or another base, and the digits of a number without
leading zeros. The main statements: writing and reading a number gives it back (`value_ofNat`), and
a run of digits is split off whole (`split_append`).
-/

set_option autoImplicit false

namespace ApiGateway.Digits

def digit (c : Char) : Nat := c.toNat - '0'.toNat

/-- The number that a run of digits writes, read onto the digits already seen. -/
def valueFrom (seen : Nat) (cs : List Char) : Nat :=
  cs.foldl (fun n c => 10 * n + digit c) seen

def value (cs : List Char) : Nat := valueFrom 0 cs

/-- The value of a hexadecimal digit in either case. -/
def hexDigit? (c : Char) : Option Nat :=
  if c.isDigit then some (digit c)
  else if 'a' ≤ c ∧ c ≤ 'f' then some (c.toNat - 'a'.toNat + 10)
  else if 'A' ≤ c ∧ c ≤ 'F' then some (c.toNat - 'A'.toNat + 10)
  else none

def isHex (c : Char) : Bool := (hexDigit? c).isSome

/-- A digit of a base up to 16. -/
def digitIn? (base : Nat) (c : Char) : Option Nat := (hexDigit? c).filter (· < base)

/-- The number that a run of digits writes in a base up to 16, if all of them are digits of it. -/
def valueIn? (base : Nat) (cs : List Char) : Option Nat :=
  cs.foldlM (fun n c => (digitIn? base c).map (base * n + ·)) 0

/-- The digits of `n`, most significant first; zero is `0`. -/
def ofNat (n : Nat) : List Char := Nat.toDigits 10 n

/-- The longest run of digits at the front, and what follows it. -/
def split (cs : List Char) : List Char × List Char :=
  (cs.takeWhile Char.isDigit, cs.dropWhile Char.isDigit)

theorem value_ofNat (n : Nat) : value (ofNat n) = n :=
  Nat.ofDigitChars_toDigits (by decide) (by decide)

theorem isDigit_of_mem_ofNat {n : Nat} {c : Char} (h : c ∈ ofNat n) : c.isDigit :=
  Nat.isDigit_of_mem_toDigits (by decide) (by decide) h

theorem toList_toString (n : Nat) : (toString n).toList = ofNat n := Nat.toList_repr

/-- What follows a run of digits and starts with none is left alone. -/
theorem split_append {ds rest : List Char} (hd : ∀ c ∈ ds, c.isDigit)
    (hr : ∀ c, rest.head? = some c → ¬ c.isDigit) : split (ds ++ rest) = (ds, rest) := by
  have h : rest.takeWhile Char.isDigit = [] ∧ rest.dropWhile Char.isDigit = rest := by
    cases rest with
    | nil => exact ⟨rfl, rfl⟩
    | cons c cs => simp [hr c rfl]
  unfold split
  rw [List.takeWhile_append_of_pos hd, List.dropWhile_append_of_pos hd, h.1, h.2, List.append_nil]

end ApiGateway.Digits
