/-!
# Double precision, exactly

A finite double is a sign and a count of units of `2⁻¹⁰⁷⁴`, the least positive value of the
format. Every operation works on these counts, so no rounding is hidden in the data.
-/

set_option autoImplicit false

namespace ApiGateway

/-- The binary places after the point. The number itself never matters to a proof. -/
@[irreducible] def Binary64.places : Nat := 1074

/-- The number of units in `2¹⁰²⁴`, where the format ends. -/
def Binary64.limit : Nat := Nat.pow 2 (1024 + places)

theorem Binary64.limit_pos : 0 < limit := Nat.two_pow_pos _

/-- The gap between neighbours just above a magnitude, in units: 53 bits are significant. -/
def Binary64.step (units : Nat) : Nat := Nat.pow 2 (units.log2 - 52)

theorem Binary64.step_pos (units : Nat) : 0 < step units := Nat.two_pow_pos _

/-- The magnitudes of the format are multiples of their step. -/
def Binary64.Fits (units : Nat) : Prop := units < limit ∧ units % step units = 0

instance (units : Nat) : Decidable (Binary64.Fits units) :=
  inferInstanceAs (Decidable (_ ∧ _))

/-- The two zeros are different data, and there is one NaN. -/
inductive Binary64 where
  | nan
  | infinity (negative : Bool)
  | finite (negative : Bool) (units : Nat) (fits : Binary64.Fits units)
  deriving DecidableEq

namespace Binary64

/-- The number of units in one. -/
def one : Nat := Nat.pow 2 places

theorem one_pos : 0 < one := Nat.two_pow_pos _

/-- The bound of a significand, `2⁵³`. -/
def significandLimit : Nat := 9007199254740992

theorem fits_zero : Fits 0 := ⟨limit_pos, Nat.zero_mod _⟩

def zero : Binary64 := .finite false 0 fits_zero

instance : Inhabited Binary64 := ⟨zero⟩

def isFinite : Binary64 → Bool
  | finite .. => true
  | _ => false

/-- Strictly below zero, which minus zero is not. -/
def isNegative : Binary64 → Bool
  | finite negative units _ => negative && units != 0
  | infinity negative => negative
  | nan => false

/-- The units of the absolute value; nothing but a finite value has any. -/
def units : Binary64 → Nat
  | finite _ u _ => u
  | _ => 0

def hasSign : Binary64 → Bool
  | finite negative _ _ => negative
  | infinity negative => negative
  | nan => false

/-- Equality as the format defines it: the zeros are equal and NaN differs from itself. -/
def Equal : Binary64 → Binary64 → Prop
  | finite s u _, finite t v _ => u = v ∧ (s = t ∨ u = 0)
  | infinity s, infinity t => s = t
  | _, _ => False

end Binary64

end ApiGateway
