import ApiGateway.Duration.Error
import ApiGateway.Duration.Span

/-!
# Seconds as numbers

The editor's form of a duration: a finite double that is not below zero. A span becomes the
double sum of its whole seconds and its fraction; seconds become the nearest span.
-/

set_option autoImplicit false

namespace ApiGateway

structure Seconds where
  value : Binary64
  isFinite : value.isFinite
  nonneg : value.isNegative = false
  deriving DecidableEq

namespace Seconds

def ofBinary64 (x : Binary64) : Except DurationError Seconds :=
  if hf : x.isFinite then
    if hn : x.isNegative = false then .ok ⟨x, hf, hn⟩ else .error (.negative x)
  else .error .notFinite

open Binary64 in
theorem fraction_le {n : Nat} (h : n < nanosPerSecond) :
    n * one * one / (nanosPerSecond * one) ≤ one := by
  rw [Nat.mul_div_mul_right _ _ Binary64.one_pos]
  apply Nat.div_le_of_le_mul
  exact Nat.mul_le_mul_right _ (Nat.le_of_lt h)

open Binary64 in
theorem fraction_finite {n : Nat} (h : n < nanosPerSecond) :
    ∃ hf, ofNat n / ofNat nanosPerSecond =
      .finite false (nearest (n * one * one) (nanosPerSecond * one)) hf := by
  obtain ⟨_, hn⟩ := ofNat_of_le (n := n) (Nat.le_trans (Nat.le_of_lt h) (by decide))
  obtain ⟨_, hg⟩ := ofNat_of_le (n := nanosPerSecond) (by decide)
  have hz : nanosPerSecond * one ≠ 0 :=
    Nat.mul_ne_zero (by decide) (Nat.pos_iff_ne_zero.1 Binary64.one_pos)
  have hq : n * one * one / (nanosPerSecond * one) ≤ one := fraction_le h
  have hl : 4 * (n * one * one / (nanosPerSecond * one)) < limit := by
    have : 4 * one < limit := pow_mul_one_lt_limit (e := 2) (by decide)
    omega
  obtain ⟨hf, hd⟩ := ofUnits_of_lt false hl
  refine ⟨hf, ?_⟩
  rw [hn, hg]
  show Binary64.div _ _ = _
  simp only [Binary64.div, if_neg hz]
  exact hd

open Binary64 in
theorem sum_finite {secs nanos : Nat} (hs : secs < UInt64.size) (hn : nanos < nanosPerSecond) :
    ∃ u hf, ofNat secs + ofNat nanos / ofNat nanosPerSecond = .finite false u hf := by
  obtain ⟨u, _, ha, hu⟩ := ofNat_of_lt hs
  obtain ⟨v, _, hb, hv⟩ : ∃ v hf, ofNat nanos / ofNat nanosPerSecond = .finite false v hf ∧
      v ≤ 2 * one + 2 := by
    obtain ⟨hf, hb⟩ := fraction_finite hn
    have := fraction_le hn
    exact ⟨_, hf, hb, Nat.le_trans (nearest_le _ _) (by omega)⟩
  have hl : 4 * ((u + v) / 1) < limit := by
    have h1 : secs * one ≤ UInt64.size * one := Nat.mul_le_mul_right _ (Nat.le_of_lt hs)
    have h2 : 8 * (UInt64.size * one) + 32 * one < limit := by
      refine Nat.lt_of_le_of_lt ?_ (pow_mul_one_lt_limit (e := 68) (by decide))
      rw [← Nat.mul_assoc, ← Nat.add_mul]
      exact Nat.mul_le_mul_right _ (by decide)
    have := Binary64.one_pos
    rw [Nat.div_one]
    omega
  obtain ⟨hf, hd⟩ := ofUnits_of_lt false hl
  refine ⟨_, hf, ?_⟩
  rw [ha, hb, add_finite]
  exact hd

/-- The sum of the whole seconds and of the fraction, each of them rounded first. -/
def ofSpan (s : Span) : Seconds :=
  ⟨Binary64.ofNat s.secs + Binary64.ofNat s.subsec / Binary64.ofNat nanosPerSecond,
    by obtain ⟨_, _, h⟩ := sum_finite s.secs_lt s.subsec_lt; rw [h]; rfl,
    by obtain ⟨_, _, h⟩ := sum_finite s.secs_lt s.subsec_lt; rw [h]; rfl⟩

/-- The span nearest to a number of seconds, ties to the even nanosecond. -/
def toSpan? (s : Seconds) : Option Span :=
  let nanos := roundDiv (s.value.units * nanosPerSecond) Binary64.one
  if h : nanos < UInt64.size * nanosPerSecond then some ⟨nanos, h⟩ else none

/-- The number of seconds where it is whole and at most `2⁵³`. -/
def whole? (s : Seconds) : Option Nat :=
  if s.value.units % Binary64.one = 0 ∧
      s.value.units ≤ Binary64.significandLimit * Binary64.one then
    some (s.value.units / Binary64.one)
  else none

end Seconds

end ApiGateway
