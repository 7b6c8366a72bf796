import ApiGateway.Duration.Seconds
import ApiGateway.Proofs.Binary64.Nearest

/-!
# Spans and their numbers of seconds

Below `2²³` seconds neighbouring doubles are closer than a nanosecond, and a span is the nearest
one to its own number of seconds (`toSpan?_ofSpan`). From there on they are further apart, and a
double is the number of seconds of its nearest span (`equal_of_fraction`). Whole seconds are exact
on both sides as long as they have a double at all.
-/

set_option autoImplicit false

namespace ApiGateway

open Binary64

namespace Binary64

/-- The units in `2⁻⁵³`: what rounding may add to or take from a number below one. -/
def roundoff : Nat := 2 ^ (places - 53)

theorem le_places : 53 ≤ places := by
  unfold places
  decide

theorem pow_mul_one (e : Nat) : 2 ^ e * one = 2 ^ (e + places) := (Nat.pow_add 2 e places).symm

theorem pow_mul_roundoff (e : Nat) : 2 ^ e * roundoff = 2 ^ (e + places - 53) := by
  have h := le_places
  unfold roundoff
  rw [← Nat.pow_add]
  congr 1
  omega

theorem one_eq : one = 9007199254740992 * roundoff := by
  have h := pow_mul_roundoff 53
  rw [Nat.add_sub_cancel_left] at h
  exact h.symm

theorem step_le_roundoff {u e : Nat} (h : u < 2 ^ e * one) : step u ≤ 2 ^ e * roundoff := by
  rw [pow_mul_one] at h
  rw [pow_mul_roundoff]
  exact step_le_of_lt h

theorem roundoff_le_step {u e : Nat} (h : 2 ^ e * one ≤ u) : 2 ^ (e + 1) * roundoff ≤ step u := by
  rw [pow_mul_one] at h
  rw [pow_mul_roundoff]
  have e' : e + 1 + places - 53 = e + places - 52 := by
    have := le_places
    omega
  rw [e']
  exact le_step_of_le h

theorem size_mul_one : UInt64.size * one = 2 ^ (11 + places + 53) := by
  rw [show UInt64.size = 2 ^ 64 from rfl, pow_mul_one, Nat.add_right_comm]

end Binary64

namespace Seconds

/-- Equality of seconds as doubles compare: the two zeros are the same. -/
def Equal (x y : Seconds) : Prop := x.value.Equal y.value

theorem finite_of_units (x : Seconds) :
    ∃ s hf, x.value = .finite s x.value.units hf ∧ (s = false ∨ x.value.units = 0) := by
  obtain ⟨value, hfinite, hneg⟩ := x
  cases value with
  | nan => cases hfinite
  | infinity s => cases hfinite
  | finite s u hf =>
    refine ⟨s, hf, rfl, ?_⟩
    cases s with
    | false => exact Or.inl rfl
    | true =>
      right
      simpa [Binary64.isNegative, Binary64.units] using hneg

theorem equal_iff {x y : Seconds} : Equal x y ↔ x.value.units = y.value.units := by
  obtain ⟨s, hf, hx, hs⟩ := finite_of_units x
  obtain ⟨t, hg, hy, ht⟩ := finite_of_units y
  unfold Equal
  rw [hx, hy]
  constructor
  · exact fun h => h.1
  · intro h
    refine ⟨h, ?_⟩
    simp only [Binary64.units] at h hs ht ⊢
    rcases hs with rfl | hs
    · rcases ht with rfl | ht
      · exact Or.inl rfl
      · exact Or.inr (h.trans ht)
    · exact Or.inr hs

theorem Equal.refl (x : Seconds) : Equal x x := equal_iff.2 rfl

theorem ofBinary64_eq_ok_iff {y : Binary64} {x : Seconds} : ofBinary64 y = .ok x ↔ y = x.value := by
  unfold ofBinary64
  constructor
  · intro h
    split at h
    · split at h
      · cases h
        rfl
      · cases h
    · cases h
  · rintro rfl
    rw [dif_pos x.isFinite, dif_pos x.nonneg]

/-- The units that the nanoseconds beyond the last whole second make. -/
def fraction (n : Nat) : Nat := nearest (n * one * one) (nanosPerSecond * one)

theorem fraction_zero : fraction 0 = 0 := by
  have hd : 0 < nanosPerSecond * one := Nat.mul_pos (by decide) Binary64.one_pos
  have h := nearest_mul_self hd fits_zero
  rw [Nat.zero_mul] at h
  unfold fraction
  rw [Nat.zero_mul, Nat.zero_mul]
  exact h

theorem two_mul_fraction {n : Nat} (h : n < nanosPerSecond) :
    2 * (fraction n * nanosPerSecond) ≤ 2 * (n * one) + nanosPerSecond * roundoff ∧
      2 * (n * one) ≤ 2 * (fraction n * nanosPerSecond) + nanosPerSecond * roundoff := by
  have hd : 0 < nanosPerSecond := by decide
  have hq : n * one / nanosPerSecond < 2 ^ 0 * one := by
    rw [Nat.pow_zero, Nat.one_mul]
    apply (Nat.div_lt_iff_lt_mul hd).2
    rw [Nat.mul_comm one]
    exact Nat.mul_lt_mul_of_pos_right h Binary64.one_pos
  have hs := step_le_roundoff hq
  rw [Nat.pow_zero, Nat.one_mul] at hs
  have hs' := Nat.mul_le_mul_left nanosPerSecond hs
  have hb := two_mul_nearest (n * one) hd
  unfold fraction
  rw [nearest_mul_mul _ _ Binary64.one_pos]
  omega

theorem fraction_lt {n : Nat} (h : n < nanosPerSecond) : fraction n < one := by
  have hb := (two_mul_fraction h).1
  have hn : (n + 1) * one ≤ nanosPerSecond * one := Nat.mul_le_mul_right _ h
  rw [Nat.add_mul, Nat.one_mul] at hn
  have ho := one_eq
  have hr := Binary64.one_pos
  simp only [nanosPerSecond] at hb hn ⊢
  omega

/-- The whole seconds of a span are exact and its fraction is rounded once, so the sum before its
own rounding is off by half a roundoff. -/
theorem two_mul_sum (s : Span) :
    2 * ((s.secs * one + fraction s.subsec) * nanosPerSecond) ≤
        2 * (s.nanos * one) + nanosPerSecond * roundoff ∧
      2 * (s.nanos * one) ≤
        2 * ((s.secs * one + fraction s.subsec) * nanosPerSecond) + nanosPerSecond * roundoff := by
  have hb := two_mul_fraction s.subsec_lt
  have e : s.nanos * one = s.secs * one * nanosPerSecond + s.subsec * one := by
    rw [s.nanos_eq, Nat.add_mul, Nat.mul_right_comm]
  rw [e, Nat.add_mul]
  simp only [Nat.mul_add, Nat.add_assoc]
  exact ⟨Nat.add_le_add_left hb.1 _, Nat.add_le_add_left hb.2 _⟩

theorem units_ofSpan_eq (s : Span) :
    (ofSpan s).value.units = nearest (nearest (s.secs * one) 1 + fraction s.subsec) 1 := by
  obtain ⟨u, hu, hsecs, -⟩ := ofNat_of_lt s.secs_lt
  obtain ⟨hf, hfraction⟩ := fraction_finite s.subsec_lt
  obtain ⟨v, hv, hsum⟩ := sum_finite s.secs_lt s.subsec_lt
  obtain ⟨-, rfl⟩ := units_of_ofUnits hsecs
  show (Binary64.ofNat s.secs + Binary64.ofNat s.subsec / Binary64.ofNat nanosPerSecond).units = _
  rw [hsum]
  rw [hsecs, hfraction, add_finite] at hsum
  exact (units_of_ofUnits hsum).2

theorem units_ofSpan {s : Span} (h : s.secs ≤ significandLimit) :
    (ofSpan s).value.units = nearest (s.secs * one + fraction s.subsec) 1 := by
  obtain ⟨hf, -⟩ := ofNat_of_le h
  rw [units_ofSpan_eq, nearest_one_of_dvd hf.2]

theorem pow_le_units_ofSpan {s : Span} {e : Nat} (h : 2 ^ e ≤ s.secs) :
    2 ^ e * one ≤ (ofSpan s).value.units := by
  have hsecs : 2 ^ e * one ≤ s.secs * one := Nat.mul_le_mul_right one h
  rw [pow_mul_one] at hsecs
  rw [units_ofSpan_eq, pow_mul_one]
  have hround : 2 ^ (e + places) ≤ nearest (s.secs * one) 1 := by
    apply pow_le_nearest
    rwa [Nat.div_one]
  apply pow_le_nearest
  rw [Nat.div_one]
  exact Nat.le_trans hround (Nat.le_add_right _ _)

theorem toSpan?_of_close {x : Seconds} {s : Span}
    (lo : 2 * (s.nanos * one) < 2 * (x.value.units * nanosPerSecond) + one)
    (hi : 2 * (x.value.units * nanosPerSecond) < 2 * (s.nanos * one) + one) :
    x.toSpan? = some s := by
  have h : roundDiv (x.value.units * nanosPerSecond) one = s.nanos :=
    roundDiv_eq_of_close Binary64.one_pos lo hi
  unfold toSpan?
  simp only [h, dif_pos s.nanos_lt]

theorem secs_le_of_lt {s : Span} {e : Nat} (h : s.secs < 2 ^ e) (he : e ≤ 53) :
    s.secs ≤ significandLimit :=
  Nat.le_of_lt (Nat.lt_of_lt_of_le h (Nat.pow_le_pow_right (by decide) he))

theorem sum_lt {s : Span} {n : Nat} (h : s.secs < n) :
    s.secs * one + fraction s.subsec < n * one := by
  have hf := fraction_lt s.subsec_lt
  have hs := Nat.mul_le_mul_right one (Nat.succ_le_of_lt h)
  rw [Nat.succ_mul] at hs
  omega

/-- The two roundings together: half a step of the sum, and what the fraction was off by. -/
theorem two_mul_ofSpan {s : Span} {e : Nat} (h : s.secs < 2 ^ e) (he : e ≤ 53) :
    2 * ((ofSpan s).value.units * nanosPerSecond) ≤
        2 * (s.nanos * one) + nanosPerSecond * ((2 ^ e + 1) * roundoff) ∧
      2 * (s.nanos * one) ≤
        2 * ((ofSpan s).value.units * nanosPerSecond) +
          nanosPerSecond * ((2 ^ e + 1) * roundoff) := by
  have hb := two_mul_sum s
  have hv := step_le_roundoff (sum_lt h)
  have hr := two_mul_nearest (s.secs * one + fraction s.subsec) Nat.one_pos
  rw [Nat.div_one, Nat.mul_one, Nat.one_mul] at hr
  rw [units_ofSpan (secs_le_of_lt h he), Nat.succ_mul (2 ^ e)]
  generalize s.secs * one + fraction s.subsec = v at hb hv hr ⊢
  generalize 2 ^ e * roundoff = w at hv ⊢
  generalize s.nanos * one = n, nearest v 1 = r at hb hr ⊢
  simp only [nanosPerSecond] at hb ⊢
  constructor <;> omega

theorem units_ofSpan_le_pow {s : Span} {e : Nat} (h : s.secs < 2 ^ e) (he : e ≤ 53) :
    (ofSpan s).value.units ≤ 2 ^ e * one := by
  have hsum := sum_lt h
  rw [units_ofSpan (secs_le_of_lt h he)]
  rw [pow_mul_one] at hsum ⊢
  apply nearest_le_pow
  rwa [Nat.div_one]

theorem toSpan?_ofSpan {s : Span} (h : s.secs < 2 ^ 23) : (ofSpan s).toSpan? = some s := by
  obtain ⟨h1, h2⟩ := two_mul_ofSpan h (by decide)
  have ho := one_eq
  have hp := Binary64.one_pos
  simp only [nanosPerSecond] at h1 h2
  generalize hn : s.nanos * one = n at h1 h2
  apply toSpan?_of_close
  · rw [hn]
    simp only [nanosPerSecond]
    omega
  · rw [hn]
    simp only [nanosPerSecond]
    omega

def IsWhole (x : Seconds) : Prop := x.value.units % one = 0

theorem fits_units (x : Seconds) : Fits x.value.units := by
  obtain ⟨_, hf, _, _⟩ := finite_of_units x
  exact hf

theorem isWhole_of_le {x : Seconds} (h : 2 ^ 52 * one ≤ x.value.units) : x.IsWhole := by
  have hstep : 2 ^ places ∣ step x.value.units := by
    apply Nat.pow_dvd_pow 2
    rw [pow_mul_one] at h
    have hz : x.value.units ≠ 0 := by
      have := Nat.two_pow_pos (52 + places)
      omega
    have := (Nat.le_log2 hz).2 h
    omega
  exact Nat.mod_eq_zero_of_dvd (Nat.dvd_trans hstep (Nat.dvd_of_mod_eq_zero (fits_units x).2))

theorem toSpan?_of_isWhole {x : Seconds} (hw : x.IsWhole) (h : x.value.units / one < UInt64.size) :
    x.toSpan? = some (.ofSeconds (x.value.units / one) h) := by
  have e : x.value.units * nanosPerSecond = x.value.units / one * nanosPerSecond * one := by
    rw [Nat.mul_right_comm, Nat.div_mul_cancel (Nat.dvd_of_mod_eq_zero hw)]
  unfold toSpan?
  rw [e, roundDiv_mul_self _ Binary64.one_pos]
  exact dif_pos (Nat.mul_lt_mul_of_pos_right h (by decide))

theorem units_ofSeconds {n : Nat} (h : n < UInt64.size) (hf : Fits (n * one)) :
    (ofSpan (.ofSeconds n h)).value.units = n * one := by
  have hs : (Span.ofSeconds n h).secs = n := by
    unfold Span.secs Span.ofSeconds
    exact Nat.mul_div_cancel n (by decide)
  have hn : (Span.ofSeconds n h).subsec = 0 := by
    unfold Span.subsec Span.ofSeconds
    exact Nat.mul_mod_left n _
  rw [units_ofSpan_eq, hs, hn, nearest_one_of_dvd hf.2, fraction_zero, Nat.add_zero,
    nearest_one_of_dvd hf.2]

theorem units_ofSeconds_of_le {n : Nat} (h : n < UInt64.size) (hn : n ≤ 2 ^ 53) :
    (ofSpan (.ofSeconds n h)).value.units = n * one := by
  obtain ⟨hf, -⟩ := ofNat_of_le hn
  exact units_ofSeconds h hf

/-- Whole seconds with a double of their own come back from their span. -/
theorem equal_ofSeconds {x : Seconds} (hw : x.IsWhole) (h : x.value.units / one < UInt64.size) :
    Equal (ofSpan (.ofSeconds (x.value.units / one) h)) x := by
  have e : x.value.units / one * one = x.value.units :=
    Nat.div_mul_cancel (Nat.dvd_of_mod_eq_zero hw)
  apply equal_iff.2
  rw [units_ofSeconds h, e]
  rw [e]
  exact fits_units x

theorem close_of_toSpan? {x : Seconds} {s : Span} (h : x.toSpan? = some s) :
    2 * (s.nanos * one) ≤ 2 * (x.value.units * nanosPerSecond) + one ∧
      2 * (x.value.units * nanosPerSecond) ≤ 2 * (s.nanos * one) + one := by
  have hc := two_mul_roundDiv (x.value.units * nanosPerSecond) Binary64.one_pos
  unfold toSpan? at h
  dsimp only at h
  split at h
  · cases h
    exact hc
  · cases h

theorem exists_toSpan? {x : Seconds} {n : Nat} (hx : x.value.units ≤ n * one)
    (hn : n < UInt64.size) : ∃ s, x.toSpan? = some s ∧ s.nanos ≤ n * nanosPerSecond := by
  have hle : roundDiv (x.value.units * nanosPerSecond) one ≤ n * nanosPerSecond := by
    apply roundDiv_le_of_le Binary64.one_pos
    rw [Nat.mul_right_comm]
    exact Nat.mul_le_mul_right _ hx
  have hlt := Nat.lt_of_le_of_lt hle (Nat.mul_lt_mul_of_pos_right hn (by decide))
  exact ⟨_, dif_pos hlt, hle⟩

theorem toSpan?_congr {x y : Seconds} (h : Equal x y) : x.toSpan? = y.toSpan? := by
  unfold toSpan?
  rw [equal_iff.1 h]

/-- A number of seconds has a nearest span as long as it is below what spans can hold: there the
doubles are 2048 seconds apart. -/
theorem exists_toSpan?_iff {x : Seconds} :
    (∃ s, x.toSpan? = some s) ↔ x.value.units < UInt64.size * one := by
  constructor
  · rintro ⟨s, hs⟩
    have hle := le_roundDiv (x.value.units * nanosPerSecond) one
    unfold toSpan? at hs
    dsimp only at hs
    split at hs
    · rename_i hlt
      have hdiv := (Nat.div_lt_iff_lt_mul Binary64.one_pos).1 (Nat.lt_of_le_of_lt hle hlt)
      rw [Nat.mul_right_comm] at hdiv
      exact Nat.lt_of_mul_lt_mul_right hdiv
    · cases hs
  · intro h
    rw [size_mul_one] at h
    have hle := le_sub_of_lt_pow (fits_units x).2 h
    rw [Nat.pow_add, ← Nat.mul_assoc] at hle
    obtain ⟨s, hs, -⟩ := exists_toSpan? hle (by decide)
    exact ⟨s, hs⟩

theorem nearest_mul_one {n : Nat} (h : 2 ^ 52 ≤ n) : nearest (n * one) 1 = nearest n 1 * one :=
  nearest_mul_pow places h

/-- Doubles of `2⁶³` seconds and more are 2048 apart, so the last 1024 seconds of the spans are
rounded up and out of them. -/
theorem units_ofSpan_lt_iff {s : Span} :
    (ofSpan s).value.units < UInt64.size * one ↔ s.secs < UInt64.size - 1024 := by
  rw [units_ofSpan_eq]
  constructor
  · intro h
    apply Nat.lt_of_not_le
    intro hs
    have hround : nearest ((UInt64.size - 1024) * one) 1 = UInt64.size * one := by
      rw [nearest_mul_one (by decide), show nearest (UInt64.size - 1024) 1 = UInt64.size by
        decide +kernel]
    have hsecs : UInt64.size * one ≤ nearest (s.secs * one) 1 := by
      rw [← hround]
      exact nearest_mono 1 (Nat.mul_le_mul_right one hs)
    have hsum : UInt64.size * one ≤ nearest (nearest (s.secs * one) 1 + fraction s.subsec) 1 := by
      rw [size_mul_one] at hsecs ⊢
      apply pow_le_nearest
      rw [Nat.div_one]
      exact Nat.le_trans hsecs (Nat.le_add_right _ _)
    omega
  · intro h
    have hsecs : nearest (s.secs * one) 1 ≤ (UInt64.size - 2048) * one := by
      calc nearest (s.secs * one) 1 ≤ nearest ((UInt64.size - 1025) * one) 1 :=
            nearest_mono 1 (Nat.mul_le_mul_right one (Nat.le_pred_of_lt h))
        _ = nearest (UInt64.size - 1025) 1 * one := nearest_mul_one (by decide)
        _ = (UInt64.size - 2048) * one := by
            rw [show nearest (UInt64.size - 1025) 1 = UInt64.size - 2048 by decide +kernel]
    have hsum : nearest (s.secs * one) 1 + fraction s.subsec ≤ (UInt64.size - 2047) * one := by
      rw [show UInt64.size - 2047 = UInt64.size - 2048 + 1 from rfl, Nat.succ_mul]
      exact Nat.add_le_add hsecs (Nat.le_of_lt (fraction_lt s.subsec_lt))
    calc nearest (nearest (s.secs * one) 1 + fraction s.subsec) 1
        ≤ nearest ((UInt64.size - 2047) * one) 1 := nearest_mono 1 hsum
      _ = nearest (UInt64.size - 2047) 1 * one := nearest_mul_one (by decide)
      _ < UInt64.size * one := by
          apply Nat.mul_lt_mul_of_pos_right _ Binary64.one_pos
          decide +kernel

theorem two_pow_log2_ne {x : Seconds} (hw : ¬ x.IsWhole) (h : one ≤ x.value.units) :
    2 ^ x.value.units.log2 ≠ x.value.units := by
  intro he
  apply hw
  have hz : x.value.units ≠ 0 := by
    have := Binary64.one_pos
    omega
  have hl : places ≤ x.value.units.log2 := (Nat.le_log2 hz).2 h
  have hd : one ∣ 2 ^ x.value.units.log2 := Nat.pow_dvd_pow 2 hl
  rw [he] at hd
  exact Nat.mod_eq_zero_of_dvd hd

/-- From `2²³` seconds on half a step is more than half a nanosecond, so the double of the nearest
span is the same one. -/
theorem equal_of_fraction {x : Seconds} {s : Span} (h : x.toSpan? = some s) (hw : ¬ x.IsWhole)
    (hx : 2 ^ 23 * one ≤ x.value.units) : Equal (ofSpan s) x := by
  have hlt : x.value.units ≤ 2 ^ 52 * one := Nat.le_of_not_le fun hn => hw (isWhole_of_le hn)
  have hsecs : s.secs ≤ significandLimit := by
    obtain ⟨s', hs', hle⟩ := exists_toSpan? hlt (by decide)
    rw [h] at hs'
    cases hs'
    exact Nat.le_trans (Nat.div_le_of_le_mul (Nat.mul_comm _ _ ▸ hle)) (by decide)
  have ho := one_eq
  have hp := Binary64.one_pos
  have hc := close_of_toSpan? h
  have hb := two_mul_sum s
  -- Half a nanosecond and half a roundoff make less than half a step.
  have hs := roundoff_le_step hx
  have hpow := two_pow_log2_ne hw (by omega)
  apply equal_iff.2
  rw [units_ofSpan hsecs]
  generalize s.secs * one + fraction s.subsec = v at hb ⊢
  generalize s.nanos * one = n at hb hc
  simp only [nanosPerSecond] at hb hc
  apply nearest_eq_of_close Nat.one_pos (by omega) (fits_units x).2
  · omega
  · omega
  · exact fun he => absurd he hpow

/-- From `2²³` seconds on a double is told by its nearest span. -/
theorem equal_ofSpan {x : Seconds} {s : Span} (h : x.toSpan? = some s)
    (hx : 2 ^ 23 * one ≤ x.value.units) : Equal (ofSpan s) x := by
  by_cases hw : x.IsWhole
  · have hlt : x.value.units / one < UInt64.size :=
      (Nat.div_lt_iff_lt_mul Binary64.one_pos).2 (exists_toSpan?_iff.1 ⟨s, h⟩)
    rw [toSpan?_of_isWhole hw hlt] at h
    cases h
    exact equal_ofSeconds hw hlt
  · exact equal_of_fraction h hw hx

end Seconds

end ApiGateway
