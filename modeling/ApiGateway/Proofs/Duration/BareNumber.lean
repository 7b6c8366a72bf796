import ApiGateway.Proofs.Duration.RoundTrip

/-!
# Bare numbers of seconds

A bare number is read as a product and a quotient, each of them rounded. The two roundings cancel
for most numbers of seconds, and `IsSteady` says from the significand for which
(`throughNanos_eq_self_iff`). A bare number and the double that is read from it lie on the same side
of every power of two (`throughNanos_lt_pow_iff`).
-/

set_option autoImplicit false

namespace ApiGateway

open Binary64

namespace Duration

/-- The units of the number that a bare number of seconds is read as: its nanoseconds and the
quotient by them are both rounded. -/
def throughNanos (u : Nat) : Nat := nearest (nearest (u * nanosPerSecond) 1) nanosPerSecond

theorem throughNanos_mono {u v : Nat} (h : u ≤ v) : throughNanos u ≤ throughNanos v :=
  nearest_mono _ (nearest_mono _ (Nat.mul_le_mul_right _ h))

/-- The significand of a magnitude times `5⁹`, which is all of `10⁹` that is no power of two. -/
def product (u : Nat) : Nat := u / step u * 5 ^ 9

/-- The magnitudes that come back from their nanoseconds. The product is cut down to 53 bits. Of 73
bits that drops 20, which is always less than half of `5⁹`. Of 74 bits it drops 21, which is less
only near a multiple of `2²¹`. -/
def IsSteady (u : Nat) : Prop :=
  product u < 2 ^ 73 ∨ 2 * (product u % 2 ^ 21) < 5 ^ 9 ∨ 2 * (2 ^ 21 - product u % 2 ^ 21) < 5 ^ 9

instance (u : Nat) : Decidable (IsSteady u) :=
  inferInstanceAs (Decidable (_ ∨ _))

section

variable {u : Nat}

theorem mul_nanos_eq (hu : u % step u = 0) :
    u * nanosPerSecond = product u * (2 ^ 9 * step u) := by
  have hm : u / step u * step u = u := Nat.div_mul_cancel (Nat.dvd_of_mod_eq_zero hu)
  have hn : nanosPerSecond = 5 ^ 9 * 2 ^ 9 := by decide
  calc u * nanosPerSecond = u / step u * step u * (5 ^ 9 * 2 ^ 9) := by rw [hm, hn]
    _ = product u * (2 ^ 9 * step u) := by
      unfold product
      ac_rfl

theorem product_lt (u : Nat) : product u < 2 ^ 53 * 5 ^ 9 := by
  have h := div_step_lt u 1
  rw [Nat.div_one, Nat.one_mul] at h
  exact Nat.mul_lt_mul_of_pos_right h (by decide)

theorem step_mul_nanos_le (hu : u % step u = 0) (h : product u < 2 ^ 73) :
    step (u * nanosPerSecond) ≤ 2 ^ 29 * step u := by
  have hlt : u * nanosPerSecond < 2 ^ (82 + (u.log2 - 52)) := by
    rw [mul_nanos_eq hu, Nat.pow_add, show 2 ^ 82 = 2 ^ 73 * 2 ^ 9 from rfl, Nat.mul_assoc]
    exact Nat.mul_lt_mul_of_pos_right h (Nat.mul_pos (by decide) (step_pos u))
  refine Nat.le_trans (step_le_of_lt hlt) ?_
  show _ ≤ 2 ^ 29 * 2 ^ (u.log2 - 52)
  rw [← Nat.pow_add]
  exact Nat.pow_le_pow_right (by decide) (by omega)

theorem step_mul_nanos (hu : u % step u = 0) (h : 2 ^ 73 ≤ product u) :
    step (u * nanosPerSecond) = 2 ^ 21 * (2 ^ 9 * step u) := by
  have hp := product_lt u
  have hlog : (product u).log2 = 73 := by
    apply (Nat.log2_eq_iff (by omega)).2
    exact ⟨h, Nat.lt_trans hp (by decide)⟩
  have hs : step (product u) = 2 ^ 21 := by
    unfold step
    rw [hlog]
    rfl
  have e : 2 ^ 9 * step u = 2 ^ (9 + (u.log2 - 52)) := (Nat.pow_add 2 9 _).symm
  rw [mul_nanos_eq hu, e, step_mul_pow _ (Nat.le_trans (by decide) h), hs]

/-- A power of two times `10⁹` has few bits and is not rounded. -/
theorem nearest_mul_nanos_of_pow (hp : 2 ^ u.log2 = u) :
    nearest (u * nanosPerSecond) 1 = u * nanosPerSecond := by
  apply nearest_one_of_dvd
  apply Nat.mod_eq_zero_of_dvd
  refine Nat.dvd_mul_right_of_dvd ?_ _
  have hlt : u * nanosPerSecond < 2 ^ (u.log2 + 30) := by
    rw [Nat.pow_add, hp]
    exact Nat.mul_lt_mul_of_pos_left (by decide) (hp ▸ Nat.two_pow_pos _)
  have hl := log2_le_of_lt_pow hlt
  have hd : step (u * nanosPerSecond) ∣ 2 ^ u.log2 := Nat.pow_dvd_pow 2 (by omega)
  rwa [hp] at hd

theorem product_lt_of_pow (hp : 2 ^ u.log2 = u) : product u < 2 ^ 73 := by
  have hle : u / step u ≤ 2 ^ 52 := by
    apply Nat.div_le_of_le_mul
    show u ≤ 2 ^ (u.log2 - 52) * 2 ^ 52
    rw [← Nat.pow_add, ← hp, Nat.log2_two_pow]
    exact Nat.pow_le_pow_right (by decide) (by omega)
  exact Nat.lt_of_le_of_lt (Nat.mul_le_mul_right _ hle) (by decide)

theorem throughNanos_of_lt (hu : u % step u = 0) (h : product u < 2 ^ 73) :
    throughNanos u = u := by
  by_cases hz : u = 0
  · subst hz
    decide
  have hs := step_mul_nanos_le hu h
  have hr := two_mul_nearest (u * nanosPerSecond) Nat.one_pos
  rw [Nat.div_one, Nat.mul_one, Nat.one_mul] at hr
  have hlt : 2 ^ 29 * step u < nanosPerSecond * step u :=
    Nat.mul_lt_mul_of_pos_right (by decide) (step_pos u)
  apply nearest_eq_of_close (by decide) hz hu
  · omega
  · omega
  · exact fun he => Nat.le_of_eq (nearest_mul_nanos_of_pow he).symm

theorem throughNanos_of_le (hu : u % step u = 0) (h : 2 ^ 73 ≤ product u) :
    throughNanos u = nearest (roundDiv (product u) (2 ^ 21) * 2 ^ 21 * step u) (5 ^ 9) := by
  have hpos : 0 < 2 ^ 9 * step u := Nat.mul_pos (by decide) (step_pos u)
  have hr : nearest (u * nanosPerSecond) 1 =
      roundDiv (product u) (2 ^ 21) * 2 ^ 21 * step u * 2 ^ 9 := by
    unfold nearest
    rw [Nat.div_one, Nat.one_mul, step_mul_nanos hu h, mul_nanos_eq hu, roundDiv_mul_mul _ _ hpos]
    ac_rfl
  unfold throughNanos
  rw [hr, show nanosPerSecond = 5 ^ 9 * 2 ^ 9 by decide, nearest_mul_mul _ _ (by decide)]

theorem throughNanos_eq_self_iff (hu : u % step u = 0) : throughNanos u = u ↔ IsSteady u := by
  by_cases h : product u < 2 ^ 73
  · exact iff_of_true (throughNanos_of_lt hu h) (Or.inl h)
  have hle := Nat.le_of_not_lt h
  -- Both sides say how far the rounded product is off.
  have hsteady : IsSteady u ↔ 2 * product u < 2 * (roundDiv (product u) (2 ^ 21) * 2 ^ 21) + 5 ^ 9 ∧
      2 * (roundDiv (product u) (2 ^ 21) * 2 ^ 21) < 2 * product u + 5 ^ 9 := by
    unfold IsSteady roundDiv
    generalize product u = p at h
    constructor
    · intro hc
      split <;> omega
    · intro hc
      split at hc <;> omega
  have hu5 : u * 5 ^ 9 = product u * step u := by
    unfold product
    rw [Nat.mul_right_comm, Nat.div_mul_cancel (Nat.dvd_of_mod_eq_zero hu)]
  have hp : 2 ^ u.log2 ≠ u := fun he => h (product_lt_of_pow he)
  have hz : u ≠ 0 := by
    rintro rfl
    exact h (by decide)
  rw [hsteady, throughNanos_of_le hu hle]
  generalize roundDiv (product u) (2 ^ 21) * 2 ^ 21 = r
  constructor
  · intro he
    have hs := step_div_le_step_nearest (r * step u) (5 ^ 9)
    obtain ⟨h1, h2⟩ := two_mul_nearest (r * step u) (show 0 < 5 ^ 9 by decide)
    rw [he] at hs h1 h2
    rw [hu5] at h1 h2
    have hs' := Nat.mul_le_mul_left (5 ^ 9) hs
    have h1' : 2 * product u * step u ≤ (2 * r + 5 ^ 9) * step u := by
      rw [Nat.add_mul, Nat.mul_assoc, Nat.mul_assoc]
      omega
    have h2' : 2 * r * step u ≤ (2 * product u + 5 ^ 9) * step u := by
      rw [Nat.add_mul, Nat.mul_assoc, Nat.mul_assoc]
      omega
    have := Nat.le_of_mul_le_mul_right h1' (step_pos u)
    have := Nat.le_of_mul_le_mul_right h2' (step_pos u)
    -- The power of five is odd, so neither bound is reached.
    omega
  · rintro ⟨h1, h2⟩
    have h1' := Nat.mul_lt_mul_of_pos_right h1 (step_pos u)
    have h2' := Nat.mul_lt_mul_of_pos_right h2 (step_pos u)
    rw [Nat.add_mul, Nat.mul_assoc, Nat.mul_assoc] at h1' h2'
    apply nearest_eq_of_close (by decide) hz hu
    · rwa [hu5]
    · rwa [hu5]
    · exact fun he => absurd he hp

end

theorem throughNanos_pow (e : Nat) : throughNanos (2 ^ e) = 2 ^ e := by
  have hp : 2 ^ (2 ^ e).log2 = 2 ^ e := by rw [Nat.log2_two_pow]
  exact throughNanos_of_lt (mod_step_pow e) (product_lt_of_pow hp)

theorem product_mul_pow {m : Nat} (e : Nat) (lo : 2 ^ 52 ≤ m) (hi : m < 2 ^ 53) :
    product (m * 2 ^ e) = m * 5 ^ 9 := by
  have hs : step m = 1 := by
    have hl : m.log2 = 52 := (Nat.log2_eq_iff (by omega)).2 ⟨lo, hi⟩
    unfold step
    rw [hl]
  unfold product
  rw [step_mul_pow e lo, hs, Nat.one_mul, Nat.mul_div_cancel _ (Nat.two_pow_pos e)]

/-- The powers of two and the last double below each of them are steady. -/
theorem throughNanos_lt_pow_iff {u e : Nat} (hu : u % step u = 0) :
    throughNanos u < 2 ^ (e + 53) ↔ u < 2 ^ (e + 53) := by
  constructor
  · intro h
    apply Nat.lt_of_not_le
    intro hle
    have hm := throughNanos_mono hle
    rw [throughNanos_pow] at hm
    omega
  · intro h
    have hm := throughNanos_mono (le_sub_of_lt_pow hu h)
    have hs : step ((2 ^ 53 - 1) * 2 ^ e) = 2 ^ e := by
      rw [step_mul_pow e (by decide), show step (2 ^ 53 - 1) = 1 by decide, Nat.one_mul]
    have htop : throughNanos ((2 ^ 53 - 1) * 2 ^ e) = (2 ^ 53 - 1) * 2 ^ e := by
      apply (throughNanos_eq_self_iff _).2
      · unfold IsSteady
        rw [product_mul_pow e (by decide) (by decide)]
        decide
      · rw [hs]
        exact Nat.mul_mod_left _ _
    have hp := Nat.two_pow_pos e
    rw [htop] at hm
    rw [Nat.pow_add, Nat.mul_comm]
    refine Nat.lt_of_le_of_lt hm ?_
    exact Nat.mul_lt_mul_of_pos_right (by decide) hp

/-- Below `2²³` seconds the significand of a whole number of seconds ends in more than 21 zeros. -/
theorem isSteady_of_whole {u : Nat} (hw : u % one = 0) (h : u < 2 ^ 23 * one) : IsSteady u := by
  have hdvd : step u * 2 ^ 21 ∣ u := by
    refine Nat.dvd_trans ?_ (Nat.dvd_of_mod_eq_zero hw)
    rw [pow_mul_one] at h
    have hl := log2_le_of_lt_pow h
    have hp := le_places
    show 2 ^ (u.log2 - 52) * 2 ^ 21 ∣ 2 ^ places
    rw [← Nat.pow_add]
    exact Nat.pow_dvd_pow 2 (by omega)
  have hproduct : product u % 2 ^ 21 = 0 := by
    apply Nat.mod_eq_zero_of_dvd
    exact Nat.dvd_mul_right_of_dvd (Nat.dvd_div_of_mul_dvd hdvd) _
  right
  left
  rw [hproduct]
  decide

theorem fits_nanos : Fits (nanosPerSecond * one) := by
  obtain ⟨hf, -⟩ := ofNat_of_le (n := nanosPerSecond) (by decide)
  exact hf

theorem units_of_mul_div {s t : Bool} {u v : Nat} {hu : Fits u} {hv : Fits v}
    (h : finite s u hu * ofNat nanosPerSecond / ofNat nanosPerSecond = .finite t v hv) :
    t = s ∧ v = throughNanos u := by
  rw [mul_ofNat s hu fits_nanos] at h
  cases hm : ofUnits s (u * nanosPerSecond) 1 with
  | nan =>
    rw [hm] at h
    cases h
  | infinity t =>
    rw [hm, ofNat_of_fits fits_nanos] at h
    cases h
  | finite t r hr =>
    obtain ⟨rfl, rfl⟩ := units_of_ofUnits hm
    rw [hm, div_ofNat _ hr fits_nanos (by decide)] at h
    exact units_of_ofUnits h

theorem mul_div_finite {u : Nat} (s : Bool) (hu : Fits u) (h : u < UInt64.size * one) :
    (finite s u hu * ofNat nanosPerSecond / ofNat nanosPerSecond).isFinite := by
  have hl : 2 ^ 98 * one < limit := pow_mul_one_lt_limit (by decide)
  have hp := Binary64.one_pos
  have hq : u * nanosPerSecond < 2 ^ 94 * one := by
    have := Nat.mul_lt_mul_of_pos_right h (show 0 < nanosPerSecond by decide)
    rw [Nat.mul_right_comm] at this
    exact Nat.lt_of_lt_of_le this (Nat.mul_le_mul_right _ (by decide))
  have hr := nearest_le (u * nanosPerSecond) 1
  rw [Nat.div_one] at hr
  have hm : 4 * (u * nanosPerSecond / 1) < limit := by
    rw [Nat.div_one]
    omega
  have hd : 4 * (nearest (u * nanosPerSecond) 1 / nanosPerSecond) < limit := by
    have := Nat.div_le_self (nearest (u * nanosPerSecond) 1) nanosPerSecond
    omega
  obtain ⟨hf, hm⟩ := ofUnits_of_lt s hm
  obtain ⟨hv, hd⟩ := ofUnits_of_lt s hd
  rw [mul_ofNat s hu fits_nanos, hm, div_ofNat s hf fits_nanos (by decide), hd]
  rfl

theorem ofNumber_eq_ok_iff {v : Binary64} {unit : TimeUnit} {x : Seconds} :
    ofNumber v unit = .ok x ↔ v.isFinite ∧ v.isNegative = false ∧
      v * ofNat unit.nanos / ofNat nanosPerSecond = x.value := by
  unfold ofNumber
  cases hf : v.isFinite with
  | false => simp
  | true =>
    cases hn : v.isNegative with
    | true => simp
    | false =>
      simp only [Bool.not_true, Bool.false_eq_true, if_false, true_and]
      split
      · rename_i hi
        constructor
        · intro h
          cases h
        · intro h
          rw [h, x.isFinite] at hi
          cases hi
      · exact Seconds.ofBinary64_eq_ok_iff

theorem units_of_ofNumber {v : Binary64} {x : Seconds} (h : ofNumber v .seconds = .ok x) :
    x.value.units = throughNanos v.units := by
  obtain ⟨hf, -, hx⟩ := ofNumber_eq_ok_iff.1 h
  obtain ⟨t, hu, ht, -⟩ := x.finite_of_units
  cases v with
  | nan => cases hf
  | infinity s => cases hf
  | finite s u hu =>
    rw [ht] at hx
    exact (units_of_mul_div hx).2

/-- A bare number lies on the same side of a power of two as what is read for it. -/
theorem ofNumber_lt_pow_iff {v : Binary64} {x : Seconds} (h : ofNumber v .seconds = .ok x)
    (e : Nat) : x.value.units < 2 ^ e * one ↔ v.units < 2 ^ e * one := by
  have hf := (ofNumber_eq_ok_iff.1 h).1
  cases v with
  | nan => cases hf
  | infinity s => cases hf
  | finite s u hu =>
    have he : e + places = e + places - 53 + 53 := by
      have := le_places
      omega
    rw [units_of_ofNumber h, pow_mul_one, he]
    exact throughNanos_lt_pow_iff hu.2

/-- Numbers that fit a span are read. -/
theorem exists_ofNumber {v : Seconds} (h : v.value.units < UInt64.size * one) :
    ∃ x, ofNumber v.value .seconds = .ok x := by
  obtain ⟨s, hu, hv, hs⟩ := v.finite_of_units
  have hf := mul_div_finite s hu h
  rw [← hv] at hf
  cases he : v.value * ofNat nanosPerSecond / ofNat nanosPerSecond with
  | nan =>
    rw [he] at hf
    cases hf
  | infinity t =>
    rw [he] at hf
    cases hf
  | finite t w hw =>
    have ht : t = s ∧ w = throughNanos v.value.units := by
      rw [hv] at he
      exact units_of_mul_div he
    have hneg : (finite t w hw).isNegative = false := by
      rcases hs with rfl | hz
      · rw [ht.1]
        rfl
      · have hw : w = 0 := by
          rw [ht.2, hz]
          decide
        subst hw
        exact Bool.and_false t
    exact ⟨⟨finite t w hw, rfl, hneg⟩, ofNumber_eq_ok_iff.2 ⟨v.isFinite, v.nonneg, he⟩⟩

end Duration

namespace RawDuration

open Duration

/-- A bare number of seconds is read as itself exactly if it is steady, and it is then sent as it
would be without having been read. From `2²³` seconds on, where doubles are more than a nanosecond
apart, it is sent so only then. -/
theorem receive_number_equal_iff (v : Seconds) (h : v.value.units < UInt64.size * one) :
    ∃ x t, Receivable.receive (number v.value) = .ok x ∧
      Sendable.send (number v.value) = .ok t ∧
      (x.Equal v ↔ IsSteady v.value.units) ∧
      (IsSteady v.value.units → Sendable.send x = .ok t) ∧
      (2 ^ 23 * one ≤ v.value.units → Sendable.send x = .ok t → IsSteady v.value.units) := by
  obtain ⟨x, hx⟩ := exists_ofNumber h
  obtain ⟨s, hs⟩ := Seconds.exists_toSpan?_iff.2 h
  have hunits := units_of_ofNumber hx
  have hsteady : x.Equal v ↔ IsSteady v.value.units := by
    rw [Seconds.equal_iff, hunits]
    exact throughNanos_eq_self_iff (Seconds.fits_units v).2
  refine ⟨x, ofSpan s, hx, write_of_toSpan? hs, hsteady, ?_, ?_⟩
  · intro hst
    apply write_of_toSpan?
    rw [Seconds.toSpan?_congr (hsteady.2 hst), hs]
  · intro hv hsend
    obtain ⟨s', hs', ht⟩ := write_eq_ok_iff.1 hsend
    rw [← ofSpan_injective ht, nearestSpan?_value] at hs'
    have hxv : 2 ^ 23 * one ≤ x.value.units := by
      rw [hunits, pow_mul_one, ← throughNanos_pow]
      rw [pow_mul_one] at hv
      exact throughNanos_mono hv
    have hxs := Seconds.equal_iff.1 (Seconds.equal_ofSpan hs' hxv)
    have hvs := Seconds.equal_iff.1 (Seconds.equal_ofSpan hs hv)
    exact hsteady.1 (Seconds.equal_iff.2 (hxs.symm.trans hvs))

/-- Seconds that a bare number cannot name, although they are whole, and what is read instead. -/
def unsteady : Span := .ofSeconds 4835703278458528 (by decide)

def misread : Span := .ofSeconds 4835703278458529 (by decide)

theorem units_unsteady : (Seconds.ofSpan unsteady).value.units = 4835703278458528 * one :=
  Seconds.units_ofSeconds_of_le _ (by decide)

theorem unsteady_lt : (Seconds.ofSpan unsteady).value.units < UInt64.size * one := by
  rw [units_unsteady]
  exact Nat.mul_lt_mul_of_pos_right (by decide) Binary64.one_pos

theorem throughNanos_unsteady :
    throughNanos (4835703278458528 * one) = 4835703278458529 * one := by
  decide +kernel

theorem receive_number_equal_iff_sample :
    (Seconds.ofSpan unsteady).value.units < UInt64.size * one ∧
      ∃ x t, Receivable.receive (number (Seconds.ofSpan unsteady).value) = .ok x ∧
        Sendable.send (number (Seconds.ofSpan unsteady).value) = .ok t ∧
        (x.Equal (.ofSpan unsteady) ↔ IsSteady (Seconds.ofSpan unsteady).value.units) ∧
        (IsSteady (Seconds.ofSpan unsteady).value.units → Sendable.send x = .ok t) ∧
        (2 ^ 23 * one ≤ (Seconds.ofSpan unsteady).value.units → Sendable.send x = .ok t →
          IsSteady (Seconds.ofSpan unsteady).value.units) :=
  ⟨unsteady_lt, receive_number_equal_iff (.ofSpan unsteady) unsteady_lt⟩

/-- The number is read as the next one, and is sent as that. -/
theorem receive_number_unsteady :
    ∃ x, Receivable.receive (number (Seconds.ofSpan unsteady).value) = .ok x ∧
      ¬ x.Equal (.ofSpan unsteady) ∧ x.Equal (.ofSpan misread) ∧
      Sendable.send x = .ok ⟨"4835703278458529s"⟩ ∧
      Sendable.send (number (Seconds.ofSpan unsteady).value) = .ok ⟨"4835703278458528s"⟩ := by
  obtain ⟨x, hx⟩ := exists_ofNumber unsteady_lt
  have hunits := units_of_ofNumber hx
  rw [units_unsteady, throughNanos_unsteady] at hunits
  have hmisread : x.Equal (.ofSpan misread) := by
    rw [Seconds.equal_iff, hunits]
    exact (Seconds.units_ofSeconds_of_le _ (by decide)).symm
  refine ⟨x, hx, ?_, hmisread, ?_, ?_⟩
  · intro h
    rw [Seconds.equal_iff, hunits, units_unsteady] at h
    exact absurd (Nat.mul_right_cancel Binary64.one_pos h) (by decide)
  · apply write_of_toSpan? (s := misread)
    rw [Seconds.toSpan?_congr hmisread]
    exact Seconds.toSpan?_ofSpan_of_whole (by decide) (by decide)
  · apply write_of_toSpan? (s := unsteady)
    exact Seconds.toSpan?_ofSpan_of_whole (by decide) (by decide)

end RawDuration

end ApiGateway
