import ApiGateway.Binary64

/-!
# Rounding to nearest, ties to even

`roundDiv` rounds a quotient to a whole number and `nearest` to a magnitude with 53 significant
bits. The main statements bound the error by half a step and show that what `nearest` delivers
has a place in the format unless it is too large (`fits_nearest`).
-/

set_option autoImplicit false

namespace ApiGateway

/-- The whole number nearest to `num / den`, the even one of two. -/
def roundDiv (num den : Nat) : Nat :=
  if 2 * (num % den) < den ∨ (2 * (num % den) = den ∧ num / den % 2 = 0) then num / den
  else num / den + 1

theorem le_roundDiv (num den : Nat) : num / den ≤ roundDiv num den := by
  unfold roundDiv; split <;> omega

theorem roundDiv_le (num den : Nat) : roundDiv num den ≤ num / den + 1 := by
  unfold roundDiv; split <;> omega

theorem roundDiv_mul_self {den : Nat} (n : Nat) (h : 0 < den) : roundDiv (n * den) den = n := by
  simp [roundDiv, Nat.mul_div_cancel n h, h]

/-- The error is at most half a step. -/
theorem two_mul_roundDiv {den : Nat} (num : Nat) (h : 0 < den) :
    2 * (roundDiv num den * den) ≤ 2 * num + den ∧
      2 * num ≤ 2 * (roundDiv num den * den) + den := by
  have hm := Nat.div_add_mod num den
  have hlt := Nat.mod_lt num h
  have hc : den * (num / den) = num / den * den := Nat.mul_comm _ _
  unfold roundDiv
  split
  · omega
  · rw [Nat.add_mul, Nat.one_mul]; omega

namespace Binary64

/-- The magnitude nearest to `num / den` with 53 significant bits, the even one of two. -/
def nearest (num den : Nat) : Nat :=
  roundDiv num (den * step (num / den)) * step (num / den)

theorem div_step_lt (num den : Nat) : num / (den * step (num / den)) < significandLimit := by
  rw [← Nat.div_div_eq_div_mul, Nat.div_lt_iff_lt_mul (step_pos _)]
  refine Nat.lt_of_lt_of_le (Nat.lt_log2_self (n := num / den)) ?_
  refine Nat.le_trans (Nat.pow_le_pow_right (by decide) (?_ : _ ≤ 53 + ((num / den).log2 - 52))) ?_
  · omega
  · rw [Nat.pow_add]
    exact Nat.le_refl _

theorem mod_pow_eq_zero {a b u : Nat} (h : a ≤ b) (hu : u % Nat.pow 2 b = 0) :
    u % Nat.pow 2 a = 0 :=
  Nat.mod_eq_zero_of_dvd
    (Nat.dvd_trans (Nat.pow_dvd_pow 2 h) (Nat.dvd_of_mod_eq_zero hu))

theorem fits_mul_pow {m e : Nat} (hm : m ≤ significandLimit) (h : m * Nat.pow 2 e < limit) :
    Fits (m * Nat.pow 2 e) := by
  refine ⟨h, ?_⟩
  by_cases hz : m * Nat.pow 2 e = 0
  · rw [hz, Nat.zero_mod]
  by_cases hlt : m < significandLimit
  · refine mod_pow_eq_zero (b := e) ?_ (Nat.mul_mod_left _ _)
    have : (m * Nat.pow 2 e).log2 < 53 + e := by
      refine (Nat.log2_lt hz).2 ?_
      rw [Nat.pow_add]
      exact Nat.mul_lt_mul_of_pos_right hlt (Nat.two_pow_pos e)
    omega
  · have hm' : m * Nat.pow 2 e = Nat.pow 2 (53 + e) := by
      have : m = significandLimit := Nat.le_antisymm hm (Nat.le_of_not_lt hlt)
      rw [this]
      exact (Nat.pow_add 2 53 e).symm
    rw [hm']
    refine mod_pow_eq_zero (b := 53 + e) ?_ (Nat.mod_self _)
    rw [show (Nat.pow 2 (53 + e)).log2 = 53 + e from Nat.log2_two_pow]
    exact Nat.sub_le _ _

/-- What `nearest` delivers has a place in the format when it is below the overflow bound. -/
theorem fits_nearest {num den : Nat} (h : nearest num den < limit) :
    Fits (nearest num den) :=
  fits_mul_pow (Nat.le_trans (roundDiv_le _ _) (div_step_lt num den)) h

theorem step_eq_one {u : Nat} (h : u = 0) : step u = 1 := by
  subst h
  exact Nat.pow_zero 2

theorem step_le {u : Nat} (h : u ≠ 0) : step u ≤ u :=
  Nat.le_trans (Nat.pow_le_pow_right (by decide) (Nat.sub_le _ _)) (Nat.log2_self_le h)

theorem nearest_le (num den : Nat) : nearest num den ≤ 2 * (num / den) + 2 := by
  have h1 := roundDiv_le num (den * step (num / den))
  rw [← Nat.div_div_eq_div_mul] at h1
  have h2 := Nat.div_mul_le_self (num / den) (step (num / den))
  have h3 : nearest num den ≤ (num / den / step (num / den) + 1) * step (num / den) :=
    Nat.mul_le_mul_right _ h1
  rw [Nat.add_mul, Nat.one_mul] at h3
  by_cases hz : num / den = 0
  · have := step_eq_one hz
    omega
  · have := step_le hz
    omega

/-- A magnitude that has a place in the format is not rounded. -/
theorem nearest_mul_self {den u : Nat} (hd : 0 < den) (hu : Fits u) :
    nearest (u * den) den = u := by
  unfold nearest
  rw [Nat.mul_div_cancel u hd]
  obtain ⟨m, hm⟩ := Nat.dvd_of_mod_eq_zero hu.2
  have hp := step_pos u
  generalize step u = p at hm hp ⊢
  have h : u * den = m * (den * p) := by rw [hm]; ac_rfl
  rw [h, roundDiv_mul_self m (Nat.mul_pos hd hp), hm, Nat.mul_comm]

/-- The double nearest to the number of units `num / den`, an infinity above the format. -/
def ofUnits (negative : Bool) (num den : Nat) : Binary64 :=
  if h : Fits (nearest num den) then .finite negative (nearest num den) h else .infinity negative

theorem pow_lt_limit {e : Nat} (h : e < 1024 + places) : Nat.pow 2 e < limit :=
  Nat.pow_lt_pow_right (by decide) h

/-- Numbers well below the limit stay finite. -/
theorem ofUnits_of_lt (negative : Bool) {num den : Nat} (h : 4 * (num / den) < limit) :
    ∃ hf, ofUnits negative num den = .finite negative (nearest num den) hf := by
  have hf : Fits (nearest num den) := fits_nearest (by
    have h1 := nearest_le num den
    have h2 : 4 < limit := pow_lt_limit (e := 2) (by omega)
    omega)
  exact ⟨hf, dif_pos hf⟩

/-- The double nearest to the number `num / den`. -/
def ofRatio (negative : Bool) (num den : Nat) : Binary64 := ofUnits negative (num * one) den

def ofNat (n : Nat) : Binary64 := ofRatio false n 1

theorem pow_mul_one_lt_limit {e : Nat} (h : e < 1024) : Nat.pow 2 e * one < limit := by
  rw [show Nat.pow 2 e * one = Nat.pow 2 (e + places) from (Nat.pow_add 2 e places).symm]
  exact pow_lt_limit (by omega)

/-- A number that has a place in the format is not rounded. -/
theorem ofUnits_one (negative : Bool) {u : Nat} (h : Fits u) :
    ofUnits negative u 1 = .finite negative u h := by
  have hn : nearest u 1 = u := by
    have := nearest_mul_self Nat.one_pos h
    rwa [Nat.mul_one] at this
  unfold ofUnits
  simp only [hn, dif_pos h]

theorem ofNat_of_fits {n : Nat} (h : Fits (n * one)) : ofNat n = .finite false (n * one) h :=
  ofUnits_one false h

/-- Whole numbers up to the bound of significands are exact. -/
theorem ofNat_of_le {n : Nat} (h : n ≤ significandLimit) :
    ∃ hf, ofNat n = .finite false (n * one) hf := by
  have hl : n * one < limit :=
    Nat.lt_of_le_of_lt (Nat.mul_le_mul_right _ h) (pow_mul_one_lt_limit (e := 53) (by decide))
  exact ⟨fits_mul_pow h hl, ofNat_of_fits _⟩

/-- Whole numbers of 64 bits are finite. -/
theorem ofNat_of_lt {n : Nat} (h : n < UInt64.size) :
    ∃ u hf, ofNat n = .finite false u hf ∧ u ≤ 2 * (n * one) + 2 := by
  have hl : 4 * (n * one / 1) < limit := by
    rw [Nat.div_one, ← Nat.mul_assoc]
    refine Nat.lt_of_le_of_lt (Nat.mul_le_mul_right _ ?_)
      (pow_mul_one_lt_limit (e := 66) (by decide))
    exact Nat.mul_le_mul_left 4 (Nat.le_of_lt h)
  obtain ⟨hf, h'⟩ := ofUnits_of_lt false hl
  refine ⟨_, hf, h', ?_⟩
  have := nearest_le (n * one) 1
  rwa [Nat.div_one] at this

def ofInt : Int → Binary64
  | .ofNat n => ofRatio false n 1
  | .negSucc n => ofRatio true (n + 1) 1

def mul : Binary64 → Binary64 → Binary64
  | finite s u _, finite t v _ => ofUnits (s != t) (u * v) one
  | finite s u _, infinity t | infinity t, finite s u _ =>
    if u = 0 then .nan else .infinity (s != t)
  | infinity s, infinity t => .infinity (s != t)
  | nan, _ | _, nan => .nan

def div : Binary64 → Binary64 → Binary64
  | finite s u _, finite t v _ =>
    if v = 0 then (if u = 0 then .nan else .infinity (s != t)) else ofRatio (s != t) u v
  | finite s _ _, infinity t => .finite (s != t) 0 fits_zero
  | infinity s, finite t _ _ => .infinity (s != t)
  | _, _ => .nan

/-- A sum of opposite signs that is zero is plus zero. -/
def add : Binary64 → Binary64 → Binary64
  | finite s u _, finite t v _ =>
    if s = t then ofUnits s (u + v) 1
    else if v < u then ofUnits s (u - v) 1
    else if u < v then ofUnits t (v - u) 1
    else zero
  | finite .., infinity t => .infinity t
  | infinity s, finite .. => .infinity s
  | infinity s, infinity t => if s = t then .infinity s else .nan
  | nan, _ | _, nan => .nan

instance : Mul Binary64 := ⟨mul⟩
instance : Div Binary64 := ⟨div⟩
instance : Add Binary64 := ⟨add⟩

/-- A sum of equal signs is rounded once. -/
theorem add_finite (s : Bool) {u v : Nat} (hu : Fits u) (hv : Fits v) :
    finite s u hu + finite s v hv = ofUnits s (u + v) 1 := by
  show add _ _ = _
  simp only [add, if_true]

end Binary64

end ApiGateway
