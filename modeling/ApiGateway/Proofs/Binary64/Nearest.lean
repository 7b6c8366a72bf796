import ApiGateway.Binary64.Rounding
import Mathlib.Algebra.Order.Ring.Nat

/-!
# How far rounding goes

`nearest` stays within half a step of the quotient (`two_mul_nearest`), does not cross a power of
two (`pow_le_nearest`, `nearest_le_pow`), keeps the order (`nearest_mono`), and finds a magnitude of
the format from every quotient that is closer to it than half of its own step
(`nearest_eq_of_close`). Products and quotients by whole numbers are rounded once (`mul_ofNat`,
`div_ofNat`).
-/

set_option autoImplicit false

namespace ApiGateway

theorem roundDiv_eq_of_close {num den n : Nat} (hd : 0 < den)
    (lo : 2 * (n * den) < 2 * num + den) (hi : 2 * num < 2 * (n * den) + den) :
    roundDiv num den = n := by
  obtain ⟨h1, h2⟩ := two_mul_roundDiv num hd
  have hle : roundDiv num den * den < (n + 1) * den := by
    rw [Nat.add_mul, Nat.one_mul]
    omega
  have hge : n * den < (roundDiv num den + 1) * den := by
    rw [Nat.add_mul, Nat.one_mul]
    omega
  have := Nat.lt_of_mul_lt_mul_right hle
  have := Nat.lt_of_mul_lt_mul_right hge
  omega

theorem roundDiv_le_of_le {num den n : Nat} (hd : 0 < den) (h : num ≤ n * den) :
    roundDiv num den ≤ n := by
  obtain ⟨h1, -⟩ := two_mul_roundDiv num hd
  have hlt : roundDiv num den * den < (n + 1) * den := by
    rw [Nat.add_mul, Nat.one_mul]
    omega
  have := Nat.lt_of_mul_lt_mul_right hlt
  omega

theorem roundDiv_mul_mul {k : Nat} (num den : Nat) (hk : 0 < k) :
    roundDiv (num * k) (den * k) = roundDiv num den := by
  unfold roundDiv
  rw [Nat.mul_mod_mul_right, Nat.mul_div_mul_right _ _ hk, ← Nat.mul_assoc]
  simp only [Nat.mul_lt_mul_right hk, Nat.mul_right_cancel_iff hk]

theorem roundDiv_mono {num num' : Nat} (den : Nat) (h : num ≤ num') :
    roundDiv num den ≤ roundDiv num' den := by
  have hle := Nat.div_le_div_right (c := den) h
  rcases Nat.lt_or_eq_of_le hle with hlt | heq
  · calc roundDiv num den ≤ num / den + 1 := roundDiv_le num den
      _ ≤ num' / den := hlt
      _ ≤ roundDiv num' den := le_roundDiv num' den
  -- With equal quotients the remainders compare as the numerators do.
  · have hn := Nat.div_add_mod num den
    have hn' := Nat.div_add_mod num' den
    unfold roundDiv
    rw [← heq] at hn' ⊢
    split
    · split <;> omega
    · split <;> omega

namespace Binary64

theorem step_le_of_lt {u e : Nat} (h : u < 2 ^ e) : step u ≤ 2 ^ (e - 53) := by
  apply Nat.pow_le_pow_right (by decide)
  by_cases hu : u = 0
  · subst hu
    rw [Nat.log2_zero]
    omega
  · have := (Nat.log2_lt hu).2 h
    omega

theorem le_step_of_le {u e : Nat} (h : 2 ^ e ≤ u) : 2 ^ (e - 52) ≤ step u := by
  apply Nat.pow_le_pow_right (by decide)
  have hu : u ≠ 0 := by
    have := Nat.two_pow_pos e
    omega
  have := (Nat.le_log2 hu).2 h
  omega

theorem step_dvd_pow {u e : Nat} (h : u.log2 ≤ e) : step u ∣ 2 ^ e :=
  Nat.pow_dvd_pow 2 (Nat.le_trans (Nat.sub_le _ _) h)

theorem step_congr {u v : Nat} (h : u.log2 = v.log2) : step u = step v := by
  unfold step
  rw [h]

theorem two_mul_nearest {den : Nat} (num : Nat) (hd : 0 < den) :
    2 * (nearest num den * den) ≤ 2 * num + den * step (num / den) ∧
      2 * num ≤ 2 * (nearest num den * den) + den * step (num / den) := by
  have h := two_mul_roundDiv num (Nat.mul_pos hd (step_pos (num / den)))
  have e : nearest num den * den =
      roundDiv num (den * step (num / den)) * (den * step (num / den)) := by
    unfold nearest
    ac_rfl
  rw [e]
  exact h

theorem nearest_mul_mul {k : Nat} (num den : Nat) (hk : 0 < k) :
    nearest (num * k) (den * k) = nearest num den := by
  unfold nearest
  rw [Nat.mul_div_mul_right _ _ hk]
  have e : den * k * step (num / den) = den * step (num / den) * k := by ac_rfl
  rw [e, roundDiv_mul_mul _ _ hk]

theorem le_div_mul_of_dvd {d w q : Nat} (hd : d ∣ w) (h : w ≤ q) : w ≤ q / d * d := by
  have := Nat.mul_le_mul_right d (Nat.div_le_div_right (c := d) h)
  rwa [Nat.div_mul_cancel hd] at this

theorem div_mul_add_le_of_dvd {d w q : Nat} (hd : d ∣ w) (h : q < w) : q / d * d + d ≤ w := by
  have hlt : q / d < w / d := Nat.div_lt_div_of_lt_of_dvd hd h
  have := Nat.mul_le_mul_right d (Nat.succ_le_of_lt hlt)
  rwa [Nat.div_mul_cancel hd, Nat.succ_mul] at this

theorem log2_le_of_lt_pow {u e : Nat} (h : u < 2 ^ e) : u.log2 ≤ e := by
  by_cases hu : u = 0
  · subst hu
    exact Nat.zero_le e
  · exact Nat.le_of_lt ((Nat.log2_lt hu).2 h)

theorem nearest_le_pow {num den e : Nat} (h : num / den < 2 ^ e) : nearest num den ≤ 2 ^ e := by
  have hr := roundDiv_le num (den * step (num / den))
  rw [← Nat.div_div_eq_div_mul] at hr
  calc nearest num den ≤ (num / den / step (num / den) + 1) * step (num / den) :=
        Nat.mul_le_mul_right _ hr
    _ = num / den / step (num / den) * step (num / den) + step (num / den) := Nat.succ_mul _ _
    _ ≤ 2 ^ e := div_mul_add_le_of_dvd (step_dvd_pow (log2_le_of_lt_pow h)) h

theorem pow_le_nearest {num den e : Nat} (h : 2 ^ e ≤ num / den) : 2 ^ e ≤ nearest num den := by
  have hq : num / den ≠ 0 := by
    have := Nat.two_pow_pos e
    omega
  have hr := le_roundDiv num (den * step (num / den))
  rw [← Nat.div_div_eq_div_mul] at hr
  calc 2 ^ e ≤ 2 ^ (num / den).log2 := Nat.pow_le_pow_right (by decide) ((Nat.le_log2 hq).2 h)
    _ ≤ num / den / step (num / den) * step (num / den) :=
        le_div_mul_of_dvd (step_dvd_pow (Nat.le_refl _)) (Nat.log2_self_le hq)
    _ ≤ nearest num den := Nat.mul_le_mul_right _ hr

theorem pow_add_step_le {u e : Nat} (hu : u % step u = 0) (he : u.log2 = e) (h : 2 ^ e < u) :
    2 ^ e + step u ≤ u := by
  have hd : step u ∣ u - 2 ^ e :=
    Nat.dvd_sub (Nat.dvd_of_mod_eq_zero hu) (step_dvd_pow (Nat.le_of_eq he))
  have := Nat.le_of_dvd (Nat.sub_pos_of_lt h) hd
  omega

theorem add_step_le_pow {u : Nat} (hu : u % step u = 0) : u + step u ≤ 2 ^ (u.log2 + 1) := by
  have h := div_mul_add_le_of_dvd (step_dvd_pow (Nat.le_succ u.log2)) Nat.lt_log2_self
  rwa [Nat.div_mul_cancel (Nat.dvd_of_mod_eq_zero hu)] at h

/-- Below a power of two the steps are half as long, which is why a power of two must not exceed
the quotient. -/
theorem log2_div_of_close {num den u : Nat} (hd : 0 < den) (hz : u ≠ 0) (hu : u % step u = 0)
    (lo : 2 * (u * den) < 2 * num + den * step u) (hi : 2 * num < 2 * (u * den) + den * step u)
    (hp : 2 ^ u.log2 = u → u * den ≤ num) : (num / den).log2 = u.log2 := by
  have hlo : 2 ^ u.log2 ≤ num / den := by
    apply (Nat.le_div_iff_mul_le hd).2
    by_cases he : 2 ^ u.log2 = u
    · rw [he]
      exact hp he
    · have hlt : 2 ^ u.log2 < u := Nat.lt_of_le_of_ne (Nat.log2_self_le hz) he
      have := Nat.mul_le_mul_right den (pow_add_step_le hu rfl hlt)
      rw [Nat.add_mul, Nat.mul_comm (step u)] at this
      omega
  have hhi : num / den < 2 ^ (u.log2 + 1) := by
    apply (Nat.div_lt_iff_lt_mul hd).2
    have := Nat.mul_le_mul_right den (add_step_le_pow hu)
    rw [Nat.add_mul, Nat.mul_comm (step u)] at this
    omega
  have hne : num / den ≠ 0 := by
    have := Nat.two_pow_pos u.log2
    omega
  exact (Nat.log2_eq_iff hne).2 ⟨hlo, hhi⟩

theorem nearest_eq_of_close {num den u : Nat} (hd : 0 < den) (hz : u ≠ 0) (hu : u % step u = 0)
    (lo : 2 * (u * den) < 2 * num + den * step u) (hi : 2 * num < 2 * (u * den) + den * step u)
    (hp : 2 ^ u.log2 = u → u * den ≤ num) : nearest num den = u := by
  have hs : step (num / den) = step u := step_congr (log2_div_of_close hd hz hu lo hi hp)
  obtain ⟨m, hm⟩ := Nat.dvd_of_mod_eq_zero hu
  have hp := step_pos u
  unfold nearest
  rw [hs]
  generalize step u = p at hm lo hi hp ⊢
  have e : u * den = m * (den * p) := by
    rw [hm]
    ac_rfl
  rw [e] at lo hi
  rw [roundDiv_eq_of_close (Nat.mul_pos hd hp) lo hi, hm, Nat.mul_comm]

theorem log2_eq_of_lt {q q' : Nat} (h : q ≤ q') (h' : q' < 2 ^ (q.log2 + 1)) :
    q'.log2 = q.log2 := by
  by_cases hz : q' = 0
  · rw [hz] at h ⊢
    rw [Nat.le_zero.1 h]
  · refine (Nat.log2_eq_iff hz).2 ⟨?_, h'⟩
    by_cases hq : q = 0
    · rw [hq, Nat.log2_zero]
      exact Nat.pos_of_ne_zero hz
    · exact Nat.le_trans (Nat.log2_self_le hq) h

theorem nearest_mono {num num' : Nat} (den : Nat) (h : num ≤ num') :
    nearest num den ≤ nearest num' den := by
  have hle := Nat.div_le_div_right (c := den) h
  rcases Nat.lt_or_ge (num' / den) (2 ^ ((num / den).log2 + 1)) with hlt | hge
  · unfold nearest
    rw [step_congr (log2_eq_of_lt hle hlt)]
    exact Nat.mul_le_mul_right _ (roundDiv_mono _ h)
  -- With more bits on the right a power of two lies in between.
  · calc nearest num den ≤ 2 ^ ((num / den).log2 + 1) := nearest_le_pow Nat.lt_log2_self
      _ ≤ nearest num' den := pow_le_nearest hge

theorem step_mono {u v : Nat} (h : u ≤ v) : step u ≤ step v := by
  apply Nat.pow_le_pow_right (by decide)
  apply Nat.sub_le_sub_right
  by_cases hu : u = 0
  · rw [hu, Nat.log2_zero]
    exact Nat.zero_le _
  · have hv : v ≠ 0 := by omega
    exact (Nat.le_log2 hv).2 (Nat.le_trans (Nat.log2_self_le hu) h)

theorem step_div_le_step_nearest (num den : Nat) : step (num / den) ≤ step (nearest num den) := by
  by_cases hq : num / den = 0
  · rw [hq]
    exact step_mono (Nat.zero_le _)
  · have h := step_mono (pow_le_nearest (Nat.log2_self_le hq))
    unfold step at h
    rwa [Nat.log2_two_pow] at h

theorem nearest_one_of_dvd {u : Nat} (hu : u % step u = 0) : nearest u 1 = u := by
  unfold nearest
  rw [Nat.div_one, Nat.one_mul]
  obtain ⟨m, hm⟩ := Nat.dvd_of_mod_eq_zero hu
  have hp := step_pos u
  generalize step u = p at hm hp ⊢
  rw [hm, Nat.mul_comm p, roundDiv_mul_self m hp]

/-- From 53 bits on the step grows with the magnitude. -/
theorem step_mul_pow {u : Nat} (e : Nat) (h : 2 ^ 52 ≤ u) : step (u * 2 ^ e) = step u * 2 ^ e := by
  have hz : u ≠ 0 := Nat.ne_of_gt (Nat.lt_of_lt_of_le (by decide) h)
  have hl : (u * 2 ^ e).log2 = u.log2 + e := by
    apply (Nat.log2_eq_iff (Nat.mul_ne_zero hz (Nat.ne_of_gt (Nat.two_pow_pos e)))).2
    rw [Nat.add_right_comm, Nat.pow_add, Nat.pow_add]
    exact ⟨Nat.mul_le_mul_right _ (Nat.log2_self_le hz),
      Nat.mul_lt_mul_of_pos_right Nat.lt_log2_self (Nat.two_pow_pos e)⟩
  have hle : 52 ≤ u.log2 := (Nat.le_log2 hz).2 h
  show 2 ^ _ = 2 ^ _ * 2 ^ e
  rw [hl, ← Nat.pow_add, Nat.sub_add_comm hle]

theorem nearest_mul_pow {u : Nat} (e : Nat) (h : 2 ^ 52 ≤ u) :
    nearest (u * 2 ^ e) 1 = nearest u 1 * 2 ^ e := by
  unfold nearest
  simp only [Nat.div_one, Nat.one_mul]
  rw [step_mul_pow e h, roundDiv_mul_mul _ _ (Nat.two_pow_pos e), Nat.mul_assoc]

theorem units_of_ofUnits {s t : Bool} {num den u : Nat} {hf : Fits u}
    (h : ofUnits s num den = .finite t u hf) : t = s ∧ u = nearest num den := by
  unfold ofUnits at h
  split at h
  · cases h
    exact ⟨rfl, rfl⟩
  · cases h

theorem ofUnits_mul_mul {k : Nat} (s : Bool) (num den : Nat) (hk : 0 < k) :
    ofUnits s (num * k) (den * k) = ofUnits s num den := by
  unfold ofUnits
  simp only [nearest_mul_mul num den hk]

theorem mul_ofNat {n u : Nat} (s : Bool) (hu : Fits u) (hn : Fits (n * one)) :
    finite s u hu * ofNat n = ofUnits s (u * n) 1 := by
  have e := ofUnits_mul_mul s (u * n) 1 Binary64.one_pos
  rw [Nat.one_mul, Nat.mul_assoc] at e
  rw [ofNat_of_fits hn, ← e]
  show Binary64.mul _ _ = _
  simp only [Binary64.mul, Bool.bne_false]

theorem div_ofNat {n u : Nat} (s : Bool) (hu : Fits u) (hn : Fits (n * one)) (hz : n ≠ 0) :
    finite s u hu / ofNat n = ofUnits s u n := by
  have hne : n * one ≠ 0 := Nat.mul_ne_zero hz (Nat.ne_of_gt Binary64.one_pos)
  rw [ofNat_of_fits hn, ← ofUnits_mul_mul s u n Binary64.one_pos]
  show Binary64.div _ _ = _
  simp only [Binary64.div, if_neg hne, Bool.bne_false]
  rfl

theorem mod_step_pow (e : Nat) : 2 ^ e % step (2 ^ e) = 0 := by
  apply Nat.mod_eq_zero_of_dvd
  apply step_dvd_pow
  rw [Nat.log2_two_pow]

/-- Below a power of two the last double lies one step away. -/
theorem le_sub_of_lt_pow {u e : Nat} (hu : u % step u = 0) (h : u < 2 ^ (e + 53)) :
    u ≤ (2 ^ 53 - 1) * 2 ^ e := by
  have hp : 2 ^ (e + 53) = (2 ^ 53 - 1) * 2 ^ e + 2 ^ e := by
    rw [← Nat.succ_mul, Nat.pow_add, Nat.mul_comm]
    rfl
  have hadd := add_step_le_pow hu
  by_cases hl : u.log2 = e + 52
  · have hs : step u = 2 ^ e := by
      unfold step
      rw [hl, Nat.add_sub_cancel]
      rfl
    rw [hl, hs] at hadd
    change u + 2 ^ e ≤ 2 ^ (e + 53) at hadd
    omega
  · have hlt : u.log2 < e + 52 := by
      have := log2_le_of_lt_pow h
      by_cases hz : u = 0
      · rw [hz, Nat.log2_zero]
        omega
      · have := (Nat.log2_lt hz).2 h
        omega
    have hle : 2 ^ (u.log2 + 1) ≤ 2 ^ (e + 52) := Nat.pow_le_pow_right (by decide) hlt
    have hh : 2 ^ (e + 52) ≤ (2 ^ 53 - 1) * 2 ^ e := by
      rw [Nat.pow_add, Nat.mul_comm]
      exact Nat.mul_le_mul_right _ (by decide)
    have := Nat.lt_log2_self (n := u)
    omega

end Binary64

end ApiGateway
