import ApiGateway.Proofs.Duration.Spelling

/-!
# Durations that are read exactly

Digits and the suffix of a unit are read as exactly that many units, or refused where the count
leaves 64 bits, and the text of a span so names this span (`Duration.wireText_readsCount`). A number
of seconds is written as the text of its nearest span, and from then on writing and reading change
nothing. Where a double tells its nearest span and is told by it, nothing changes at all
(`Duration.settles_and_isRead`).
-/

set_option autoImplicit false

namespace ApiGateway

open Binary64 Duration

/-! ## Counts of units -/

namespace TimeUnit

/-- A unit below the second is counted in nanoseconds, and the others in seconds. -/
def Fits (u : TimeUnit) (n : Nat) : Prop :=
  n < UInt64.size ∧
    if u.nanos < nanosPerSecond then n * u.nanos < UInt64.size
    else n * (u.nanos / nanosPerSecond) < UInt64.size

theorem grains_eq (u : TimeUnit) :
    u.grains = if u.nanos < nanosPerSecond then u.nanos else u.nanos / nanosPerSecond := by
  cases u <;> decide

theorem fits_iff {u : TimeUnit} {n : Nat} : u.Fits n ↔ n * u.grains < UInt64.size := by
  have hle : n ≤ n * u.grains := Nat.le_mul_of_pos_right n u.grains_pos
  unfold Fits
  rw [grains_eq] at hle ⊢
  split at hle
  · rename_i h
    rw [if_pos h, if_pos h]
    omega
  · rename_i h
    rw [if_neg h, if_neg h]
    omega

end TimeUnit

namespace Duration

/-- The text is read as `n` units, or refused as too large. -/
structure ReadsCount (text : String) (u : TimeUnit) (n : Nat) (unit : TimeUnit) : Prop where
  ok_iff : (∃ x, read text unit = .ok x) ↔ u.Fits n
  exact (x : Seconds) (h : read text unit = .ok x) :
    ∃ s : Span, s.nanos = n * u.nanos ∧ x = .ofSpan s
  refused (h : ¬ u.Fits n) : read text unit = .error (.malformed text .overflow)

theorem readsCount_of_wireText {text suffix : String} {ds : List Char} {u : TimeUnit}
    (unit : TimeUnit) (ht : text.toList = ds ++ suffix.toList) (hne : ds ≠ [])
    (hd : ∀ c ∈ ds, c.isDigit) (hs : TimeUnit.ofSuffix? suffix = some u) :
    ReadsCount text u (Digits.value ds) unit := by
  have hread := read_wireText unit ht hne hd hs
  by_cases h : Digits.value ds * u.grains < UInt64.size
  · rw [dif_pos h] at hread
    refine ⟨⟨fun _ => TimeUnit.fits_iff.2 h, fun _ => ⟨_, hread⟩⟩, ?_, ?_⟩
    · intro x hx
      rw [hread] at hx
      cases hx
      exact ⟨_, rfl, rfl⟩
    · intro hn
      exact absurd (TimeUnit.fits_iff.2 h) hn
  · rw [dif_neg h] at hread
    have hn : ¬ u.Fits (Digits.value ds) := mt TimeUnit.fits_iff.1 h
    refine ⟨⟨?_, fun hf => absurd hf hn⟩, ?_, fun _ => hread⟩
    · rintro ⟨x, hx⟩
      rw [hread] at hx
      cases hx
    · intro x hx
      rw [hread] at hx
      cases hx

theorem read_text_of_not_isReadable {s : Span} (unit : TimeUnit) (h : ¬ s.IsReadable) :
    read s.text unit = .error (.malformed s.text .overflow) := by
  obtain ⟨u, n, -, -, hread⟩ := read_text_eq s unit
  have hn : ¬ n * u.grains < UInt64.size := by
    intro hn
    rw [dif_pos hn] at hread
    exact h ((exists_read_text_iff unit).1 ⟨_, hread⟩)
  rw [hread, dif_neg hn]

theorem wireText_readsCount :
    (∀ (ds : List Char) (suffix : String) (unit : TimeUnit), ds ≠ [] → (∀ c ∈ ds, c.isDigit) →
      suffix ∈ TimeUnit.suffixes → ∃ u, TimeUnit.ofSuffix? suffix = some u ∧
        ReadsCount (String.ofList ds ++ suffix) u (Digits.value ds) unit) ∧
    ∀ (s : Span) (unit : TimeUnit),
      (s.subsec = 0 ∨ s.nanos < UInt64.size → read s.text unit = .ok (.ofSpan s)) ∧
      (¬ (s.subsec = 0 ∨ s.nanos < UInt64.size) →
        read s.text unit = .error (.malformed s.text .overflow)) := by
  constructor
  · intro ds suffix unit hne hd hs
    obtain ⟨u, hu⟩ := TimeUnit.mem_suffixes_iff.1 hs
    refine ⟨u, hu, readsCount_of_wireText unit ?_ hne hd hu⟩
    rw [String.toList_append, String.toList_ofList]
  · intro s unit
    exact ⟨read_text unit, read_text_of_not_isReadable unit⟩

/-- The longest whole seconds, and a nanosecond more than 64 bits hold. -/
def longestSeconds : Span := ⟨18446744073709551615 * nanosPerSecond, by decide⟩

def manyNanoseconds : Span := ⟨UInt64.size, by decide⟩

theorem wireText_readsCount_limits :
    (∃ u, TimeUnit.ofSuffix? "µs" = some u ∧
      ReadsCount "0018446744073709551µs" u 18446744073709551 .standard) ∧
    (∃ u, TimeUnit.ofSuffix? "h" = some u ∧
      ReadsCount "5124095576030432h" u 5124095576030432 .standard) ∧
    read longestSeconds.text .minutes = .ok (.ofSpan longestSeconds) ∧
    read manyNanoseconds.text .minutes = .error (.malformed manyNanoseconds.text .overflow) := by
  obtain ⟨micros, hours⟩ :
      Digits.value "0018446744073709551".toList = 18446744073709551 ∧
        Digits.value "5124095576030432".toList = 5124095576030432 := by decide
  refine ⟨?_, ?_, ?_, ?_⟩
  · have h := wireText_readsCount.1 "0018446744073709551".toList "µs" .standard (by decide)
      (List.all_eq_true.1 (by decide)) (by decide)
    rwa [micros] at h
  · have h := wireText_readsCount.1 "5124095576030432".toList "h" .standard (by decide)
      (List.all_eq_true.1 (by decide)) (by decide)
    rwa [hours] at h
  · exact (wireText_readsCount.2 longestSeconds .minutes).1 (Or.inl (Nat.mul_mod_left _ _))
  · refine (wireText_readsCount.2 manyNanoseconds .minutes).2 ?_
    unfold Span.subsec
    decide

end Duration

/-! ## Writing and reading -/

namespace Seconds

theorem hasSign_ofSpan (s : Span) : (ofSpan s).value.hasSign = false := by
  obtain ⟨u, hf, hsum⟩ := sum_finite s.secs_lt s.subsec_lt
  show (ofNat s.secs + ofNat s.subsec / ofNat nanosPerSecond).hasSign = false
  rw [hsum]
  rfl

/-- Equal numbers of seconds are the same, but for the sign of zero. -/
theorem eq_of_equal {x y : Seconds} (h : Equal x y) (hs : x.value.hasSign = y.value.hasSign) :
    x = y := by
  obtain ⟨s, hf, hx, -⟩ := x.finite_of_units
  obtain ⟨t, hg, hy, -⟩ := y.finite_of_units
  rw [hx, hy] at hs
  have hst : s = t := hs
  subst hst
  have hvalue : x.value = y.value := by
    rw [hx, hy]
    congr 1
    exact equal_iff.1 h
  cases x
  cases y
  cases hvalue
  rfl

/-- The nearest span of a number of seconds is the nearest one of its own number of seconds. -/
theorem toSpan?_of_toSpan? {x : Seconds} {s : Span} (h : x.toSpan? = some s) :
    (ofSpan s).toSpan? = some s := by
  by_cases hx : 2 ^ 23 * one ≤ x.value.units
  · rw [toSpan?_congr (equal_ofSpan h hx), h]
  -- Below, a span of `2²³` seconds is still the nearest one of the last doubles.
  · obtain ⟨s', hs', hle⟩ := exists_toSpan? (Nat.le_of_not_le hx) (by decide)
    rw [h] at hs'
    cases hs'
    by_cases hs : s.secs < 2 ^ 23
    · exact toSpan?_ofSpan hs
    · have hn := s.nanos_eq
      have hsub := s.subsec_lt
      simp only [nanosPerSecond] at hn hle hsub
      apply toSpan?_ofSpan_of_whole
      · omega
      · omega

end Seconds

namespace Duration

/-- What is written for a number of seconds is read in any unit, and written again in the same
way. -/
def Settles (x : Seconds) : Prop :=
  ∃ t y, write x.value = .ok t ∧ (∀ unit, read t.text unit = .ok y) ∧ write y.value = .ok t

/-- What is written for a number of seconds is read in any unit as this number, but for the sign of
zero. -/
def IsRead (x : Seconds) : Prop :=
  ∃ t y, write x.value = .ok t ∧ (∀ unit, read t.text unit = .ok y) ∧ y.Equal x ∧
    (x.value.hasSign = false → y = x)

theorem isRead_of_isKept {x : Seconds} (h : x.IsKept) : IsRead x := by
  obtain ⟨s, hs, hreadable, hequal⟩ := h
  refine ⟨ofSpan s, .ofSpan s, write_of_toSpan? hs, fun unit => read_text unit hreadable, hequal, ?_⟩
  intro hx
  exact Seconds.eq_of_equal hequal ((Seconds.hasSign_ofSpan s).trans hx.symm)

theorem settles_of_lt {x : Seconds} (h : x.value.units < 2 ^ 34 * one) : Settles x := by
  obtain ⟨s, hs, hreadable⟩ := Seconds.exists_toSpan?_isReadable h
  exact ⟨ofSpan s, .ofSpan s, write_of_toSpan? hs, fun unit => read_text unit hreadable,
    write_of_toSpan? (Seconds.toSpan?_of_toSpan? hs)⟩

theorem settles_and_isRead (x : Seconds) :
    (x.value.units < 2 ^ 34 * one → Settles x) ∧
    (∀ s : Span, s.secs < 2 ^ 34 → x = .ofSpan s → IsRead x) ∧
    (2 ^ 23 * one ≤ x.value.units → x.value.units < 2 ^ 34 * one → IsRead x) ∧
    (x.IsWhole → x.value.units < UInt64.size * one → IsRead x) := by
  refine ⟨settles_of_lt, ?_, ?_, ?_⟩
  · rintro s hs rfl
    exact isRead_of_isKept (Seconds.isKept_ofSpan hs)
  · intro lo hi
    exact isRead_of_isKept (Seconds.isKept_of_le lo (Nat.le_of_lt hi))
  · intro hw hx
    exact isRead_of_isKept (Seconds.isKept_of_isWhole hw hx)

/-- Half a second that a double can tell, a nanosecond that none can, and the last whole number of
seconds below what spans can hold. -/
def halfSecond : Span := ⟨8589934591 * nanosPerSecond + 500000000, by decide⟩

def singleNanosecond : Span := ⟨8589934592 * nanosPerSecond + 1, by decide⟩

def lastWhole : Span := .ofSeconds (UInt64.size - 2048) (by decide)

theorem units_lastWhole : (Seconds.ofSpan lastWhole).value.units = (UInt64.size - 2048) * one := by
  apply Seconds.units_ofSeconds
  have hn : (UInt64.size - 2048) * one = (2 ^ 53 - 1) * 2 ^ (11 + places) := by
    rw [← pow_mul_one, ← Nat.mul_assoc]
    rfl
  have hl : (UInt64.size - 2048) * one < limit :=
    Nat.lt_trans (Nat.mul_lt_mul_of_pos_right (by decide) Binary64.one_pos)
      (pow_mul_one_lt_limit (e := 64) (by decide))
  rw [hn] at hl ⊢
  exact fits_mul_pow (by decide) hl

theorem settles_and_isRead_sample :
    Settles (.ofSpan halfSecond) ∧ IsRead (.ofSpan halfSecond) ∧
      IsRead (.ofSpan singleNanosecond) ∧ IsRead (.ofSpan lastWhole) := by
  have ho := Binary64.one_pos
  have lo : 2 ^ 32 * one ≤ (Seconds.ofSpan halfSecond).value.units :=
    Seconds.pow_le_units_ofSpan (by decide)
  have hi : (Seconds.ofSpan halfSecond).value.units ≤ 2 ^ 33 * one :=
    Seconds.units_ofSpan_le_pow (by decide) (by decide)
  refine ⟨?_, ?_, ?_, ?_⟩
  · exact (settles_and_isRead _).1 (by omega)
  · exact (settles_and_isRead _).2.2.1 (by omega) (by omega)
  · exact (settles_and_isRead _).2.1 singleNanosecond (by decide) rfl
  · have hu := units_lastWhole
    refine (settles_and_isRead _).2.2.2 ?_ ?_
    · unfold Seconds.IsWhole
      rw [hu]
      exact Nat.mul_mod_left _ _
    · rw [hu]
      exact Nat.mul_lt_mul_of_pos_right (by decide) Binary64.one_pos

end Duration

end ApiGateway
