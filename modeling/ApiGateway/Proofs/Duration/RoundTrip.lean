import ApiGateway.Duration.Forms
import ApiGateway.Proofs.Indexed
import ApiGateway.Proofs.Duration.Rounding
import ApiGateway.Proofs.Duration.WireText

/-!
# Numbers of seconds that survive storage

A number of seconds is kept if its nearest span can be read and has it as its number of seconds
again. Numbers of seconds of spans are kept below `2³⁴` seconds (`isKept_ofSpan`), and whole ones
as far as spans go (`isKept_of_isWhole`).
-/

set_option autoImplicit false

namespace ApiGateway

open Binary64

theorem Span.isReadable_of_lt {s : Span} (h : s.secs < 2 ^ 34) : s.IsReadable := by
  have hlt : s.nanos < 2 ^ 34 * nanosPerSecond := (Nat.div_lt_iff_lt_mul (by decide)).1 h
  exact Or.inr (Nat.lt_trans hlt (by decide))

namespace Seconds

/-- What is written is read back as the same number of seconds. -/
def IsKept (x : Seconds) : Prop :=
  ∃ s : Span, x.toSpan? = some s ∧ s.IsReadable ∧ Equal (ofSpan s) x

theorem isKept_of_isWhole {x : Seconds} (hw : x.IsWhole)
    (h : x.value.units < UInt64.size * one) : x.IsKept := by
  have hlt : x.value.units / one < UInt64.size := (Nat.div_lt_iff_lt_mul Binary64.one_pos).2 h
  refine ⟨_, toSpan?_of_isWhole hw hlt, Or.inl ?_, equal_ofSeconds hw hlt⟩
  exact Nat.mul_mod_left _ _

/-- The reader counts fractions of seconds in nanoseconds, which 64 bits hold up to `2³⁴`
seconds. -/
theorem isKept_of_le {x : Seconds} (lo : 2 ^ 23 * one ≤ x.value.units)
    (hi : x.value.units ≤ 2 ^ 34 * one) : x.IsKept := by
  by_cases hw : x.IsWhole
  · apply isKept_of_isWhole hw
    exact Nat.lt_of_le_of_lt hi (Nat.mul_lt_mul_of_pos_right (by decide) Binary64.one_pos)
  · obtain ⟨s, hs, hle⟩ := exists_toSpan? hi (by decide)
    exact ⟨s, hs, Or.inr (Nat.lt_of_le_of_lt hle (by decide)), equal_of_fraction hs hw lo⟩

theorem isKept_ofSpan {s : Span} (h : s.secs < 2 ^ 34) : (ofSpan s).IsKept := by
  by_cases hs : s.secs < 2 ^ 23
  · exact ⟨s, toSpan?_ofSpan hs, Span.isReadable_of_lt h, Equal.refl _⟩
  · apply isKept_of_le
    · exact pow_le_units_ofSpan (Nat.le_of_not_lt hs)
    · exact units_ofSpan_le_pow h (by decide)

/-- Up to `2⁵³` every whole number of seconds has a double of its own. -/
theorem toSpan?_ofSpan_of_whole {s : Span} (hs : s.subsec = 0) (h : s.secs ≤ 2 ^ 53) :
    (ofSpan s).toSpan? = some s := by
  have he : s = .ofSeconds s.secs s.secs_lt := by
    have hn := s.nanos_eq
    rw [hs, Nat.add_zero] at hn
    cases s
    unfold Span.ofSeconds
    congr 1
  have hu : (ofSpan s).value.units = s.secs * one := by
    have hu := units_ofSeconds_of_le s.secs_lt h
    rwa [← he] at hu
  have hw : (ofSpan s).IsWhole := by
    unfold IsWhole
    rw [hu]
    exact Nat.mul_mod_left _ _
  have hq : (ofSpan s).value.units / one = s.secs := by
    rw [hu]
    exact Nat.mul_div_cancel _ Binary64.one_pos
  rw [toSpan?_of_isWhole hw (hq ▸ s.secs_lt)]
  simp only [hq]
  rw [← he]

end Seconds

namespace Duration

/-- The span that a number is written from, if it is one of seconds that fit a span. -/
def nearestSpan? (v : Binary64) : Option Span :=
  match Seconds.ofBinary64 v with
  | .ok x => x.toSpan?
  | .error _ => none

theorem nearestSpan?_value (x : Seconds) : nearestSpan? x.value = x.toSpan? := by
  unfold nearestSpan?
  rw [Seconds.ofBinary64_eq_ok_iff.2 rfl]

theorem write_eq_ok_iff {v : Binary64} {t : DurationText} :
    write v = .ok t ↔ ∃ s, nearestSpan? v = some s ∧ t = ofSpan s := by
  unfold write nearestSpan?
  cases Seconds.ofBinary64 v with
  | error e =>
    constructor
    · intro h
      cases h
    · rintro ⟨s, hs, -⟩
      cases hs
  | ok x =>
    rw [Except.ok_bind]
    dsimp only
    cases x.toSpan? with
    | none =>
      constructor
      · intro h
        cases h
      · rintro ⟨s, hs, -⟩
        cases hs
    | some s =>
      constructor
      · intro h
        cases h
        exact ⟨s, rfl, rfl⟩
      · rintro ⟨s', hs, rfl⟩
        cases hs
        rfl

theorem write_of_toSpan? {x : Seconds} {s : Span} (h : x.toSpan? = some s) :
    write x.value = .ok (ofSpan s) :=
  write_eq_ok_iff.2 ⟨s, (nearestSpan?_value x).trans h, rfl⟩

theorem ofSpan_injective {s t : Span} (h : ofSpan s = ofSpan t) : s = t :=
  Span.text_injective (congrArg DurationText.text h)

end Duration

end ApiGateway
