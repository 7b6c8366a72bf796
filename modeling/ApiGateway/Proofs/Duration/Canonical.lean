import ApiGateway.Proofs.Duration.Sending

/-!
# The one text of a duration

A span is written as a count of the longest unit that divides it, without zeros in front, and no
other unit makes the count smaller (`Span.isCanonical_text`). A double is written as the text of
the nearest span, or refused for what is wrong with it (`Duration.writes_write`). Both together are
`Duration.canonical_and_writes`.
-/

set_option autoImplicit false

namespace ApiGateway

open Binary64 Duration

theorem Digits.head?_ofNat_ne {n : Nat} (h : n ≠ 0) : (ofNat n).head? ≠ some '0' := by
  induction n using Nat.strongRecOn with
  | ind n ih =>
    unfold ofNat at ih ⊢
    rcases Nat.lt_or_ge n 10 with hn | hn
    · rw [Nat.toDigits_of_lt_base hn, List.head?_cons]
      intro he
      exact h (Nat.digitChar_eq_zero.1 (Option.some.inj he))
    · rw [Nat.toDigits_of_base_le (by decide) hn,
        List.head?_append_of_ne_nil _ Nat.toDigits_ne_nil]
      exact ih (n / 10) (by omega) (by omega)

/-! ## Spans -/

namespace TimeUnit

theorem mem_all (u : TimeUnit) : u ∈ all := by cases u <;> decide

theorem pairwise_all : all.Pairwise fun u v => v.nanos ≤ u.nanos := by decide

theorem nanos_pos (u : TimeUnit) : 0 < u.nanos := by cases u <;> decide

end TimeUnit

namespace Span

/-- The units are tried from the longest down, so the first that divides is the longest of them. -/
theorem nanos_le_longestUnit {nanos : Nat} {v : TimeUnit} (h : nanos % v.nanos = 0) :
    v.nanos ≤ (longestUnit nanos).nanos := by
  have hmem := v.mem_all
  have hsorted := TimeUnit.pairwise_all
  unfold longestUnit
  cases hfind : TimeUnit.all.find? fun u => nanos % u.nanos = 0 with
  | none =>
    have hv := List.find?_eq_none.1 hfind v hmem
    exact absurd (decide_eq_true h) hv
  | some u =>
    obtain ⟨-, before, after, hall, hbefore⟩ := List.find?_eq_some_iff_append.1 hfind
    rw [hall] at hmem hsorted
    rcases List.mem_append.1 hmem with hv | hv
    · have hnot := hbefore v hv
      rw [decide_eq_true h] at hnot
      cases hnot
    rcases List.mem_cons.1 hv with rfl | hv
    · exact Nat.le_refl _
    · exact (List.pairwise_cons.1 (List.pairwise_append.1 hsorted).2.1).1 v hv

/-- Digits without a zero in front and a unit that together make the nanoseconds. -/
structure Spells (ds : List Char) (u : TimeUnit) (nanos : Nat) : Prop where
  digits : ∀ c ∈ ds, c.isDigit
  first : ds.head? ≠ some '0'
  exact : Digits.value ds * u.nanos = nanos

/-- The text that is written for a number of nanoseconds: the longest unit, and so the least
count. -/
structure IsCanonicalText (text : String) (nanos : Nat) : Prop where
  zero (h : nanos = 0) : text = "0s"
  count (h : nanos ≠ 0) : ∃ ds u, text = String.ofList ds ++ u.suffix ∧ Spells ds u nanos ∧
    (∀ v : TimeUnit, u.nanos < v.nanos → ¬ v.nanos ∣ nanos) ∧
    ∀ (v : TimeUnit) (n : Nat), n * v.nanos = nanos → Digits.value ds ≤ n

theorem le_of_longest {nanos n m : Nat} {u v : TimeUnit} (hz : nanos ≠ 0)
    (hu : n * u.nanos = nanos) (hv : m * v.nanos = nanos) (h : v.nanos ≤ u.nanos) : n ≤ m := by
  have hn : 0 < n := Nat.pos_of_ne_zero fun he => hz (by rw [← hu, he, Nat.zero_mul])
  apply Nat.le_of_mul_le_mul_right _ v.nanos_pos
  calc n * v.nanos ≤ n * u.nanos := Nat.mul_le_mul_left n h
    _ = m * v.nanos := hu.trans hv.symm

theorem isCanonical_text (s : Span) : IsCanonicalText s.text s.nanos := by
  constructor
  case zero =>
    intro hz
    unfold text
    rw [if_pos hz]
  case count =>
    intro hz
    have hexact : s.nanos / (longestUnit s.nanos).nanos * (longestUnit s.nanos).nanos = s.nanos :=
      Nat.div_mul_cancel (Nat.dvd_of_mod_eq_zero (longestUnit_dvd s.nanos))
    have hcount : s.nanos / (longestUnit s.nanos).nanos ≠ 0 := by
      intro he
      rw [he, Nat.zero_mul] at hexact
      exact hz hexact.symm
    have hlongest {v : TimeUnit} (h : v.nanos ∣ s.nanos) : v.nanos ≤ (longestUnit s.nanos).nanos :=
      nanos_le_longestUnit (Nat.mod_eq_zero_of_dvd h)
    refine ⟨Digits.ofNat (s.nanos / (longestUnit s.nanos).nanos), longestUnit s.nanos, ?_,
      ⟨fun _ => Digits.isDigit_of_mem_ofNat, Digits.head?_ofNat_ne hcount, ?_⟩, ?_, ?_⟩
    · unfold text
      rw [if_neg hz, ← Digits.toList_toString, String.ofList_toList]
    · rw [Digits.value_ofNat]
      exact hexact
    · intro v hv hdvd
      exact absurd (hlongest hdvd) (Nat.not_le_of_lt hv)
    · intro v n hn
      rw [Digits.value_ofNat]
      exact le_of_longest hz hexact hn (hlongest (Dvd.intro_left n hn))

end Span

/-! ## Doubles -/

/-- The whole number nearest to `num / den`, the even one of two. -/
structure RoundsTo (num den n : Nat) : Prop where
  below : 2 * (n * den) ≤ 2 * num + den
  above : 2 * num ≤ 2 * (n * den) + den
  even (tie : 2 * (n * den) = 2 * num + den ∨ 2 * num = 2 * (n * den) + den) : n % 2 = 0

theorem roundsTo_roundDiv {den : Nat} (num : Nat) (h : 0 < den) :
    RoundsTo num den (roundDiv num den) := by
  obtain ⟨below, above⟩ := two_mul_roundDiv num h
  refine ⟨below, above, ?_⟩
  have hm := Nat.div_add_mod num den
  have hlt := Nat.mod_lt num h
  rw [Nat.mul_comm] at hm
  unfold roundDiv
  split
  · intro tie
    omega
  · rw [Nat.add_mul, Nat.one_mul]
    intro tie
    omega

theorem Seconds.roundsTo_of_toSpan? {x : Seconds} {s : Span} (h : x.toSpan? = some s) :
    RoundsTo (x.value.units * nanosPerSecond) one s.nanos := by
  have hround := roundsTo_roundDiv (x.value.units * nanosPerSecond) Binary64.one_pos
  unfold toSpan? at h
  dsimp only at h
  split at h
  · cases h
    exact hround
  · cases h

namespace Duration

theorem write_value (x : Seconds) :
    write x.value = match x.toSpan? with
      | some s => .ok (ofSpan s)
      | none => .error (.outOfRange x.value) := by
  unfold write
  cases hs : x.toSpan? <;> rw [Seconds.ofBinary64_eq_ok_iff.2 rfl, Except.ok_bind, hs]

/-- What is written for a double of seconds, one case for each kind of double. Minus zero is not
negative. -/
inductive Writes (x : Binary64) : Except DurationError DurationText → Prop
  | notFinite (finite : x.isFinite = false) : Writes x (.error .notFinite)
  | negative (finite : x.isFinite) (negative : x.isNegative) : Writes x (.error (.negative x))
  | outOfRange (finite : x.isFinite) (nonneg : x.isNegative = false)
    (large : UInt64.size * one ≤ x.units) : Writes x (.error (.outOfRange x))
  | text (finite : x.isFinite) (nonneg : x.isNegative = false) (small : x.units < UInt64.size * one)
    {s : Span} (nearest : RoundsTo (x.units * nanosPerSecond) one s.nanos) :
    Writes x (.ok (ofSpan s))

theorem writes_write (x : Binary64) : Writes x (write x) := by
  by_cases hf : x.isFinite
  · by_cases hn : x.isNegative = false
    · obtain ⟨y, rfl⟩ : ∃ y : Seconds, y.value = x := ⟨⟨x, hf, hn⟩, rfl⟩
      have hrange := y.exists_toSpan?_iff
      rw [write_value]
      cases hs : y.toSpan? with
      | some s =>
        exact .text hf hn (hrange.1 ⟨s, hs⟩) (Seconds.roundsTo_of_toSpan? hs)
      | none =>
        refine .outOfRange hf hn (Nat.le_of_not_lt fun hlt => ?_)
        obtain ⟨s, hs'⟩ := hrange.2 hlt
        rw [hs] at hs'
        cases hs'
    · have hwrite : write x = .error (.negative x) := by
        unfold write Seconds.ofBinary64
        rw [dif_pos hf, dif_neg hn]
        rfl
      rw [hwrite]
      exact .negative hf (Bool.not_eq_false _ ▸ hn)
  · have hwrite : write x = .error .notFinite := by
      unfold write Seconds.ofBinary64
      rw [dif_neg hf]
      rfl
    rw [hwrite]
    exact .notFinite (Bool.not_eq_true _ ▸ hf)

theorem exists_write_iff {x : Binary64} :
    (∃ t, write x = .ok t) ↔ x.isFinite ∧ x.isNegative = false ∧ x.units < UInt64.size * one := by
  constructor
  · rintro ⟨t, ht⟩
    have h := writes_write x
    rw [ht] at h
    cases h with
    | text finite nonneg small nearest => exact ⟨finite, nonneg, small⟩
  · rintro ⟨finite, nonneg, small⟩
    obtain ⟨y, rfl⟩ : ∃ y : Seconds, y.value = x := ⟨⟨x, finite, nonneg⟩, rfl⟩
    exact Seconds.exists_send_iff.2 small

theorem canonical_and_writes :
    (∀ s : Span, Span.IsCanonicalText (ofSpan s).text s.nanos) ∧
    (∀ s t : Span, ofSpan s = ofSpan t ↔ s = t) ∧
    ∀ x : Binary64, ((∃ t, write x = .ok t) ↔
        x.isFinite ∧ x.isNegative = false ∧ x.units < UInt64.size * one) ∧
      Writes x (write x) := by
  refine ⟨Span.isCanonical_text, ?_, ?_⟩
  · intro s t
    exact ⟨ofSpan_injective, congrArg ofSpan⟩
  · intro x
    exact ⟨exists_write_iff, writes_write x⟩

/-- Half a nanosecond more than 2929687. -/
def tie : Binary64 := .ofRatio false 3 1024

theorem canonical_and_writes_tie :
    write tie = .ok ⟨"2929688ns"⟩ ∧ Writes tie (.ok ⟨"2929688ns"⟩) ∧
      Span.IsCanonicalText "2929688ns" 2929688 := by
  have hwrite : write tie = .ok ⟨"2929688ns"⟩ := by decide +kernel
  have hwrites := (canonical_and_writes.2.2 tie).2
  have hcanonical := canonical_and_writes.1 ⟨2929688, by decide⟩
  rw [show (ofSpan ⟨2929688, by decide⟩).text = "2929688ns" by decide +kernel] at hcanonical
  rw [hwrite] at hwrites
  exact ⟨hwrite, hwrites, hcanonical⟩

end Duration

end ApiGateway
