import ApiGateway.Proofs.Duration.Sending

/-!
# Durations without an answer

A phrase whose sum leaves 64 bits of seconds is refused, with one exception: where its parts come
short of `2⁶⁴` seconds by a second at most, and the next part adds just the nanoseconds that are
missing, the reader stops without an answer (`Phrase.read_eq_abort_iff`). Nothing else about a
duration does that (`RawDuration.receive_eq_abort_iff`, `RawDuration.send_eq_abort_iff`).
-/

set_option autoImplicit false

namespace ApiGateway

/-- The span falls short of `2⁶⁴` seconds by `n` nanoseconds, which are a second at most. -/
def Span.Lacks (s : Span) (n : Nat) : Prop :=
  n ≤ nanosPerSecond ∧ s.nanos + n = UInt64.size * nanosPerSecond

namespace Phrase

theorem add_eq_abort_iff {sum : Span} {seconds nanos : Nat} :
    add sum seconds nanos = .error .abort ↔
      sum.subsec + nanos = nanosPerSecond ∧
        sum.nanos + seconds * nanosPerSecond + nanos = UInt64.size * nanosPerSecond := by
  unfold add
  dsimp only
  constructor
  · intro h
    split at h
    · cases h
    split at h
    · cases h
    split at h
    · rename_i hcarry
      exact ⟨hcarry.2, hcarry.1⟩
    · cases h
  · rintro ⟨hcarry, htotal⟩
    have hsmall : ¬ UInt64.size ≤ sum.subsec + nanos := by
      rw [hcarry]
      decide
    rw [if_neg hsmall, dif_neg (by omega), if_pos ⟨htotal, hcarry⟩]

/-- Whole seconds leave no carry behind. -/
theorem addCount_eq_abort_iff {sum : Span} {fine : Bool} {count : Nat} :
    addCount sum fine count = .error .abort ↔ fine = true ∧ sum.Lacks count := by
  have hsecs := sum.secs_lt
  have hsub := sum.subsec_lt
  have hnanos := sum.nanos_eq
  have hsize : nanosPerSecond < UInt64.size := by decide
  unfold addCount Span.Lacks
  by_cases hcount : UInt64.size ≤ count
  · rw [if_pos hcount]
    constructor
    · intro h
      cases h
    · rintro ⟨-, hle, -⟩
      omega
  rw [if_neg hcount]
  cases fine with
  | false =>
    rw [if_neg Bool.false_ne_true, add_eq_abort_iff]
    constructor
    · rintro ⟨hcarry, -⟩
      omega
    · rintro ⟨hfine, -⟩
      cases hfine
  | true =>
    rw [if_pos rfl, add_eq_abort_iff, Nat.zero_mul, Nat.add_zero]
    constructor
    · rintro ⟨hcarry, htotal⟩
      exact ⟨rfl, by omega, htotal⟩
    · rintro ⟨-, hle, htotal⟩
      simp only [nanosPerSecond, UInt64.size] at *
      exact ⟨by omega, htotal⟩

variable {sum : Span} {u : PhraseUnit}

theorem addWhole_eq_abort_iff {n : Nat} :
    addWhole sum u n = .error .abort ↔ u.isSubsecond ∧ sum.Lacks (n * u.nanos) := by
  unfold addWhole
  rw [addCount_eq_abort_iff]
  constructor
  · rintro ⟨hu, h⟩
    rw [hu] at h
    exact ⟨hu, h⟩
  · rintro ⟨hu, h⟩
    rw [hu]
    exact ⟨rfl, h⟩

/-- The fraction makes `k` nanoseconds of its unit exactly. -/
def Fraction.Makes (f : Fraction) (u : PhraseUnit) (k : Nat) : Prop :=
  u ≠ .nanosecond ∧ u.hasFineFraction ∧ f.numerator * u.nanos < UInt64.size ∧
    f.numerator * u.nanos = k * Nat.pow 10 f.places

theorem addFraction_eq_abort_iff {f : Fraction} :
    addFraction sum u f = .error .abort ↔ ∃ k, f.Makes u k ∧ sum.Lacks k := by
  have hpow : 0 < Nat.pow 10 f.places := Nat.pow_pos (by decide)
  unfold addFraction Fraction.Makes
  dsimp only
  constructor
  · intro h
    split at h
    · cases h
    rename_i hexact
    simp only [not_or, Nat.not_le, Decidable.not_not] at hexact
    obtain ⟨hu, hlt, hmod⟩ := hexact
    obtain ⟨hfine, hlacks⟩ := addCount_eq_abort_iff.1 h
    rw [hfine] at hlt hmod hlacks
    exact ⟨_, ⟨hu, hfine, hlt, (Nat.div_mul_cancel (Nat.dvd_of_mod_eq_zero hmod)).symm⟩, hlacks⟩
  · rintro ⟨k, ⟨hu, hfine, hlt, heq⟩, hlacks⟩
    have hgrains : grains u u.hasFineFraction = u.nanos := by
      rw [hfine]
      rfl
    rw [hgrains, if_neg, addCount_eq_abort_iff, heq, Nat.mul_div_cancel k hpow]
    · exact ⟨hfine, hlacks⟩
    · rw [heq] at hlt ⊢
      simp only [not_or, Nat.not_le, Decidable.not_not]
      exact ⟨hu, hlt, Nat.mul_mod_left k _⟩

/-- The part adds just what the sum lacks: by its whole count, or by its fraction after that. -/
def Part.Overflows (p : Part) (sum : Span) : Prop :=
  ∃ u, PhraseUnit.ofName? (String.ofList p.name) = some u ∧
    ((u.isSubsecond ∧ sum.Lacks (p.count * u.nanos)) ∨
      ∃ f k sum', p.fraction = some f ∧ addWhole sum u p.count = .ok sum' ∧
        (fractionOf f).Makes u k ∧ sum'.Lacks k)

theorem addTo_eq_abort_iff {p : Part} : p.addTo sum = .error .abort ↔ p.Overflows sum := by
  unfold Part.addTo addPart Part.Overflows
  cases hu : PhraseUnit.ofName? (String.ofList p.name) with
  | none =>
    dsimp only
    constructor
    · intro h
      split at h <;> cases h
    · rintro ⟨u, hsome, -⟩
      cases hsome
  | some u =>
    simp only [Option.some.injEq, exists_eq_left', Except.bind_eq_error_iff, addWhole_eq_abort_iff]
    cases hf : p.fraction with
    | none =>
      constructor
      · rintro (h | ⟨sum', -, h⟩)
        · exact Or.inl h
        · cases h
      · rintro (h | ⟨f, k, sum', hsome, -⟩)
        · exact Or.inl h
        · cases hsome
    | some f =>
      constructor
      · rintro (h | ⟨sum', hsum, h⟩)
        · exact Or.inl h
        · obtain ⟨k, hmakes, hlacks⟩ := addFraction_eq_abort_iff.1 h
          exact Or.inr ⟨f, k, sum', rfl, hsum, hmakes, hlacks⟩
      · rintro (h | ⟨f', k, sum', hsome, hsum, hmakes, hlacks⟩)
        · exact Or.inl h
        · cases hsome
          exact Or.inr ⟨sum', hsum, addFraction_eq_abort_iff.2 ⟨k, hmakes, hlacks⟩⟩

/-- One part after the other is added to the sum, until one adds just what the sum lacks. -/
inductive Overflows : Span → List Char → Prop where
  | here {sum : Span} {cs rest : List Char} {p : Part} (starts : Starts cs p rest) (fits : p.Fits)
      (overflows : p.Overflows sum) : Overflows sum cs
  | later {sum sum' : Span} {cs rest : List Char} {p : Part} (starts : Starts cs p rest)
      (fits : p.Fits) (added : p.addTo sum = .ok sum') (overflows : Overflows sum' rest) :
      Overflows sum cs

theorem overflows_of_readFrom {cs : List Char} {offset start : Nat} {isFirst : Bool}
    (h : readFrom sum offset (.between start isFirst) cs = .error .abort) : Overflows sum cs := by
  -- The induction is on the length of the text, which each part makes shorter.
  generalize hn : cs.length = n
  induction n using Nat.strongRecOn generalizing sum cs offset start isFirst with
  | _ n ih =>
    have hread : ¬ Refused (readFrom sum offset (.between start isFirst) cs) := by
      rintro ⟨e, he⟩
      rw [h] at he
      cases he
    rcases readFrom_cases hread with hblank | ⟨p, rest, offset', start', hstarts, hp, heq⟩
    · rw [readFrom_blank sum hblank] at h
      split at h <;> cases h
    rw [heq, Except.bind_eq_error_iff] at h
    rcases h with h | ⟨sum', hadd, h⟩
    · exact .here hstarts hp (addTo_eq_abort_iff.1 h)
    · exact .later hstarts hp hadd (ih _ (hn ▸ hstarts.length_lt) h rfl)

theorem Overflows.readFrom_eq {cs : List Char} (h : Overflows sum cs) (offset start : Nat)
    (isFirst : Bool) : readFrom sum offset (.between start isFirst) cs = .error .abort := by
  induction h generalizing offset start isFirst with
  | @here sum _ _ _ hstarts hp h =>
    obtain ⟨_, _, hfits, -⟩ := readFrom_starts sum hstarts offset start isFirst
    rw [hfits hp, addTo_eq_abort_iff.2 h]
    rfl
  | @later sum _ _ _ _ hstarts hp hadd _ ih =>
    obtain ⟨offset', start', hfits, -⟩ := readFrom_starts sum hstarts offset start isFirst
    rw [hfits hp, hadd]
    exact ih offset' start' false

theorem read_eq_abort_iff {cs : List Char} :
    Phrase.read cs = .error .abort ↔ Overflows nothing cs := by
  constructor
  · intro h
    exact overflows_of_readFrom h
  · intro h
    exact h.readFrom_eq 0 0 true

end Phrase

namespace Duration

theorem ofBinary64_ne_abort (x : Binary64) : Seconds.ofBinary64 x ≠ .error .abort := by
  unfold Seconds.ofBinary64
  intro h
  split at h
  · split at h <;> cases h
  · cases h

theorem ofNumber_ne_abort (x : Binary64) (unit : TimeUnit) : ofNumber x unit ≠ .error .abort := by
  unfold ofNumber
  intro h
  split at h
  · cases h
  split at h
  · cases h
  dsimp only at h
  split at h
  · cases h
  · exact ofBinary64_ne_abort _ h

theorem write_ne_abort (x : Binary64) : write x ≠ .error .abort := by
  unfold write
  intro h
  rcases Except.bind_eq_error_iff.1 h with h | ⟨y, -, h⟩
  · exact ofBinary64_ne_abort x h
  · split at h <;> cases h

/-- The text is no bare number, and as a phrase it overflows. -/
def Overflows (s : String) : Prop :=
  Binary64.ofText? (Text.trim s.toList) = none ∧
    Phrase.Overflows Phrase.nothing (Text.trim s.toList)

theorem read_eq_abort_iff {s : String} {unit : TimeUnit} :
    read s unit = .error .abort ↔ Overflows s := by
  unfold read Overflows
  rw [← Phrase.read_eq_abort_iff]
  dsimp only
  constructor
  · intro h
    split at h
    · cases h
    split at h
    · exact absurd h (ofNumber_ne_abort _ unit)
    · rename_i hnumber
      split at h
      · cases h
      · cases h
      · rename_i hread
        exact ⟨hnumber, hread⟩
  · rintro ⟨hnumber, hread⟩
    have hne : Text.trim s.toList ≠ [] := by
      intro h
      rw [h] at hread
      cases hread
    rw [if_neg hne, hnumber, hread]

end Duration

namespace RawDuration

/-- Only a text can overflow. -/
def Overflows : RawDuration → Prop
  | text s => Duration.Overflows s
  | number _ => False

theorem receive_eq_abort_iff {d : RawDuration} :
    Receivable.receive d = .error .abort ↔ d.Overflows := by
  cases d with
  | text s => exact Duration.read_eq_abort_iff
  | number x => exact iff_of_false (Duration.ofNumber_ne_abort x .standard) not_false

theorem send_eq_abort_iff {d : RawDuration} :
    Sendable.send d = .error .abort ↔ d.Overflows := by
  cases d with
  | number x => exact iff_of_false (Duration.write_ne_abort x) not_false
  | text s =>
    show Duration.normalize s = _ ↔ _
    unfold Duration.normalize
    rw [Except.bind_eq_error_iff, Duration.read_eq_abort_iff]
    constructor
    · rintro (h | ⟨x, -, h⟩)
      · exact h
      · split at h
        · cases h
        · exact absurd h (Duration.write_ne_abort _)
    · exact Or.inl

end RawDuration

end ApiGateway
