import ApiGateway.Proofs.Duration.RoundTrip

/-!
# Sent durations that can be received

A duration is sent as it is where it is a wire text already, and else as the text of a span. The
first is always received again; the second if the span can be read (`exists_receive_send_iff`).
-/

set_option autoImplicit false

namespace ApiGateway

open Duration

theorem Seconds.exists_send_iff {x : Seconds} :
    (∃ t, Sendable.send x = .ok t) ↔ x.value.units < UInt64.size * Binary64.one := by
  rw [← exists_toSpan?_iff]
  constructor
  · rintro ⟨t, ht⟩
    obtain ⟨s, hs, -⟩ := write_eq_ok_iff.1 ht
    rw [nearestSpan?_value] at hs
    exact ⟨s, hs⟩
  · rintro ⟨s, hs⟩
    exact ⟨_, write_of_toSpan? hs⟩

theorem Seconds.send_eq_error_iff {x : Seconds} {cause : DurationError} :
    Sendable.send x = .error cause ↔
      UInt64.size * Binary64.one ≤ x.value.units ∧ cause = .outOfRange x.value := by
  show Duration.write x.value = .error cause ↔ _
  unfold Duration.write
  rw [ofBinary64_eq_ok_iff.2 rfl, Except.ok_bind, ← Nat.not_lt, ← exists_toSpan?_iff]
  cases x.toSpan? with
  | some span =>
    constructor
    · intro h
      cases h
    · rintro ⟨hnone, -⟩
      exact absurd ⟨span, rfl⟩ hnone
  | none =>
    constructor
    · intro h
      cases h
      refine ⟨?_, rfl⟩
      rintro ⟨span, h⟩
      cases h
    · rintro ⟨-, rfl⟩
      rfl

theorem RawDuration.send_text_eq_ok_iff {s : String} {t : DurationText} :
    Sendable.send (text s) = .ok t ↔ ∃ x, read s .seconds = .ok x ∧
      (if isWireText s then .ok ⟨s⟩ else write x.value) = Except.ok (ε := DurationError) t :=
  Except.bind_eq_ok_iff

/-- A form that is sent as it is, or as the text of a span. -/
class Written (δ : Type) extends Sendable δ where
  /-- The span, unless the text is kept or nothing is sent. -/
  span? : δ → Option Span
  send_eq_ok {d : δ} {t : DurationText} (h : send d = .ok t) :
    (∃ s, span? d = some s ∧ t = ofSpan s) ∨
      span? d = none ∧ ∃ x, Receivable.receive t = .ok x

instance : Written Seconds where
  span? x := x.toSpan?
  send_eq_ok {x t} h := by
    obtain ⟨s, hs, ht⟩ := write_eq_ok_iff.1 h
    rw [nearestSpan?_value] at hs
    exact Or.inl ⟨s, hs, ht⟩

/-- A text that is no wire text is read and written anew. -/
def RawDuration.span? : RawDuration → Option Span
  | number v => nearestSpan? v
  | text s =>
    if isWireText s then none
    else match read s .seconds with
      | .ok x => x.toSpan?
      | .error _ => none

instance : Written RawDuration where
  span? := RawDuration.span?
  send_eq_ok {d t} h := by
    cases d with
    | number v => exact Or.inl (write_eq_ok_iff.1 h)
    | text s =>
      obtain ⟨x, hx, ht⟩ := RawDuration.send_text_eq_ok_iff.1 h
      unfold RawDuration.span?
      dsimp only
      split at ht
      · rename_i hw
        cases ht
        rw [if_pos hw]
        exact Or.inr ⟨rfl, x, hx⟩
      · rename_i hw
        obtain ⟨s', hs, ht⟩ := write_eq_ok_iff.1 ht
        rw [nearestSpan?_value] at hs
        rw [if_neg hw, hx]
        exact Or.inl ⟨s', hs, ht⟩

namespace Written

variable {δ : Type} [Written δ]

/-- What is sent can be received. -/
def IsReceivable (d : δ) : Prop := ∀ s, span? d = some s → s.IsReadable

theorem exists_receive_send_iff {d : δ} {t : DurationText} (h : Sendable.send d = .ok t) :
    (∃ x, Receivable.receive t = .ok x) ↔ IsReceivable d := by
  unfold IsReceivable
  rcases send_eq_ok h with ⟨s, hs, rfl⟩ | ⟨hs, hx⟩
  · simp only [hs, Option.some.injEq, forall_eq']
    exact exists_read_text_iff .standard
  · refine iff_of_true hx ?_
    intro s hs'
    rw [hs] at hs'
    cases hs'

end Written

end ApiGateway
