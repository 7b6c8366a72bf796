import ApiGateway.Proofs.Duration.BareNumber
import ApiGateway.Proofs.Duration.Sending

/-!
# Spellings of one duration

A wire text is kept as it is written when it is stored directly, and spelled anew when it goes
through the editor. Both texts name the same span below `2²³` seconds, and every other spelling
comes to one text (`RawDuration.exists_spelledAlike`). What is stored directly is a wire text
itself, so storing it again changes nothing (`RawDuration.isSettled_of_send`).
-/

set_option autoImplicit false

namespace ApiGateway

open Binary64 Duration

/-- The suffixes that the gateway reads. -/
def TimeUnit.suffixes : List String := ["ns", "us", "µs", "ms", "s", "m", "h"]

theorem TimeUnit.mem_suffixes_iff {s : String} :
    s ∈ suffixes ↔ ∃ u, TimeUnit.ofSuffix? s = some u := by
  constructor
  · intro h
    unfold suffixes at h
    simp only [List.mem_cons, List.not_mem_nil, or_false] at h
    rcases h with rfl | rfl | rfl | rfl | rfl | rfl | rfl <;> exact ⟨_, rfl⟩
  · rintro ⟨u, h⟩
    unfold ofSuffix? at h
    split at h
    all_goals first | decide | cases h

/-- Digits and one of the suffixes, with nothing around them. -/
def WireShaped (s : String) : Prop :=
  ∃ (ds : List Char) (suffix : String), s.toList = ds ++ suffix.toList ∧ ds ≠ [] ∧
    (∀ c ∈ ds, c.isDigit) ∧ suffix ∈ TimeUnit.suffixes

theorem isWireText_iff {s : String} : isWireText s ↔ WireShaped s := by
  unfold isWireText
  constructor
  · intro h
    simp only [Bool.and_eq_true, decide_eq_true_eq, Option.isSome_iff_exists] at h
    refine ⟨_, _, ?_, h.1, ?_, TimeUnit.mem_suffixes_iff.2 h.2⟩
    · rw [String.toList_ofList]
      exact (List.takeWhile_append_dropWhile).symm
    · intro c hc
      exact List.all_eq_true.1 List.all_takeWhile c hc
  · rintro ⟨ds, suffix, hl, hne, hd, hs⟩
    obtain ⟨u, hu⟩ := TimeUnit.mem_suffixes_iff.1 hs
    rw [hl, TimeUnit.split_suffix hd hu]
    simp [hne, hu]

/-- The text is no bare number, and it is read as a phrase that makes the span. -/
def DurationText.Names (t : DurationText) (span : Span) : Prop :=
  Binary64.ofText? (Text.trim t.text.toList) = none ∧
    Phrase.read (Text.trim t.text.toList) = .ok span

theorem WireShaped.ofText?_eq_none {s : String} (h : WireShaped s) :
    Binary64.ofText? (Text.trim s.toList) = none := by
  obtain ⟨ds, suffix, hl, hne, hd, hs⟩ := h
  obtain ⟨u, hu⟩ := TimeUnit.mem_suffixes_iff.1 hs
  rw [hl, Text.trim_digits_suffix hne hd hu]
  exact ofText?_digits_suffix hne hd hu

namespace Span

theorem wireShaped_text (s : Span) : WireShaped s.text := by
  obtain ⟨u, n, htext, -, -⟩ := s.toList_text
  exact ⟨Digits.ofNat n, u.suffix, htext, Nat.toDigits_ne_nil,
    fun _ => Digits.isDigit_of_mem_ofNat, TimeUnit.mem_suffixes_iff.2 ⟨u, u.ofSuffix?_suffix⟩⟩

theorem names_ofSpan {s : Span} (h : s.IsReadable) : (ofSpan s).Names s := by
  obtain ⟨u, n, htext, hnanos, hsub⟩ := s.toList_text
  have hne : Digits.ofNat n ≠ [] := Nat.toDigits_ne_nil
  have hd : ∀ c ∈ Digits.ofNat n, c.isDigit := fun _ => Digits.isDigit_of_mem_ofNat
  have hgrains := h.mul_grains_lt hnanos hsub
  refine ⟨s.wireShaped_text.ofText?_eq_none, ?_⟩
  show Phrase.read (Text.trim s.text.toList) = _
  rw [htext, Text.trim_digits_suffix hne hd u.ofSuffix?_suffix,
    Phrase.read_digits_suffix hne hd u.ofSuffix?_suffix]
  simp only [Digits.value_ofNat]
  rw [dif_pos hgrains, eq_span hnanos hgrains]

end Span

/-- Below `2³⁴` seconds, what is written can be read again. -/
theorem Seconds.exists_toSpan?_isReadable {x : Seconds} (h : x.value.units < 2 ^ 34 * one) :
    ∃ s, x.toSpan? = some s ∧ s.IsReadable := by
  obtain ⟨s, hs, hle⟩ := exists_toSpan? (Nat.le_of_lt h) (by decide)
  exact ⟨s, hs, Or.inr (Nat.lt_of_le_of_lt hle (by decide))⟩

namespace RawDuration

/-- A text, or a whole number. -/
def IsTextOrWhole : RawDuration → Prop
  | text _ => True
  | number v => v.units % one = 0

def IsWireShaped : RawDuration → Prop
  | text s => WireShaped s
  | number _ => False

/-- The two texts name one span, and they are the same unless a wire text is spelled. -/
structure SpelledAlike (d : RawDuration) (p : DurationText × DurationText) : Prop where
  span : ∃ s, p.1.Names s ∧ p.2.Names s
  text (h : ¬ d.IsWireShaped) : p.1 = p.2

theorem send_text_of_wireShaped {s : String} {x : Seconds} (hs : WireShaped s)
    (h : Receivable.receive (text s) = .ok x) : Sendable.send (text s) = .ok ⟨s⟩ := by
  refine send_text_eq_ok_iff.2 ⟨x, h, ?_⟩
  rw [if_pos (isWireText_iff.2 hs)]

theorem send_text_of_not_wireShaped {s : String} {x : Seconds} (hs : ¬ WireShaped s)
    (h : Receivable.receive (text s) = .ok x) : Sendable.send (text s) = write x.value := by
  show (read s .seconds >>= _) = _
  rw [show read s .seconds = .ok x from h, Except.ok_bind, if_neg (isWireText_iff.not.2 hs)]

/-- Below `2²³` seconds a span is told by its number of seconds, so a wire text names the span that
is written for it. -/
theorem names_of_wireShaped {s : String} {x : Seconds} {span : Span} (hs : WireShaped s)
    (received : Receivable.receive (text s) = .ok x) (short : x.value.units < 2 ^ 23 * one)
    (hspan : x.toSpan? = some span) : DurationText.Names ⟨s⟩ span := by
  obtain ⟨v, hv, -⟩ | ⟨hv, span', hread, rfl⟩ := read_cases received
  · rw [hs.ofText?_eq_none] at hv
    cases hv
  have hsecs : span'.secs < 2 ^ 23 := by
    apply Nat.lt_of_not_le
    intro hle
    have := Seconds.pow_le_units_ofSpan hle
    omega
  rw [Seconds.toSpan?_ofSpan hsecs] at hspan
  cases hspan
  exact ⟨hv, hread⟩

/-- Whole numbers below `2²³` seconds are received as they are. -/
theorem equal_of_whole {v : Binary64} {x : Seconds} (received : Receivable.receive (number v) = .ok x)
    (short : x.value.units < 2 ^ 23 * one) (whole : v.units % one = 0) :
    ∃ y : Seconds, y.value = v ∧ x.Equal y := by
  obtain ⟨hf, hn, -⟩ := ofNumber_eq_ok_iff.1 received
  have hv : v.units < 2 ^ 23 * one := (ofNumber_lt_pow_iff received 23).1 short
  refine ⟨⟨v, hf, hn⟩, rfl, ?_⟩
  rw [Seconds.equal_iff, units_of_ofNumber received]
  exact (throughNanos_eq_self_iff (Seconds.fits_units ⟨v, hf, hn⟩).2).2
    (isSteady_of_whole whole hv)

theorem exists_spelledAlike {d : RawDuration} {x : Seconds}
    (received : Receivable.receive d = .ok x) (short : x.value.units < 2 ^ 23 * one)
    (whole : d.IsTextOrWhole) :
    ∃ p : DurationText × DurationText, Sendable.send d = .ok p.1 ∧ Sendable.send x = .ok p.2 ∧
      d.SpelledAlike p := by
  obtain ⟨span, hspan, hreadable⟩ := Seconds.exists_toSpan?_isReadable (x := x) (by omega)
  have hwrite := write_of_toSpan? hspan
  have hnames := Span.names_ofSpan hreadable
  -- Unless a wire text is spelled, both ways write the seconds that are received.
  have rewritten (h : Sendable.send d = .ok (ofSpan span)) : ∃ p : DurationText × DurationText,
      Sendable.send d = .ok p.1 ∧ Sendable.send x = .ok p.2 ∧ d.SpelledAlike p :=
    ⟨(ofSpan span, ofSpan span), h, hwrite, ⟨span, hnames, hnames⟩, fun _ => rfl⟩
  cases d with
  | number v =>
    obtain ⟨y, rfl, hequal⟩ := equal_of_whole received short whole
    rw [Seconds.toSpan?_congr hequal] at hspan
    exact rewritten (write_of_toSpan? hspan)
  | text s =>
    by_cases hs : WireShaped s
    · have hkept := names_of_wireShaped hs received short hspan
      exact ⟨(⟨s⟩, ofSpan span), send_text_of_wireShaped hs received, hwrite,
        ⟨span, hkept, hnames⟩, fun h => absurd hs h⟩
    · apply rewritten
      rw [send_text_of_not_wireShaped hs received, hwrite]

end RawDuration

/-- A wire text that can be received, and is kept when it is sent again. -/
structure DurationText.IsSettled (t : DurationText) : Prop where
  wireShaped : WireShaped t.text
  again : Sendable.send (RawDuration.text t.text) = .ok t
  received : ∃ x, Receivable.receive t = .ok x

theorem Span.IsReadable.isSettled {s : Span} (h : s.IsReadable) : (ofSpan s).IsSettled where
  wireShaped := s.wireShaped_text
  again := RawDuration.send_text_of_wireShaped s.wireShaped_text (read_text .standard h)
  received := ⟨_, read_text .standard h⟩

theorem Seconds.isSettled_of_send {x : Seconds} {t : DurationText}
    (h : Sendable.send x = .ok t) (short : x.value.units < 2 ^ 34 * one) : t.IsSettled := by
  obtain ⟨s, hs, hreadable⟩ := exists_toSpan?_isReadable short
  have hwrite := write_of_toSpan? hs
  rw [show write x.value = .ok t from h] at hwrite
  cases hwrite
  exact hreadable.isSettled

theorem RawDuration.isSettled_of_send {d : RawDuration} {t : DurationText}
    (h : Sendable.send d = .ok t)
    (short : ∀ x, Receivable.receive d = .ok x → x.value.units < 2 ^ 34 * one) : t.IsSettled := by
  cases d with
  | number v =>
    obtain ⟨y, hy, -⟩ := Except.bind_eq_ok_iff.1 h
    obtain rfl := Seconds.ofBinary64_eq_ok_iff.1 hy
    obtain ⟨x, hx⟩ := exists_ofNumber (Seconds.exists_send_iff.1 ⟨t, h⟩)
    exact Seconds.isSettled_of_send h ((ofNumber_lt_pow_iff hx 34).1 (short x hx))
  | text s =>
    obtain ⟨x, hx, -⟩ := send_text_eq_ok_iff.1 h
    by_cases hs : WireShaped s
    · have hkept := send_text_of_wireShaped hs hx
      rw [h] at hkept
      cases hkept
      exact ⟨hs, h, x, hx⟩
    · rw [send_text_of_not_wireShaped hs hx] at h
      exact Seconds.isSettled_of_send h (short x hx)

end ApiGateway
