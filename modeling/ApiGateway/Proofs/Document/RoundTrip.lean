import ApiGateway.Proofs.Document.Hydration
import ApiGateway.Proofs.Duration.RoundTrip
import Mathlib.Tactic.Choose

/-!
# Stored documents survive the editor

A group whose duration texts are written by the library itself is loaded and saved as it was
(`Group.send_load`).
-/

set_option autoImplicit false

namespace ApiGateway

theorem Group.receive_hydrate_toJson {g : Group DurationText} {g' : Group Seconds}
    (h : g.map Receivable.receive = g'.map .ok) (path : FieldPath) :
    ∃ r : Group RawDuration, ApiGateway.hydrate (toJson g) path = .ok r ∧ r.receive = .ok g' := by
  have hr : ApiGateway.hydrate (toJson g) path = .ok (g.map fun t => RawDuration.text t.text) :=
    Group.hydrate_toJson (fun _ _ => rfl) path
  exact ⟨_, hr, (Traversed.receive_text_eq_ok_iff .root g g').2 h⟩

/-- A span that a double tells apart from all others, or whole seconds. -/
def Span.IsCanonical (s : Span) : Prop :=
  s.secs < 2 ^ 23 ∨ s.subsec = 0 ∧ s.secs ≤ 2 ^ 53

namespace Span.IsCanonical

variable {s : Span}

theorem receive (h : s.IsCanonical) :
    Receivable.receive (Duration.ofSpan s) = .ok (Seconds.ofSpan s) := by
  apply Duration.read_text
  rcases h with h | ⟨h, -⟩
  · exact isReadable_of_lt (Nat.lt_trans h (by decide))
  · exact Or.inl h

theorem send (h : s.IsCanonical) :
    Sendable.send (Seconds.ofSpan s) = .ok (Duration.ofSpan s) := by
  apply Duration.write_of_toSpan?
  rcases h with h | ⟨hs, h⟩
  · exact Seconds.toSpan?_ofSpan h
  · exact Seconds.toSpan?_ofSpan_of_whole hs h

end Span.IsCanonical

theorem Group.send_load (w : Group DurationText)
    (h : ∀ t ∈ w.durations, ∃ s : Span, t = Duration.ofSpan s ∧ s.IsCanonical) :
    ∃ e, Group.load (toJson w) = .ok e ∧ e.send = .ok w ∧
      e.send.map toJson = .ok (toJson w) := by
  have : Nonempty Span := ⟨.ofSeconds 0 (by decide)⟩
  choose! span htext hspan using h
  have hreceive : w.map Receivable.receive =
      (w.map fun t => Seconds.ofSpan (span t)).map .ok := by
    rw [map_map]
    apply map_congr
    intro t ht
    have hread := (hspan t ht).receive
    rwa [← htext t ht] at hread
  have hsend : (w.map fun t => Seconds.ofSpan (span t)).send = .ok w := by
    rw [send_eq_ok_iff, map_map]
    apply map_congr
    intro t ht
    have hwrite := (hspan t ht).send
    rwa [← htext t ht, ← Function.comp_apply (f := Sendable.send)] at hwrite
  obtain ⟨r, hr, he⟩ := receive_hydrate_toJson hreceive .root
  refine ⟨_, ?_, hsend, by rw [hsend]; rfl⟩
  unfold Group.load Group.hydrate
  rw [hr]
  exact he

/-- A nanosecond less than `2²³` seconds, the longest whole seconds, and nothing at all. -/
def Group.sample : Group DurationText :=
  ⟨"", [{ (Definition.standard : Definition DurationText) with
    timeout := Duration.ofSpan ⟨8388607 * nanosPerSecond + 999999999, by decide⟩
    cacheTtl := Duration.ofSpan (.ofSeconds (2 ^ 53) (by decide))
    backends := [{ (Backend.standard : Backend DurationText) with
      timeout := Duration.ofSpan Phrase.nothing }] }]⟩

theorem Group.send_load_sample :
    (∀ t ∈ sample.durations, ∃ s : Span, t = Duration.ofSpan s ∧ s.IsCanonical) ∧
      ∃ e, Group.load (toJson sample) = .ok e ∧ e.send = .ok sample ∧
        e.send.map toJson = .ok (toJson sample) := by
  have h : ∀ t ∈ sample.durations, ∃ s : Span, t = Duration.ofSpan s ∧ s.IsCanonical := by
    intro t ht
    rcases List.mem_cons.1 ht with rfl | ht
    · exact ⟨_, rfl, Or.inl (by decide)⟩
    rcases List.mem_cons.1 ht with rfl | ht
    · exact ⟨_, rfl, Or.inr ⟨by decide, by decide⟩⟩
    · exact ⟨_, List.mem_singleton.1 ht, Or.inl (by decide)⟩
  exact ⟨h, Group.send_load sample h⟩

end ApiGateway
