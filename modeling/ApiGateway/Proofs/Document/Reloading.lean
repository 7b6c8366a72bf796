import ApiGateway.Proofs.Document.Forms
import ApiGateway.Proofs.Duration.Sending

/-!
# Sent documents that can be loaded

A sent document fills in again, so it is loaded unless one of its texts cannot be read. Only a text
that was written from a span of `2⁶⁴` nanoseconds or more with a fraction of a second is refused
(`exists_load_send_iff`).
-/

set_option autoImplicit false

namespace ApiGateway

section

variable {E : Type → Type} [Traversed E] [Hydrate (E RawDuration)] [ToJson (E DurationText)]
  {δ : Type} [Written δ] {e : E δ} {w : E DurationText}

theorem Traversed.exists_reload_iff (fills : FillsIn E DurationText)
    (h : traverse sendField .root e = .ok w) (path : FieldPath) :
    (∃ e', (hydrate (toJson w) path >>= fun r : E RawDuration =>
      traverse receiveField .root r) = .ok e') ↔
        ∀ d ∈ Timed.durations e, Written.IsReceivable d := by
  have : Nonempty Seconds := ⟨.ofSpan Phrase.nothing⟩
  have hsend : Timed.map Sendable.send e = Timed.map .ok w := (send_eq_ok_iff .root e w).1 h
  rw [fills _ w (fun _ _ => rfl) path, Except.ok_bind]
  simp only [receive_text_eq_ok_iff]
  rw [Timed.exists_map_ok_iff]
  exact Timed.forall_durations_iff hsend fun d t ht => Written.exists_receive_send_iff ht

end

/-- Whatever is sent, on its own or in a document, is loaded again exactly if every duration that
was written anew has whole seconds or fewer than `2⁶⁴` nanoseconds. -/
theorem exists_load_send_iff {δ : Type} [Written δ] :
    (∀ (d : δ) (t : DurationText), Sendable.send d = .ok t →
      ((∃ x, Receivable.receive t = .ok x) ↔ Written.IsReceivable d)) ∧
    (∀ (c : HealthCheck δ) (w : HealthCheck DurationText), c.send = .ok w →
      ((∃ e, (hydrate (toJson w) .root >>= fun r : HealthCheck RawDuration => r.receive) = .ok e) ↔
        ∀ d ∈ c.durations, Written.IsReceivable d)) ∧
    (∀ (b : Backend δ) (w : Backend DurationText), b.send = .ok w →
      ((∃ e, (hydrate (toJson w) .root >>= fun r : Backend RawDuration => r.receive) = .ok e) ↔
        ∀ d ∈ b.durations, Written.IsReceivable d)) ∧
    (∀ (d : Definition δ) (w : Definition DurationText), d.send = .ok w →
      ((∃ e, Definition.load (toJson w) = .ok e) ↔ ∀ x ∈ d.durations, Written.IsReceivable x)) ∧
    (∀ (g : Group δ) (w : Group DurationText), g.send = .ok w →
      ((∃ e, Group.load (toJson w) = .ok e) ↔ ∀ x ∈ g.durations, Written.IsReceivable x)) := by
  refine ⟨fun d t => Written.exists_receive_send_iff, ?_, ?_, ?_, ?_⟩
  · intro c w h
    exact Traversed.exists_reload_iff (fun _ _ => HealthCheck.hydrate_toJson) h .root
  · intro b w h
    exact Traversed.exists_reload_iff (fun _ _ => Backend.hydrate_toJson) h .root
  · intro d w h
    exact Traversed.exists_reload_iff (fun _ _ => Definition.hydrate_toJson) h .root
  · intro g w h
    exact Traversed.exists_reload_iff (fun _ _ => Group.hydrate_toJson) h .root

/-- 18446744074.5 seconds, more than `2⁶⁴` nanoseconds. -/
def longFraction : Span := ⟨18446744074500000000, by decide⟩

theorem toSpan?_longFraction : (Seconds.ofSpan longFraction).toSpan? = some longFraction := by
  decide +kernel

theorem text_longFraction : longFraction.text = "18446744074500ms" := by
  decide +kernel

theorem not_isReadable_longFraction : ¬ longFraction.IsReadable := by
  unfold Span.IsReadable Span.subsec
  decide

namespace Group

/-- A group with one duration in every field. -/
def lasting {δ : Type} [DurationForm δ] (d : δ) : Group δ :=
  ⟨"", [{ (Definition.standard : Definition δ) with timeout := d, cacheTtl := d, backends := [] }]⟩

theorem mem_durations_lasting {δ : Type} [DurationForm δ] {d x : δ} :
    x ∈ (lasting d).durations ↔ x = d := by
  show x ∈ [d, d] ↔ x = d
  simp

theorem send_lasting {x : Seconds} {s : Span} (h : x.toSpan? = some s) :
    (lasting x).send = .ok (lasting (Duration.ofSpan s)) := by
  rw [send_eq_ok_iff]
  show (lasting x).map Sendable.send = (lasting x).map fun _ => .ok (Duration.ofSpan s)
  apply map_congr
  intro y hy
  rw [mem_durations_lasting.1 hy]
  exact Duration.write_of_toSpan? h

end Group

theorem exists_load_send_iff_longFraction :
    (Group.lasting (Seconds.ofSpan longFraction)).send =
        .ok (Group.lasting (Duration.ofSpan longFraction)) ∧
      ((∃ e, Group.load (toJson (Group.lasting (Duration.ofSpan longFraction))) = .ok e) ↔
        ∀ x ∈ (Group.lasting (Seconds.ofSpan longFraction)).durations, Written.IsReceivable x) := by
  have h := Group.send_lasting toSpan?_longFraction
  exact ⟨h, exists_load_send_iff.2.2.2.2 _ _ h⟩

theorem not_receive_send_longFraction :
    Sendable.send (Seconds.ofSpan longFraction) = .ok ⟨"18446744074500ms"⟩ ∧
      Sendable.send (RawDuration.number (Seconds.ofSpan longFraction).value) =
        .ok ⟨"18446744074500ms"⟩ ∧
      ¬ ∃ x, Receivable.receive (⟨"18446744074500ms"⟩ : DurationText) = .ok x := by
  have hwrite : Duration.write (Seconds.ofSpan longFraction).value =
      .ok ⟨"18446744074500ms"⟩ := by
    rw [← text_longFraction]
    exact Duration.write_of_toSpan? toSpan?_longFraction
  refine ⟨hwrite, hwrite, ?_⟩
  rw [← text_longFraction]
  exact fun h => not_isReadable_longFraction ((Duration.exists_read_text_iff .standard).1 h)

end ApiGateway
