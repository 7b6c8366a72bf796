import ApiGateway.Proofs.Document.Forms
import ApiGateway.Proofs.Duration.Spelling

/-!
# Prepared documents stay as they are

A prepared document holds wire texts only. Preparing keeps these, so it changes nothing the second
time, and what is prepared can be loaded (`prepare_prepare`). All durations have to be below `2³⁴`
seconds, as longer ones are written in texts that the reader may refuse.
-/

set_option autoImplicit false

namespace ApiGateway

open Binary64

/-- Every duration that is received is below a number of seconds. -/
def Timed.ReceivedBelow {E : Type → Type} [Timed E] (n : Nat) (e : E RawDuration) : Prop :=
  ∀ d ∈ durations e, ∀ x, Receivable.receive d = .ok x → x.value.units < n * one

/-- A document of wire texts that is prepared as it is and that can be loaded. -/
structure Settled {E : Type → Type} [Timed E] [ToJson (E DurationText)]
    (prepare : Json → Hydrated (E DurationText)) (load : Json → Hydrated (E Seconds))
    (w : E DurationText) : Prop where
  wireShaped : ∀ t ∈ Timed.durations w, WireShaped t.text
  prepared : prepare (toJson w) = .ok w
  loaded : ∃ e, load (toJson w) = .ok e

namespace Traversed

variable {E : Type → Type} [Traversed E] {w : E DurationText}

theorem isSettled_of_send {e : E RawDuration} (h : traverse sendField .root e = .ok w)
    (short : Timed.ReceivedBelow (2 ^ 34) e) : ∀ t ∈ Timed.durations w, t.IsSettled := by
  have hsend := (send_eq_ok_iff .root e w).1 h
  refine (Timed.forall_converted_iff hsend).2 ?_
  intro d hd t ht
  exact RawDuration.isSettled_of_send ht (short d hd)

variable [Hydrate (E RawDuration)]

/-- An edited document, for storage. -/
def prepare (raw : Json) : Hydrated (E DurationText) := do
  let e : E RawDuration ← hydrate raw .root
  traverse sendField .root e

/-- A stored document, for the editor. -/
def load (raw : Json) : Hydrated (E Seconds) := do
  let e : E RawDuration ← hydrate raw .root
  traverse receiveField .root e

variable [ToJson (E DurationText)]

theorem settled_of_isSettled (fills : FillsIn E DurationText)
    (h : ∀ t ∈ Timed.durations w, t.IsSettled) : Settled prepare load w := by
  have : Nonempty Seconds := ⟨.ofSpan Phrase.nothing⟩
  have hfill := fills (fun t => RawDuration.text t.text) w (fun _ _ => rfl) .root
  constructor
  case wireShaped => exact fun t ht => (h t ht).wireShaped
  case prepared =>
    unfold prepare
    rw [hfill, Except.ok_bind, send_eq_ok_iff, Timed.map_map]
    exact Timed.map_congr fun t ht => (h t ht).again
  case loaded =>
    unfold load
    simp only [hfill, Except.ok_bind, receive_text_eq_ok_iff]
    exact Timed.exists_map_ok_iff.2 fun t ht => (h t ht).received

theorem settled_of_prepare (fills : FillsIn E DurationText) {raw : Json}
    (h : prepare raw = .ok w)
    (short : ∀ e : E RawDuration, hydrate raw .root = .ok e → Timed.ReceivedBelow (2 ^ 34) e) :
    Settled prepare load w := by
  obtain ⟨e, he, hw⟩ := Except.bind_eq_ok_iff.1 h
  exact settled_of_isSettled fills (isSettled_of_send hw (short e he))

end Traversed

theorem prepare_prepare :
    (∀ (raw : Json) (w : Group DurationText), Group.prepare raw = .ok w →
      (∀ g, Group.hydrate raw = .ok g → Timed.ReceivedBelow (2 ^ 34) g) →
      Settled Group.prepare Group.load w) ∧
    ∀ (raw : Json) (w : Definition DurationText), Definition.prepare raw = .ok w →
      (∀ d, Definition.hydrate raw = .ok d → Timed.ReceivedBelow (2 ^ 34) d) →
      Settled Definition.prepare Definition.load w := by
  constructor
  · intro raw w h short
    exact Traversed.settled_of_prepare (fun _ _ => Group.hydrate_toJson) h short
  · intro raw w h short
    exact Traversed.settled_of_prepare (fun _ _ => Definition.hydrate_toJson) h short

namespace Group

/-- A group with one definition that has one backend. -/
def timed {δ : Type} (timeout cacheTtl backend : δ) : Group δ :=
  ⟨"", [(Definition.standard : Definition Seconds).withDurations timeout cacheTtl
    [(Backend.standard : Backend Seconds).withTimeout backend]]⟩

theorem map_timed {α β : Type} (f : α → β) (timeout cacheTtl backend : α) :
    (timed timeout cacheTtl backend).map f = timed (f timeout) (f cacheTtl) (f backend) := rfl

/-- A phrase and a number, and a wire text by default. -/
def spellings : Json := .object [("definitions", .array [.object [
  ("backend", .array [.object [("timeout", .integer 90)]]),
  ("timeout", .string "1h 30m")]])]

def spelled : Group RawDuration :=
  timed (.text "1h 30m") (.text "3600s") (.number (Binary64.ofInt 90))

def received : Group Seconds :=
  timed (.ofSpan (.ofSeconds 5400 (by decide))) (DurationForm.standard .definitionCacheTtl)
    (.ofSpan (.ofSeconds 90 (by decide)))

theorem receive_spelled : spelled.receive = .ok received := by
  have phrase : Receivable.receive (RawDuration.text "1h 30m") =
      .ok (.ofSpan (.ofSeconds 5400 (by decide))) := by decide +kernel
  have text : Receivable.receive (RawDuration.text "3600s") =
      .ok (DurationForm.standard .definitionCacheTtl) := by decide +kernel
  have number : Receivable.receive (RawDuration.number (Binary64.ofInt 90)) =
      .ok (.ofSpan (.ofSeconds 90 (by decide))) := by decide +kernel
  unfold spelled received
  rw [receive_eq_ok_iff, map_timed, map_timed, phrase, text, number]

theorem received_lt {x : Seconds} (hx : x ∈ received.durations) :
    x.value.units < 2 ^ 23 * one := by
  have hlt (n : Nat) (hn : n < UInt64.size) (h : n < 2 ^ 23) :
      (Seconds.ofSpan (.ofSeconds n hn)).value.units < 2 ^ 23 * one := by
    rw [Seconds.units_ofSeconds_of_le hn (Nat.le_trans (Nat.le_of_lt h) (by decide))]
    exact Nat.mul_lt_mul_of_pos_right h Binary64.one_pos
  rcases List.mem_cons.1 hx with rfl | hx
  · exact hlt 5400 _ (by decide)
  rcases List.mem_cons.1 hx with rfl | hx
  · exact hlt 3600 (by decide) (by decide)
  · rw [List.mem_singleton.1 hx]
    exact hlt 90 _ (by decide)

theorem send_spellings :
    Sendable.send (RawDuration.text "1h 30m") = .ok ⟨"90m"⟩ ∧
      Sendable.send (RawDuration.text "3600s") = .ok ⟨"3600s"⟩ ∧
      Sendable.send (RawDuration.number (Binary64.ofInt 90)) = .ok ⟨"90s"⟩ := by
  refine ⟨?_, ?_, ?_⟩ <;> decide +kernel

theorem prepare_spellings : prepare spellings = .ok (timed ⟨"90m"⟩ ⟨"3600s"⟩ ⟨"90s"⟩) := by
  obtain ⟨phrase, text, number⟩ := send_spellings
  show spelled.send = _
  unfold spelled
  rw [send_eq_ok_iff, map_timed, map_timed, phrase, text, number]

theorem prepare_prepare_spellings :
    prepare spellings = .ok (timed ⟨"90m"⟩ ⟨"3600s"⟩ ⟨"90s"⟩) ∧
      Settled prepare load (timed ⟨"90m"⟩ ⟨"3600s"⟩ ⟨"90s"⟩) := by
  have hreceive := (receive_eq_ok_iff spelled received).1 receive_spelled
  have short : Timed.ReceivedBelow (2 ^ 34) spelled :=
    (Timed.forall_converted_iff hreceive).1 fun x hx =>
      Nat.lt_trans (received_lt hx) (Nat.mul_lt_mul_of_pos_right (by decide) Binary64.one_pos)
  refine ⟨prepare_spellings, prepare_prepare.1 _ _ prepare_spellings ?_⟩
  intro g hg
  rw [show hydrate spellings = .ok spelled from rfl] at hg
  cases hg
  exact short

end Group

end ApiGateway
