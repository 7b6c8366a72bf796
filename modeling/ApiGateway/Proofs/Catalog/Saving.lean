import ApiGateway.Proofs.Catalog.Storage
import ApiGateway.Proofs.Document.Reloading
import ApiGateway.Proofs.Duration.BareNumber

/-!
# Loaded catalogs that can be saved

Every duration that is received is a double, and it can be sent if it is below `2⁶⁴` seconds.
Whether it is can be told from the way the stored catalog spells it (`RawDuration.IsShort`), so it
can be told from a stored catalog whether it is saved again (`Catalog.send_load_iff`).
-/

set_option autoImplicit false

namespace ApiGateway

open Binary64 Duration

namespace RawDuration

/-- A bare number below `2⁶⁴`, or a phrase of fewer than `2⁶⁴ - 1024` whole seconds. -/
def IsShort : RawDuration → Prop
  | number v => v.units < UInt64.size * one
  | text s =>
    match Binary64.ofText? (Text.trim s.toList) with
    | some v => v.units < UInt64.size * one
    | none => ∀ span, Phrase.read (Text.trim s.toList) = .ok span → span.secs < UInt64.size - 1024

theorem receive_lt_iff {d : RawDuration} {x : Seconds} (h : Receivable.receive d = .ok x) :
    x.value.units < UInt64.size * one ↔ d.IsShort := by
  cases d with
  | number v => exact ofNumber_lt_pow_iff h 64
  | text s =>
    unfold IsShort
    rcases read_cases h with ⟨v, hv, hx⟩ | ⟨hv, span, hspan, rfl⟩
    · simp only [hv]
      exact ofNumber_lt_pow_iff hx 64
    · simp only [hv, hspan, Except.ok.injEq, forall_eq']
      exact Seconds.units_ofSpan_lt_iff

end RawDuration

namespace Catalog

theorem loadGroup_eq_ok_iff {i : Nat} {item : Json} {g : Group Seconds} :
    loadGroup i item = .ok g ↔ ∃ r : Group RawDuration,
      ApiGateway.hydrate item (FieldPath.root.index i) = .ok r ∧
        r.map Receivable.receive = g.map .ok := by
  unfold loadGroup
  dsimp only
  rw [Except.bind_eq_ok_iff]
  simp only [Except.mapError_eq_ok_iff, Group.receive_eq_ok_iff]

/-- The groups that a stored catalog fills in. -/
theorem exists_hydrate_of_load {raw : Json} {c : Catalog Seconds} (h : load raw = .ok c) :
    ∃ (items : List Json) (r : Catalog RawDuration), raw = .array items ∧
      Indexed.traverse (fun i item => ApiGateway.hydrate item (FieldPath.root.index i)) items =
        .ok r.groups ∧ r.map Receivable.receive = c.map .ok := by
  unfold load at h
  split at h
  · rename_i items
    split at h
    · rename_i groups hgroups
      cases h
      obtain ⟨rs, hrs, hm⟩ := (Indexed.traverse_eq_ok_iff_exists
        (fun i item g => loadGroup_eq_ok_iff) items groups).1 hgroups
      refine ⟨items, ⟨rs⟩, rfl, hrs, ?_⟩
      unfold map
      rw [hm]
    · cases h
  · cases h

theorem exists_send_iff (c : Catalog Seconds) :
    (∃ w, c.send = .ok w) ↔ ∀ x ∈ c.durations, x.value.units < UInt64.size * one := by
  have : Nonempty DurationText := ⟨⟨""⟩⟩
  simp only [send_eq_ok_iff]
  have h : (∃ w : Catalog DurationText, c.map Sendable.send = w.map .ok) ↔
      ∀ x ∈ c.durations, ∃ t, Sendable.send x = .ok t := Timed.exists_map_ok_iff
  rw [h]
  simp only [Seconds.exists_send_iff]

theorem send_load_iff {raw : Json} {c : Catalog Seconds} (h : load raw = .ok c) :
    ∃ (items : List Json) (r : Catalog RawDuration), raw = .array items ∧
      Indexed.traverse (fun i item => ApiGateway.hydrate item (FieldPath.root.index i)) items =
        .ok r.groups ∧ ((∃ w, c.send = .ok w) ↔ ∀ d ∈ r.durations, d.IsShort) := by
  obtain ⟨items, r, hraw, hr, hm⟩ := exists_hydrate_of_load h
  refine ⟨items, r, hraw, hr, ?_⟩
  rw [exists_send_iff]
  exact Timed.forall_durations_iff hm fun d x hx => RawDuration.receive_lt_iff hx

/-- The longest whole seconds. -/
def longest : Span := .ofSeconds (UInt64.size - 1) (by decide)

theorem load_lasting {s : Span} (h : s.IsReadable) :
    load (.array [toJson (Group.lasting (Duration.ofSpan s))]) =
      .ok ⟨[Group.lasting (Seconds.ofSpan s)]⟩ := by
  have hg : loadGroup 0 (toJson (Group.lasting (Duration.ofSpan s))) =
      .ok (Group.lasting (Seconds.ofSpan s)) :=
    loadGroup_toJson (g := Group.lasting (Seconds.ofSpan s)) (fun _ _ => h) 0
  unfold load
  dsimp only [Indexed.traverse, Indexed.traverseFrom]
  rw [hg]
  rfl

theorem isReadable_longest : longest.IsReadable := Or.inl (Nat.mul_mod_left _ _)

theorem send_load_iff_longest :
    load (.array [toJson (Group.lasting (Duration.ofSpan longest))]) =
        .ok ⟨[Group.lasting (Seconds.ofSpan longest)]⟩ ∧
      ∃ (items : List Json) (r : Catalog RawDuration),
        Json.array [toJson (Group.lasting (Duration.ofSpan longest))] = .array items ∧
        Indexed.traverse (fun i item => ApiGateway.hydrate item (FieldPath.root.index i)) items =
          .ok r.groups ∧
        ((∃ w, Catalog.send ⟨[Group.lasting (Seconds.ofSpan longest)]⟩ = .ok w) ↔
          ∀ d ∈ r.durations, d.IsShort) := by
  have h := load_lasting isReadable_longest
  exact ⟨h, send_load_iff h⟩

theorem not_send_load_longest :
    ∃ c, load (.array [toJson (Group.lasting (Duration.ofSpan longest))]) = .ok c ∧
      ¬ ∃ w, c.send = .ok w := by
  refine ⟨_, load_lasting isReadable_longest, ?_⟩
  rw [exists_send_iff]
  intro h
  have hlast : Seconds.ofSpan longest ∈ durations ⟨[Group.lasting (Seconds.ofSpan longest)]⟩ :=
    List.mem_flatMap.2 ⟨_, List.mem_cons_self, Group.mem_durations_lasting.2 rfl⟩
  have hsecs := Seconds.units_ofSpan_lt_iff.1 (h _ hlast)
  revert hsecs
  decide

end Catalog

end ApiGateway
