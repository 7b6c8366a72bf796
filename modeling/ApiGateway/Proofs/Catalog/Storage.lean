import ApiGateway.Catalog.Storage
import ApiGateway.Proofs.Document.RoundTrip
import Mathlib.Data.List.Forall2

/-!
# Edited catalogs survive storage

A catalog that is sent and loaded again is the same catalog, with durations compared as doubles
are (`Catalog.load_send`). Its durations may come from spans or be whole numbers of seconds, as
everything an editor offers does.
-/

set_option autoImplicit false

namespace ApiGateway

open Binary64

/-- A number of seconds made from a span below `2³⁴` seconds, or a whole one below `2⁶⁴`. -/
def Seconds.IsStorable (x : Seconds) : Prop :=
  (∃ s : Span, s.secs < 2 ^ 34 ∧ x = ofSpan s) ∨
    x.IsWhole ∧ x.value.units < UInt64.size * one

theorem Seconds.IsStorable.isKept {x : Seconds} (h : x.IsStorable) : x.IsKept := by
  rcases h with ⟨s, hs, rfl⟩ | ⟨hw, hx⟩
  · exact isKept_ofSpan hs
  · exact isKept_of_isWhole hw hx

theorem Catalog.loadGroup_toJson {g : Group Seconds} {span : Seconds → Span}
    (h : ∀ x ∈ g.durations, (span x).IsReadable) (i : Nat) :
    loadGroup i (toJson (g.map fun x => Duration.ofSpan (span x))) =
      .ok (g.map fun x => Seconds.ofSpan (span x)) := by
  have hreceive : (g.map fun x => Duration.ofSpan (span x)).map Receivable.receive =
      (g.map fun x => Seconds.ofSpan (span x)).map .ok := by
    rw [Group.map_map, Group.map_map]
    apply Group.map_congr
    intro x hx
    rw [Function.comp_apply, Function.comp_apply]
    exact Duration.read_text .standard (h x hx)
  obtain ⟨r, hr, hg⟩ := Group.receive_hydrate_toJson hreceive (FieldPath.root.index i)
  unfold loadGroup
  dsimp only
  rw [hr, Except.ok_bind, hg]
  rfl

namespace Catalog

/-- The same catalog up to its durations, and these equal as doubles. -/
def Equal (c c' : Catalog Seconds) : Prop :=
  c.map (fun _ => ()) = c'.map (fun _ => ()) ∧
    List.Forall₂ Seconds.Equal c.durations c'.durations

theorem load_send (c : Catalog Seconds) (h : ∀ x ∈ c.durations, x.IsStorable) :
    ∃ w c', c.send = .ok w ∧ load (.array (w.groups.map toJson)) = .ok c' ∧ c'.Equal c := by
  have : Nonempty Span := ⟨.ofSeconds 0 (by decide)⟩
  -- The span of every duration is what its text is written from and what it is read back as.
  choose! span hspan hreadable hequal using fun x hx => (h x hx).isKept
  refine ⟨c.map fun x => Duration.ofSpan (span x), c.map fun x => Seconds.ofSpan (span x),
    ?_, ?_, ?_, ?_⟩
  · rw [send_eq_ok_iff, map_map]
    apply map_congr
    intro x hx
    exact Duration.write_of_toSpan? (hspan x hx)
  · have hload : Indexed.traverse loadGroup (c.groups.map fun g =>
        toJson (g.map fun x => Duration.ofSpan (span x))) =
          .ok (c.groups.map fun g => g.map fun x => Seconds.ofSpan (span x)) :=
      Indexed.traverse_map_eq_ok fun i g hg =>
        loadGroup_toJson (fun x hx => hreadable x (List.mem_flatMap.2 ⟨g, hg, hx⟩)) i
    unfold load map
    dsimp only
    rw [List.map_map, Function.comp_def, hload]
  · rw [map_map, Function.comp_def]
  · rw [durations_map, List.forall₂_map_left_iff, List.forall₂_same]
    exact hequal

/-- Minus zero, a nanosecond that no double can tell, and whole seconds beyond `2³⁴`. -/
def sample : Catalog Seconds :=
  ⟨[⟨"", []⟩, ⟨"users", [{ (Definition.standard : Definition Seconds) with
    timeout := ⟨.finite true 0 fits_zero, rfl, rfl⟩
    cacheTtl := .ofSpan ⟨2 ^ 33 * nanosPerSecond + 1, by decide⟩
    backends := [{ (Backend.standard : Backend Seconds) with
      timeout := .ofSpan (.ofSeconds (2 ^ 40) (by decide)) }] }]⟩]⟩

theorem load_send_sample : (∀ x ∈ sample.durations, x.IsStorable) ∧
    ∃ w c', sample.send = .ok w ∧ load (.array (w.groups.map toJson)) = .ok c' ∧
      c'.Equal sample := by
  have h : ∀ x ∈ sample.durations, x.IsStorable := by
    intro x hx
    rcases List.mem_cons.1 hx with rfl | hx
    · exact Or.inr ⟨Nat.zero_mod _, Nat.mul_pos (by decide) Binary64.one_pos⟩
    rcases List.mem_cons.1 hx with rfl | hx
    · exact Or.inl ⟨_, by decide, rfl⟩
    · have hu := Seconds.units_ofSeconds_of_le (n := 2 ^ 40) (by decide) (by decide)
      rw [List.mem_singleton.1 hx]
      refine Or.inr ⟨?_, ?_⟩
      · unfold Seconds.IsWhole
        rw [hu]
        exact Nat.mul_mod_left _ _
      · rw [hu]
        exact Nat.mul_lt_mul_of_pos_right (by decide) Binary64.one_pos
  exact ⟨h, load_send sample h⟩

end Catalog

end ApiGateway
