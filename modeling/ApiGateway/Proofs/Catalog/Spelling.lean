import ApiGateway.Proofs.Catalog.Loading
import ApiGateway.Proofs.Document.Preparing

/-!
# Two ways to store a document

The groups of a document are prepared one by one, or loaded into a catalog that is sent. Below `2²³`
seconds both give the same groups up to the spelling of durations
(`Catalog.exists_storedAlike`).
-/

set_option autoImplicit false

namespace ApiGateway

open Binary64

namespace Group

theorem load_eq_ok_iff {raw : Json} {g : Group Seconds} :
    load raw = .ok g ↔ ∃ r, hydrate raw = .ok r ∧ r.map Receivable.receive = g.map .ok := by
  unfold load
  simp only [Except.bind_eq_ok_iff, receive_eq_ok_iff]

theorem prepare_eq_ok_iff {raw : Json} {g : Group DurationText} :
    prepare raw = .ok g ↔ ∃ r, hydrate raw = .ok r ∧ r.map Sendable.send = g.map .ok := by
  unfold prepare
  simp only [Except.bind_eq_ok_iff, send_eq_ok_iff]

end Group

namespace Catalog

/-- Groups that are filled in and converted one by one make a catalog that is converted. -/
theorem forall₂_iff_exists_hydrate {δ ε : Type} {convert : RawDuration → Except ε δ}
    {read : Json → Hydrated (Group δ)}
    (hread : ∀ item g, read item = .ok g ↔
      ∃ r, Group.hydrate item = .ok r ∧ r.map convert = g.map .ok)
    {items : List Json} {c : Catalog δ} :
    List.Forall₂ (fun item g => read item = .ok g) items c.groups ↔
      ∃ r : Catalog RawDuration,
        List.Forall₂ (fun item g => Group.hydrate item = .ok g) items r.groups ∧
          r.map convert = c.map .ok := by
  simp only [hread, map_eq_map_iff]
  rw [← Indexed.exists_forall₂_and_forall₂_iff]
  constructor
  · rintro ⟨rs, h⟩
    exact ⟨⟨rs⟩, h⟩
  · rintro ⟨r, h⟩
    exact ⟨r.groups, h⟩

/-- Groups that are filled in as `r`, and what both ways of storing them give: prepared one by one
they are the first halves of `p`, and sent from the catalog the second halves. -/
structure StoredAlike (items : List Json) (c : Catalog Seconds) (r : Catalog RawDuration)
    (p : Catalog (DurationText × DurationText)) : Prop where
  filled : List.Forall₂ (fun item g => Group.hydrate item = .ok g) items r.groups
  prepared : List.Forall₂ (fun item g => Group.prepare item = .ok g) items (p.map Prod.fst).groups
  sent : c.send = .ok (p.map Prod.snd)
  alike : Timed.Agrees RawDuration.SpelledAlike r p

theorem exists_storedAlike {items : List Json} {c : Catalog Seconds}
    (loaded : load (.array items) = .ok c)
    (short : ∀ x ∈ c.durations, x.value.units < 2 ^ 23 * one)
    (whole : ∀ item ∈ items, ∀ g, Group.hydrate item = .ok g →
      ∀ d ∈ g.durations, d.IsTextOrWhole) :
    ∃ r p, StoredAlike items c r p := by
  obtain ⟨r, filled, received⟩ := (forall₂_iff_exists_hydrate fun _ _ => Group.load_eq_ok_iff).1
    (((followsGroups items).ok_iff c).1 loaded)
  have short := (Timed.forall_converted_iff received).1 short
  have whole : ∀ d ∈ r.durations, d.IsTextOrWhole := by
    intro d hd
    obtain ⟨g, hg, hd⟩ := List.mem_flatMap.1 hd
    obtain ⟨item, hitem, hfill⟩ := Indexed.exists_of_mem_forall₂ filled hg
    exact whole item hitem g hfill d hd
  have spelled : ∀ d ∈ r.durations, ∃ p : DurationText × DurationText,
      Sendable.send d = .ok p.1 ∧ (∀ x, Receivable.receive d = .ok x → Sendable.send x = .ok p.2) ∧
        d.SpelledAlike p := by
    intro d hd
    obtain ⟨x, hx⟩ := Timed.exists_ok_of_map received hd
    obtain ⟨p, hsend, hwrite, halike⟩ :=
      RawDuration.exists_spelledAlike hx (short d hd x hx) (whole d hd)
    refine ⟨p, hsend, fun y hy => ?_, halike⟩
    rw [hx] at hy
    cases hy
    exact hwrite
  have : Nonempty (DurationText × DurationText) := ⟨⟨""⟩, ⟨""⟩⟩
  choose! spellings hsend hwrite halike using spelled
  refine ⟨r, r.map spellings, filled, ?_, ?_, Timed.agrees_map halike⟩
  · refine (forall₂_iff_exists_hydrate fun _ _ => Group.prepare_eq_ok_iff).2 ⟨r, filled, ?_⟩
    rw [map_map, map_map]
    exact map_congr hsend
  · rw [send_eq_ok_iff, map_map, map_map]
    have : Nonempty (Except DurationError DurationText) := ⟨.ok ⟨""⟩⟩
    exact Timed.map_of_converted received hwrite

theorem exists_storedAlike_spellings :
    load (.array [Group.spellings]) = .ok ⟨[Group.received]⟩ ∧
      ∃ r p, StoredAlike [Group.spellings] ⟨[Group.received]⟩ r p := by
  have hgroup : Group.load Group.spellings = .ok Group.received := Group.receive_spelled
  have loaded : load (.array [Group.spellings]) = .ok ⟨[Group.received]⟩ :=
    ((followsGroups _).ok_iff _).2 (.cons hgroup .nil)
  refine ⟨loaded, exists_storedAlike loaded ?_ ?_⟩
  · intro x hx
    obtain ⟨g, hg, hx⟩ := List.mem_flatMap.1 hx
    rw [List.mem_singleton.1 hg] at hx
    exact Group.received_lt hx
  · intro item hitem g hg d hd
    rw [List.mem_singleton.1 hitem, show Group.hydrate Group.spellings = .ok Group.spelled from rfl]
      at hg
    cases hg
    rcases List.mem_cons.1 hd with rfl | hd
    · exact True.intro
    rcases List.mem_cons.1 hd with rfl | hd
    · exact True.intro
    · rw [List.mem_singleton.1 hd]
      show (Binary64.ofInt 90).units % one = 0
      decide +kernel

end Catalog

end ApiGateway
