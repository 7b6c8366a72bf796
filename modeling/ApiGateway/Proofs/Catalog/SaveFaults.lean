import ApiGateway.Proofs.Catalog.Saving
import ApiGateway.Proofs.Document.Conversion

/-!
# Catalogs that cannot be saved

A catalog is saved group by group, and the first duration of `2⁶⁴` seconds or more ends it. The
report tells the place of this duration inside its group and not the group, so fields of different
groups can have the same report (`Catalog.reportsInGroups`).
-/

set_option autoImplicit false

namespace ApiGateway

open FieldPath (Step Legible)

namespace Catalog

variable {δ : Type}

/-- The places of all durations: the position of the group, then the steps inside it. -/
def places (c : Catalog δ) : List (List Step × δ) :=
  c.groups.zipIdx.flatMap fun x => x.1.places.map fun p => (.index x.2 :: p.1, p.2)

theorem mem_places_iff {c : Catalog δ} {p : List Step × δ} :
    p ∈ c.places ↔ ∃ i g steps x, c.groups[i]? = some g ∧ (steps, x) ∈ g.places ∧
      p = (.index i :: steps, x) := by
  unfold places
  simp only [List.mem_flatMap, List.mem_map]
  constructor
  · rintro ⟨⟨g, i⟩, hg, ⟨steps, x⟩, hp, rfl⟩
    exact ⟨i, g, steps, x, List.mem_zipIdx_iff_getElem?.1 hg, hp, rfl⟩
  · rintro ⟨i, g, steps, x, hg, hp, rfl⟩
    exact ⟨(g, i), List.mem_zipIdx_iff_getElem?.2 hg, (steps, x), hp, rfl⟩

theorem legible_places (c : Catalog δ) : ∀ p ∈ c.places, Legible p.1 := by
  intro p hp
  obtain ⟨i, g, steps, x, -, hg, rfl⟩ := mem_places_iff.1 hp
  exact .index i (g.legible_places _ hg)

theorem nodup_places (c : Catalog δ) : (c.places.map Prod.fst).Nodup := by
  refine nodup_flatMap_zipIdx (fun i steps => .index i :: steps) ?_ Group.nodup_places c.groups
  intro i j steps steps' e
  cases e
  exact ⟨rfl, rfl⟩

section

variable {c : Catalog δ} {i : Nat} {steps : List Step} {x : δ}
  (h : (.index i :: steps, x) ∈ c.places)
include h

theorem legible_of_mem_places : Legible steps := by
  cases c.legible_places _ h with
  | index _ hsteps => exact hsteps

/-- Inside its group, every duration lies in a definition. -/
theorem definitions_of_mem_places : ∃ rest, steps = .field "definitions" :: rest := by
  obtain ⟨j, g, steps, x, -, hg, e⟩ := mem_places_iff.1 h
  cases e
  obtain ⟨d, -, hd⟩ := List.mem_flatMap.1 hg
  obtain ⟨p, -, e⟩ := List.mem_map.1 hd
  cases e
  exact ⟨_, rfl⟩

end

/-- The first failure of a conversion that tells the places inside the groups. -/
theorem failure?_send [Sendable δ] (c : Catalog δ) :
    Except.failure? c.send = (c.places.findSome? fun p =>
      Except.failure? (sendField (FieldPath.root.walk p.1.tail) p.2)).map .document := by
  have hgroups : Except.failure? (Indexed.traverse (fun _ g => g.send) c.groups) =
      c.places.findSome? fun p =>
        Except.failure? (sendField (FieldPath.root.walk p.1.tail) p.2) := by
    have hgroup (x : Group δ × Nat) : Except.failure? x.1.send =
        (x.1.places.map fun p => (Step.index x.2 :: p.1, p.2)).findSome? fun p =>
          Except.failure? (sendField (FieldPath.root.walk p.1.tail) p.2) := by
      unfold Group.send
      rw [Group.failure?_traverse, List.findSome?_map]
      rfl
    rw [Indexed.failure?_traverse, funext hgroup]
    exact (findSome?_flatMap ..).symm
  rw [← hgroups]
  unfold send
  cases Indexed.traverse (fun _ g => g.send) c.groups <;> rfl

/-- The first duration of `2⁶⁴` seconds or more lies in the `i`-th group, and the steps lead to it
from there. -/
def FirstLong (c : Catalog Seconds) (i : Nat) (steps : List Step) (x : Seconds) : Prop :=
  ∃ before after, c.places = before ++ (.index i :: steps, x) :: after ∧
    (∀ p ∈ before, p.2.value.units < UInt64.size * Binary64.one) ∧
    UInt64.size * Binary64.one ≤ x.value.units

theorem send_eq_error_iff (c : Catalog Seconds) (e : CatalogError) :
    c.send = .error e ↔ ∃ i steps x, c.FirstLong i steps x ∧
      e = .document (.duration (FieldPath.root.walk steps) (.outOfRange x.value)) := by
  rw [← Except.failure?_eq_some_iff, failure?_send, Option.map_eq_some_iff]
  simp only [List.findSome?_eq_some_iff, Except.failure?_eq_some_iff, Except.failure?_eq_none_iff]
  unfold sendField
  simp only [Except.mapError_eq_ok_iff, Except.mapError_eq_error_iff, Seconds.exists_send_iff,
    Seconds.send_eq_error_iff]
  constructor
  · rintro ⟨_, ⟨before, p, after, hsplit, ⟨_, ⟨hlong, rfl⟩, rfl⟩, hbefore⟩, rfl⟩
    have hp : p ∈ c.places := hsplit ▸ List.mem_append_right _ List.mem_cons_self
    obtain ⟨i, g, steps, x, -, -, rfl⟩ := mem_places_iff.1 hp
    exact ⟨i, steps, x, ⟨before, after, hsplit, hbefore, hlong⟩, rfl⟩
  · rintro ⟨i, steps, x, ⟨before, after, hsplit, hbefore, hlong⟩, rfl⟩
    exact ⟨_, ⟨before, _, after, hsplit, ⟨_, ⟨hlong, rfl⟩, rfl⟩, hbefore⟩, rfl⟩

/-- A report of what cannot be saved tells a place inside a group. -/
structure ReportsInGroups (c : Catalog Seconds) : Prop where
  error_iff (e : CatalogError) :
    c.send = .error e ↔ ∃ i steps x, c.FirstLong i steps x ∧
      e = .document (.duration (FieldPath.root.walk steps) (.outOfRange x.value))
  /-- With the position of the group in front, the path would be that of one place. -/
  join {i : Nat} {steps : List Step} {x : Seconds} (h : (.index i :: steps, x) ∈ c.places) :
    (FieldPath.root.index i).join (FieldPath.root.walk steps) =
      FieldPath.root.walk (.index i :: steps)
  nodup_paths : (c.places.map fun p => (FieldPath.root.walk p.1).text).Nodup
  /-- As it is reported, it is the path of none. -/
  walk_ne {i : Nat} {steps : List Step} {x : Seconds} (h : (.index i :: steps, x) ∈ c.places)
      {p : List Step × Seconds} (hp : p ∈ c.places) :
    FieldPath.root.walk steps ≠ FieldPath.root.walk p.1
  /-- Seen from inside the groups, it is that of one place if no other group has a place there. -/
  determined_iff {i : Nat} {steps : List Step} {x : Seconds}
      (h : (.index i :: steps, x) ∈ c.places) :
    (∀ p ∈ c.places, FieldPath.root.walk p.1.tail = FieldPath.root.walk steps →
        p = (.index i :: steps, x)) ↔
      ∀ j y, (.index j :: steps, y) ∈ c.places → j = i

theorem reportsInGroups (c : Catalog Seconds) : c.ReportsInGroups := by
  constructor
  case error_iff => exact c.send_eq_error_iff
  case join =>
    intro i steps x h
    obtain ⟨rest, rfl⟩ := definitions_of_mem_places h
    exact FieldPath.join_walk _ (legible_of_mem_places h).starts rest
  case nodup_paths => exact nodup_paths c.legible_places c.nodup_places
  case walk_ne =>
    intro i steps x h p hp e
    have hsteps :=
      FieldPath.eq_of_walk_eq (legible_of_mem_places h) (c.legible_places p hp) e
    obtain ⟨rest, rfl⟩ := definitions_of_mem_places h
    obtain ⟨j, g, steps, y, -, -, rfl⟩ := mem_places_iff.1 hp
    cases hsteps
  case determined_iff =>
    intro i steps x h
    constructor
    · intro hall j y hy
      have he := hall _ hy rfl
      cases he
      rfl
    · intro hone p hp e
      obtain ⟨j, g, steps', y, -, -, rfl⟩ := mem_places_iff.1 hp
      have hsteps : steps' = steps :=
        FieldPath.eq_of_walk_eq (legible_of_mem_places hp) (legible_of_mem_places h) e
      subst hsteps
      obtain rfl := hone j y hp
      exact List.inj_on_of_nodup_map c.nodup_places hp h rfl

/-- The first group can be saved, the second cannot. -/
def behind : Catalog Seconds :=
  ⟨[Group.lasting (.ofSpan longFraction), Group.lasting (.ofSpan longest)]⟩

def ahead : Catalog Seconds := ⟨behind.groups.reverse⟩

/-- The two catalogs fail in different groups, with one report and a path of no place. -/
theorem send_behind_and_ahead :
    behind.send = .error (.document
      (.duration ⟨"definitions[0].timeout"⟩ (.outOfRange (Seconds.ofSpan longest).value))) ∧
    ahead.send = .error (.document
      (.duration ⟨"definitions[0].timeout"⟩ (.outOfRange (Seconds.ofSpan longest).value))) ∧
    ∀ p ∈ behind.places, FieldPath.root.walk p.1 ≠ ⟨"definitions[0].timeout"⟩ := by
  have hshort : (Seconds.ofSpan longFraction).value.units < UInt64.size * Binary64.one :=
    Seconds.units_ofSpan_lt_iff.2 (by decide)
  have hlong : UInt64.size * Binary64.one ≤ (Seconds.ofSpan longest).value.units := by
    rw [← Nat.not_lt, Seconds.units_ofSpan_lt_iff]
    decide
  have hpaths : behind.places.map (fun p => FieldPath.root.walk p.1) = [
      ⟨"[0].definitions[0].timeout"⟩, ⟨"[0].definitions[0].cache_ttl"⟩,
      ⟨"[1].definitions[0].timeout"⟩, ⟨"[1].definitions[0].cache_ttl"⟩] := rfl
  refine ⟨?_, ?_, ?_⟩
  · rw [send_eq_error_iff]
    refine ⟨1, _, _, ⟨[_, _], [_], rfl, ?_, hlong⟩, rfl⟩
    exact List.forall_mem_cons.2 ⟨hshort, List.forall_mem_singleton.2 hshort⟩
  · rw [send_eq_error_iff]
    exact ⟨0, _, _, ⟨[], [_, _, _], rfl, List.forall_mem_nil _, hlong⟩, rfl⟩
  · intro p hp he
    have hmem : ⟨"definitions[0].timeout"⟩ ∈ behind.places.map fun p => FieldPath.root.walk p.1 :=
      List.mem_map.2 ⟨p, hp, he⟩
    rw [hpaths] at hmem
    revert hmem
    decide

end Catalog

end ApiGateway
