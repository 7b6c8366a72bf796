import ApiGateway.Proofs.Catalog.Storage
import ApiGateway.Proofs.Document.Rooted

/-!
# Stored catalogs, group by group

A stored catalog passes the place of each group down to what fills the group in, and tells what the
conversion of its durations reports from that place afterwards. Both come to loading the group by
itself and moving the report (`Catalog.loadGroup_eq`).
-/

set_option autoImplicit false

namespace ApiGateway

/-- What a stored catalog comes to, told from what each of its groups comes to by itself. -/
structure Catalog.FollowsGroups (items : List Json) : Prop where
  exists_iff : (∃ c, load (.array items) = .ok c) ↔ ∀ item ∈ items, ∃ g, Group.load item = .ok g
  ok_iff (c : Catalog Seconds) :
    load (.array items) = .ok c ↔
      List.Forall₂ (fun item g => Group.load item = .ok g) items c.groups
  error_iff (e : CatalogError) (reported : ¬ e.isAbort) :
    load (.array items) = .error e ↔
      ∃ before item after e', items = before ++ item :: after ∧
        (∀ x ∈ before, ∃ g, Group.load x = .ok g) ∧ Group.load item = .error e' ∧
        e = .document (e'.within (FieldPath.root.index before.length))
  /-- No report, but a stop, in the group that is the first not to load. -/
  stops_iff (path : FieldPath) :
    load (.array items) = .error (.document (.duration path .abort)) ↔
      ∃ before item after inner, items = before ++ item :: after ∧
        (∀ x ∈ before, ∃ g, Group.load x = .ok g) ∧
        Group.load item = .error (.duration inner .abort) ∧
        path = (FieldPath.root.index before.length).join inner

namespace Catalog

theorem loadGroup_eq (i : Nat) (item : Json) :
    loadGroup i item = (Group.load item).mapError (·.within (FieldPath.root.index i)) := by
  unfold loadGroup Group.load Group.hydrate
  dsimp only
  rw [Group.rooted_hydrate item (FieldPath.root.index i)]
  cases ApiGateway.hydrate (α := Group RawDuration) item .root with
  | error e => rfl
  | ok g => rfl

def relocate (i : Nat) (e : DocumentError) : DocumentError := e.within (FieldPath.root.index i)

theorem load_array (items : List Json) :
    load (.array items) =
      ((Indexed.each relocate Group.load items).map Catalog.mk).mapError .document := by
  have hpass : loadGroup = fun i item => (Group.load item).mapError (relocate i) :=
    funext fun i => funext (loadGroup_eq i)
  unfold load Indexed.each
  dsimp only
  rw [hpass]
  cases Indexed.traverse (fun i item => (Group.load item).mapError (relocate i)) items with
  | error e => rfl
  | ok groups => rfl

theorem load_array_eq_ok_iff {items : List Json} {c : Catalog Seconds} :
    load (.array items) = .ok c ↔ Indexed.each relocate Group.load items = .ok c.groups := by
  rw [load_array, Except.mapError_eq_ok_iff, Except.map_eq_ok_iff]
  constructor
  · rintro ⟨groups, h, rfl⟩
    exact h
  · intro h
    exact ⟨c.groups, h, rfl⟩

theorem load_array_eq_error_iff {items : List Json} {e : CatalogError} :
    load (.array items) = .error e ↔
      ∃ before item after e', items = before ++ item :: after ∧
        (∀ x ∈ before, ∃ g, Group.load x = .ok g) ∧ Group.load item = .error e' ∧
        e = .document (e'.within (FieldPath.root.index before.length)) := by
  rw [load_array, Except.mapError_eq_error_iff]
  simp only [Except.map_eq_error_iff, Indexed.each_eq_error_iff]
  constructor
  · rintro ⟨_, ⟨before, item, after, e', hsplit, hbefore, hitem, rfl⟩, rfl⟩
    exact ⟨before, item, after, e', hsplit, hbefore, hitem, rfl⟩
  · rintro ⟨before, item, after, e', hsplit, hbefore, hitem, rfl⟩
    exact ⟨_, ⟨before, item, after, e', hsplit, hbefore, hitem, rfl⟩, rfl⟩

theorem followsGroups (items : List Json) : FollowsGroups items where
  exists_iff := by
    rw [← Indexed.exists_each_iff (w := relocate)]
    constructor
    · rintro ⟨c, hc⟩
      exact ⟨c.groups, load_array_eq_ok_iff.1 hc⟩
    · rintro ⟨groups, h⟩
      exact ⟨⟨groups⟩, load_array_eq_ok_iff.2 h⟩
  ok_iff c := by
    rw [load_array_eq_ok_iff, Indexed.each_eq_ok_iff]
  error_iff _ _ := load_array_eq_error_iff
  stops_iff path := by
    rw [load_array_eq_error_iff]
    constructor
    · rintro ⟨before, item, after, e, hsplit, hbefore, hitem, he⟩
      cases e with
      | shape => cases he
      | duration inner cause =>
        cases he
        exact ⟨before, item, after, inner, hsplit, hbefore, hitem, rfl⟩
    · rintro ⟨before, item, after, inner, hsplit, hbefore, hitem, rfl⟩
      exact ⟨before, item, after, .duration inner .abort, hsplit, hbefore, hitem, rfl⟩

end Catalog

theorem rooted_hydrate_and_followsGroups :
    (∀ v, Rooted (hydrate (α := Host) v)) ∧
      (∀ v, Rooted (hydrate (α := HealthCheck RawDuration) v)) ∧
      (∀ v, Rooted (hydrate (α := Backend RawDuration) v)) ∧
      (∀ v, Rooted (hydrate (α := Definition RawDuration) v)) ∧
      (∀ v, Rooted (hydrate (α := Group RawDuration) v)) ∧
      ∀ items, Catalog.FollowsGroups items :=
  ⟨Host.rooted_hydrate, HealthCheck.rooted_hydrate, Backend.rooted_hydrate,
    Definition.rooted_hydrate, Group.rooted_hydrate, Catalog.followsGroups⟩

end ApiGateway
