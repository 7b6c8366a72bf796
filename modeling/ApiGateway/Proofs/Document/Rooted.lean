import ApiGateway.Proofs.Document.FirstFault
import ApiGateway.Proofs.Document.Places

/-!
# Reports from further up

Filling in an entity that lies in a document, or converting its durations there, comes to the same
as at the root, but for the place in the report (`Shape.Outcome.rooted`, `Placed.rooted_traverse`).
The first reports shapes only and the second durations only.
-/

set_option autoImplicit false

namespace ApiGateway

open FieldPath (Step)

variable {α β : Type}

/-- The report is the one that is made at the root, told from the base. -/
def Rooted (read : FieldPath → Hydrated α) : Prop :=
  ∀ base, read base = (read .root).mapError (·.within base)

/-! ## Filling in -/

namespace Shape.Outcome

variable {s : Shape} {v : Json} {read : FieldPath → Hydrated α}

theorem rooted (h : s.Outcome v read) (hs : s.legible) : Rooted read := by
  intro base
  cases h with
  | filled _ a hread =>
    rw [hread, hread]
    rfl
  | @failed bad found steps fault hread =>
    have hpath : base.join (FieldPath.root.walk steps) = base.walk steps := by
      cases steps with
      | nil => exact FieldPath.join_root base
      | cons t steps => exact FieldPath.join_walk base (fault.legible hs).starts steps
    rw [hread, hread, ← hpath]
    rfl

theorem isShape_of_error (h : s.Outcome v read) {path : FieldPath} {e : DocumentError}
    (he : read path = .error e) : e.isShape = true := by
  cases h with
  | filled _ a hread => cases (hread path).symm.trans he
  | failed _ hread =>
    cases (hread path).symm.trans he
    rfl

end Shape.Outcome

theorem Host.rooted_hydrate (v : Json) : Rooted (hydrate (α := Host) v) :=
  (Host.outcome_hydrate v).rooted Host.legible_shape

theorem HealthCheck.rooted_hydrate (v : Json) :
    Rooted (hydrate (α := HealthCheck RawDuration) v) :=
  (HealthCheck.outcome_hydrate v).rooted HealthCheck.legible_shape

theorem Backend.rooted_hydrate (v : Json) : Rooted (hydrate (α := Backend RawDuration) v) :=
  (Backend.outcome_hydrate v).rooted Backend.legible_shape

theorem Definition.rooted_hydrate (v : Json) :
    Rooted (ApiGateway.hydrate (α := Definition RawDuration) v) :=
  (Definition.outcome_hydrate v).rooted Definition.legible_shape

theorem Group.rooted_hydrate (v : Json) :
    Rooted (ApiGateway.hydrate (α := Group RawDuration) v) :=
  (Group.outcome_hydrate v).rooted Group.legible_shape

/-! ## Converting -/

section

variable (convert : α → Except DurationError β)

/-- A conversion that reports where it fails. -/
def convertField (path : FieldPath) (x : α) : Hydrated β := (convert x).mapError (.duration path)

theorem firstFailure?_within (base : FieldPath) {places : List (List Step × α)}
    (h : ∀ p ∈ places, ∃ s steps, p.1 = s :: steps ∧ s.Starts) :
    firstFailure? (convertField convert) base places =
      (firstFailure? (convertField convert) .root places).map (·.within base) := by
  induction places with
  | nil => rfl
  | cons p places ih =>
    obtain ⟨⟨s, steps, hp, hs⟩, hrest⟩ := List.forall_mem_cons.1 h
    obtain ⟨_, x⟩ := p
    cases hp
    rw [firstFailure?_cons, firstFailure?_cons, ih hrest, Option.map_or]
    unfold convertField
    rw [Except.failure?_mapError, Except.failure?_mapError, Option.map_map,
      ← FieldPath.join_walk base hs]
    rfl

variable {E : Type → Type} [Placed E] (e : E α)

theorem Placed.rooted_traverse :
    Rooted fun path => Traversed.traverse (convertField convert) path e := by
  intro base
  have hf (path : FieldPath) (x : α) (y : β) :
      convertField convert path x = .ok y ↔ convert x = .ok y := Except.mapError_eq_ok_iff
  dsimp only
  cases h : Traversed.traverse (convertField convert) .root e with
  | ok e' =>
    rw [Traversed.traverse_eq_ok_iff hf] at h
    exact (Traversed.traverse_eq_ok_iff hf base e e').2 h
  | error err =>
    rw [← Except.failure?_eq_some_iff, Placed.failure?_traverse] at h
    show _ = Except.error (err.within base)
    rw [← Except.failure?_eq_some_iff, Placed.failure?_traverse,
      firstFailure?_within convert base fun p hp => Placed.starts hp, h]
    rfl

/-- A pass gives an entity if every duration is converted. -/
theorem Placed.exists_traverse_iff {path : FieldPath} :
    (∃ e', Traversed.traverse (convertField convert) path e = .ok e') ↔
      ∀ p ∈ Placed.places e, ∃ y, convert p.2 = .ok y := by
  rw [← Except.failure?_eq_none_iff, Placed.failure?_traverse]
  unfold firstFailure? convertField
  simp only [List.findSome?_eq_none_iff, Except.failure?_eq_none_iff, Except.mapError_eq_ok_iff]

/-- A pass fails with the first duration that is not converted. -/
theorem Placed.traverse_eq_error_iff {path : FieldPath} {err : DocumentError} :
    Traversed.traverse (convertField convert) path e = .error err ↔
      ∃ before steps x after cause, Placed.places e = before ++ (steps, x) :: after ∧
        (∀ p ∈ before, ∃ y, convert p.2 = .ok y) ∧ convert x = .error cause ∧
        err = .duration (path.walk steps) cause := by
  rw [← Except.failure?_eq_some_iff, Placed.failure?_traverse]
  unfold firstFailure? convertField
  rw [List.findSome?_eq_some_iff]
  simp only [Except.failure?_eq_some_iff, Except.failure?_eq_none_iff, Except.mapError_eq_ok_iff,
    Except.mapError_eq_error_iff]
  constructor
  · rintro ⟨before, ⟨steps, x⟩, after, hsplit, ⟨cause, hcause, rfl⟩, hbefore⟩
    exact ⟨before, steps, x, after, cause, hsplit, hbefore, hcause, rfl⟩
  · rintro ⟨before, steps, x, after, cause, hsplit, hbefore, hcause, rfl⟩
    exact ⟨before, (steps, x), after, hsplit, ⟨cause, hcause, rfl⟩, hbefore⟩

variable {convert e} in
theorem Placed.isShape_of_traverse {path : FieldPath} {err : DocumentError}
    (h : Traversed.traverse (convertField convert) path e = .error err) :
    err.isShape = false := by
  obtain ⟨before, steps, x, after, cause, -, -, -, rfl⟩ :=
    (Placed.traverse_eq_error_iff convert e).1 h
  rfl

end

end ApiGateway
