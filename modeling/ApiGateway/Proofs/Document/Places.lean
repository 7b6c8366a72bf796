import ApiGateway.Proofs.Document.Passes
import ApiGateway.Proofs.FieldPath

/-!
# Where durations lie

The steps that lead to each duration of an entity, in the order in which a pass comes to them. A
pass fails at the first duration that cannot be converted (`Placed.failure?_traverse`).
-/

set_option autoImplicit false

namespace ApiGateway

open FieldPath (Step)

section

variable {α β γ ε : Type}

/-- The places in every item of a list, seen from the entity whose field it is. -/
def placesIn (key : String) (places : γ → List (List Step × α)) (items : List γ) :
    List (List Step × α) :=
  items.zipIdx.flatMap fun x =>
    (places x.1).map fun p => (.field key :: .index x.2 :: p.1, p.2)

/-- The first failure of a conversion at the places of an entity that lies at `path`. -/
def firstFailure? (f : FieldPath → α → Except ε β) (path : FieldPath)
    (places : List (List Step × α)) : Option ε :=
  places.findSome? fun p => Except.failure? (f (path.walk p.1) p.2)

variable {f : FieldPath → α → Except ε β} {path : FieldPath}

theorem firstFailure?_cons (steps : List Step) (x : α) (places : List (List Step × α)) :
    firstFailure? f path ((steps, x) :: places) =
      (Except.failure? (f (path.walk steps) x)).or (firstFailure? f path places) := by
  unfold firstFailure?
  rw [List.findSome?_cons]
  cases Except.failure? (f (path.walk steps) x) <;> rfl

theorem firstFailure?_nil : firstFailure? f path [] = none := rfl

theorem findSome?_flatMap (xs : List γ) (g : γ → List α) (p : α → Option β) :
    (xs.flatMap g).findSome? p = xs.findSome? fun x => (g x).findSome? p := by
  induction xs with
  | nil => rfl
  | cons x xs ih =>
    rw [List.flatMap_cons, List.findSome?_append, List.findSome?_cons, ih]
    cases (g x).findSome? p <;> rfl

/-- The first failure in the items of a list is the first failure of the pass over the list. -/
theorem firstFailure?_placesIn {δ : Type} {places : γ → List (List Step × α)}
    {pass : FieldPath → γ → Except ε δ}
    (h : ∀ path x, Except.failure? (pass path x) = firstFailure? f path (places x))
    (path : FieldPath) (key : String) (items : List γ) :
    Except.failure? (Indexed.traverse (fun i x => pass ((path.field key).index i) x) items) =
      firstFailure? f path (placesIn key places items) := by
  have hitem (x : γ × Nat) : Except.failure? (pass ((path.field key).index x.2) x.1) =
      firstFailure? f path ((places x.1).map fun p => (.field key :: .index x.2 :: p.1, p.2)) := by
    unfold firstFailure?
    rw [h, List.findSome?_map]
    rfl
  rw [Indexed.failure?_traverse, funext hitem]
  exact (findSome?_flatMap ..).symm

end

/-! ## Entities -/

section

variable {α : Type}

def HealthCheck.places (h : HealthCheck α) : List (List Step × α) :=
  [([.field "timeout"], h.timeout)]

def Backend.places (b : Backend α) : List (List Step × α) := [([.field "timeout"], b.timeout)]

def Definition.places (d : Definition α) : List (List Step × α) :=
  ([.field "timeout"], d.timeout) :: ([.field "cache_ttl"], d.cacheTtl) ::
    placesIn "backend" Backend.places d.backends

def Group.places (g : Group α) : List (List Step × α) :=
  placesIn "definitions" Definition.places g.definitions

end

section

variable {α β ε : Type} (f : FieldPath → α → Except ε β) (path : FieldPath)

theorem HealthCheck.failure?_traverse (h : HealthCheck α) :
    Except.failure? (h.traverse f path) = firstFailure? f path h.places := by
  unfold traverse places
  rw [Except.failure?_bind_ok, firstFailure?_cons, firstFailure?_nil, Option.or_none]
  rfl

theorem Backend.failure?_traverse (b : Backend α) :
    Except.failure? (b.traverse f path) = firstFailure? f path b.places := by
  unfold traverse places
  rw [Except.failure?_bind_ok, firstFailure?_cons, firstFailure?_nil, Option.or_none]
  rfl

theorem Definition.failure?_traverse (d : Definition α) :
    Except.failure? (d.traverse f path) = firstFailure? f path d.places := by
  have hbackends :=
    firstFailure?_placesIn (Backend.failure?_traverse f) path "backend" d.backends
  unfold traverse places
  rw [firstFailure?_cons, firstFailure?_cons, ← hbackends]
  refine Except.failure?_bind fun timeout => ?_
  refine Except.failure?_bind fun cacheTtl => ?_
  exact Except.failure?_bind_ok _ _

theorem Group.failure?_traverse (g : Group α) :
    Except.failure? (g.traverse f path) = firstFailure? f path g.places := by
  have hdefinitions :=
    firstFailure?_placesIn (Definition.failure?_traverse f) path "definitions" g.definitions
  unfold traverse places
  rw [← hdefinitions]
  exact Except.failure?_bind_ok _ _

end

/-- A type of entities whose durations have places. -/
class Placed (E : Type → Type) extends Traversed E where
  places {α : Type} (e : E α) : List (List Step × α)
  /-- Every duration lies in a field, or below it. -/
  starts {α : Type} {e : E α} {p : List Step × α} (h : p ∈ places e) :
    ∃ s steps, p.1 = s :: steps ∧ s.Starts
  failure?_traverse {α β ε : Type} (f : FieldPath → α → Except ε β) (path : FieldPath) (e : E α) :
    Except.failure? (traverse f path e) = firstFailure? f path (places e)

theorem starts_of_mem_placesIn {α γ : Type} {key : String} (h : (Step.field key).Starts)
    {places : γ → List (List Step × α)} {items : List γ} {p : List Step × α}
    (hp : p ∈ placesIn key places items) : ∃ s steps, p.1 = s :: steps ∧ s.Starts := by
  obtain ⟨x, -, hx⟩ := List.mem_flatMap.1 hp
  obtain ⟨q, -, rfl⟩ := List.mem_map.1 hx
  exact ⟨_, _, rfl, h⟩

instance : Placed HealthCheck where
  places := HealthCheck.places
  starts h := ⟨_, _, congrArg Prod.fst (List.mem_singleton.1 h), _, _, rfl, by decide⟩
  failure?_traverse := HealthCheck.failure?_traverse

instance : Placed Backend where
  places := Backend.places
  starts h := ⟨_, _, congrArg Prod.fst (List.mem_singleton.1 h), _, _, rfl, by decide⟩
  failure?_traverse := Backend.failure?_traverse

instance : Placed Definition where
  places := Definition.places
  starts {_ d p} h := by
    rcases List.mem_cons.1 h with rfl | h
    · exact ⟨_, _, rfl, _, _, rfl, by decide⟩
    rcases List.mem_cons.1 h with rfl | h
    · exact ⟨_, _, rfl, _, _, rfl, by decide⟩
    · exact starts_of_mem_placesIn ⟨_, _, rfl, by decide⟩ h
  failure?_traverse := Definition.failure?_traverse

instance : Placed Group where
  places := Group.places
  starts h := starts_of_mem_placesIn ⟨_, _, rfl, by decide⟩ h
  failure?_traverse := Group.failure?_traverse

end ApiGateway
