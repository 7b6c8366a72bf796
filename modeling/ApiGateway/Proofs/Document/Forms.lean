import ApiGateway.Proofs.Document.Hydration
import ApiGateway.Proofs.Duration.Rounding
import Mathlib.Data.List.Forall2

/-!
# Entities of every form fill in again

An entity is written as JSON in three forms. Of the raw form it comes back as it was, of the wire
form with its texts, and of the editor's form with numbers that equal its seconds as doubles
compare (`hydrate_toJson_forms`): whole seconds are written as integers, and minus zero loses its
sign on the way.
-/

set_option autoImplicit false

namespace ApiGateway

open Binary64

namespace RawDuration

/-- JSON has a number for every finite double and for no other. -/
def IsFinite : RawDuration → Prop
  | text _ => True
  | number x => x.isFinite

theorem ofJson?_toJson {d : RawDuration} (h : d.IsFinite) :
    ofJson? (DurationForm.toJson d) = some d := by
  cases d with
  | text s => rfl
  | number x =>
    show ofJson? (Json.ofBinary64 x) = _
    have hx : x.isFinite = true := h
    unfold Json.ofBinary64
    rw [if_pos hx]
    rfl

end RawDuration

namespace Seconds

/-- The number that a reader finds where seconds were written. -/
def toRaw (x : Seconds) : RawDuration :=
  match x.whole? with
  | some n => .number (Binary64.ofInt n)
  | none => .number x.value

theorem ofJson?_toJson (x : Seconds) :
    RawDuration.ofJson? (DurationForm.toJson x) = some x.toRaw := by
  show RawDuration.ofJson? (Seconds.toJson x) = _
  unfold Seconds.toJson toRaw
  cases x.whole? <;> rfl

/-- A raw number that is equal to a number of seconds. -/
def ReadsAs (x : Seconds) (d : RawDuration) : Prop :=
  ∃ y : Binary64, d = .number y ∧ y.Equal x.value

theorem units_of_whole? {x : Seconds} {n : Nat} (h : x.whole? = some n) :
    x.value.units = n * one ∧ n ≤ significandLimit := by
  unfold whole? at h
  split at h
  · rename_i hw
    cases h
    refine ⟨(Nat.div_mul_cancel (Nat.dvd_of_mod_eq_zero hw.1)).symm, ?_⟩
    apply Nat.div_le_of_le_mul
    rw [Nat.mul_comm]
    exact hw.2
  · cases h

theorem readsAs_toRaw (x : Seconds) : x.ReadsAs x.toRaw := by
  obtain ⟨s, hf, hx, hs⟩ := x.finite_of_units
  unfold ReadsAs toRaw
  cases hw : x.whole? with
  | none =>
    refine ⟨x.value, rfl, ?_⟩
    rw [hx]
    exact ⟨rfl, Or.inl rfl⟩
  | some n =>
    obtain ⟨hunits, hle⟩ := units_of_whole? hw
    obtain ⟨hn, hofNat⟩ := ofNat_of_le hle
    refine ⟨ofNat n, rfl, ?_⟩
    rw [hofNat, hx]
    refine ⟨hunits.symm, ?_⟩
    rcases hs with rfl | hz
    · exact Or.inl rfl
    · exact Or.inr (hunits.symm.trans hz)

end Seconds

/-- The same entity up to its durations, and these related by `R`. -/
def Timed.Agrees {E : Type → Type} [Timed E] {α β : Type} (R : α → β → Prop) (e : E α) (e' : E β) :
    Prop :=
  map (fun _ => ()) e = map (fun _ => ()) e' ∧ List.Forall₂ R (durations e) (durations e')

theorem Timed.agrees_map {E : Type → Type} [Timed E] {α β : Type} {R : α → β → Prop} {f : α → β}
    {e : E α} (h : ∀ x ∈ durations e, R x (f x)) : Agrees R e (map f e) := by
  constructor
  · rw [map_map, Function.comp_def]
  · rw [durations_map, List.forall₂_map_right_iff, List.forall₂_same]
    exact h

/-- A written entity fills in as it was, with what a reader finds for its durations. -/
def FillsIn (E : Type → Type) (δ : Type) [DurationForm δ] [Timed E] [Hydrate (E RawDuration)]
    [ToJson (E δ)] : Prop :=
  ∀ (raw : δ → RawDuration) (e : E δ),
    (∀ x ∈ Timed.durations e, RawDuration.ofJson? (DurationForm.toJson x) = some (raw x)) →
      ∀ path : FieldPath, hydrate (toJson e) path = .ok (Timed.map raw e)

section

variable (E : Type → Type) [Timed E] [Hydrate (E RawDuration)] [ToJson (E RawDuration)]
  [ToJson (E DurationText)] [ToJson (E Seconds)]

/-- Filling in undoes writing in each of the three forms, at every place of a document. -/
structure HydratesBack : Prop where
  raw (e : E RawDuration) (path : FieldPath) (h : ∀ d ∈ Timed.durations e, d.IsFinite) :
    hydrate (toJson e) path = .ok e
  wire (e : E DurationText) (path : FieldPath) :
    hydrate (toJson e) path = .ok (Timed.map (fun t => RawDuration.text t.text) e)
  editor (e : E Seconds) (path : FieldPath) : ∃ r : E RawDuration,
    hydrate (toJson e) path = .ok r ∧ Timed.Agrees Seconds.ReadsAs e r

variable {E}

theorem HydratesBack.of_fillsIn (raw : FillsIn E RawDuration) (wire : FillsIn E DurationText)
    (editor : FillsIn E Seconds) : HydratesBack E where
  raw e path h := by
    have hid := raw id e (fun d hd => RawDuration.ofJson?_toJson (h d hd)) path
    rwa [Timed.map_id] at hid
  wire e path := wire _ e (fun _ _ => rfl) path
  editor e path :=
    ⟨_, editor _ e (fun x _ => x.ofJson?_toJson) path, Timed.agrees_map fun x _ => x.readsAs_toRaw⟩

end

theorem hydrate_toJson_forms :
    (∀ (h : Host) (path : FieldPath), hydrate (toJson h) path = .ok h) ∧
      HydratesBack HealthCheck ∧ HydratesBack Backend ∧ HydratesBack Definition ∧
      HydratesBack Group := by
  refine ⟨Host.hydrate_toJson, ?_, ?_, ?_, ?_⟩
  · exact .of_fillsIn (fun _ _ => HealthCheck.hydrate_toJson)
      (fun _ _ => HealthCheck.hydrate_toJson) (fun _ _ => HealthCheck.hydrate_toJson)
  · exact .of_fillsIn (fun _ _ => Backend.hydrate_toJson)
      (fun _ _ => Backend.hydrate_toJson) (fun _ _ => Backend.hydrate_toJson)
  · exact .of_fillsIn (fun _ _ => Definition.hydrate_toJson)
      (fun _ _ => Definition.hydrate_toJson) (fun _ _ => Definition.hydrate_toJson)
  · exact .of_fillsIn (fun _ _ => Group.hydrate_toJson)
      (fun _ _ => Group.hydrate_toJson) (fun _ _ => Group.hydrate_toJson)

/-- The largest number below zero, and lists that are empty where the defaults are not. -/
def Group.numbers : Group RawDuration :=
  ⟨"", [{ (Definition.standard : Definition RawDuration) with
    hosts := []
    timeout := .number (.finite true 1 ⟨pow_lt_limit (e := 0) (by omega), by decide⟩)
    backends := [] }]⟩

theorem hydrate_toJson_forms_sample : (∀ d ∈ Timed.durations Group.numbers, d.IsFinite) ∧
    hydrate (toJson Group.numbers) .root = .ok Group.numbers := by
  have h : ∀ d ∈ Timed.durations Group.numbers, d.IsFinite := by
    intro d hd
    rcases List.mem_cons.1 hd with rfl | hd
    · exact rfl
    · rw [List.mem_singleton.1 hd]
      exact True.intro
  exact ⟨h, hydrate_toJson_forms.2.2.2.2.raw Group.numbers .root h⟩

end ApiGateway
