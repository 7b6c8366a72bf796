import ApiGateway.Catalog.Storage
import ApiGateway.Proofs.Indexed
import Mathlib.Tactic.Choose

/-!
# What a pass does to a document

The duration fields of an entity are listed in the order in which a pass comes to them, and `map`
changes nothing else. A pass gives an entity exactly when the conversion gives a duration for every
field, and it is then the entity with these durations (`Group.traverse_eq_ok_iff`).
-/

set_option autoImplicit false

namespace ApiGateway

section

variable {α β γ : Type}

namespace HealthCheck

/-- Another duration in every duration field. -/
def map (f : α → β) (h : HealthCheck α) : HealthCheck β := ⟨h.url, f h.timeout⟩

def durations (h : HealthCheck α) : List α := [h.timeout]

theorem map_map (f : α → β) (g : β → γ) (h : HealthCheck α) : (h.map f).map g = h.map (g ∘ f) :=
  rfl

theorem map_congr {f g : α → β} {h : HealthCheck α} (hx : ∀ x ∈ h.durations, f x = g x) :
    h.map f = h.map g := by
  unfold map
  rw [hx h.timeout List.mem_cons_self]

end HealthCheck

namespace Backend

def map (f : α → β) (b : Backend α) : Backend β := b.withTimeout (f b.timeout)

def durations (b : Backend α) : List α := [b.timeout]

theorem map_map (f : α → β) (g : β → γ) (b : Backend α) : (b.map f).map g = b.map (g ∘ f) := rfl

theorem map_congr {f g : α → β} {b : Backend α} (h : ∀ x ∈ b.durations, f x = g x) :
    b.map f = b.map g := by
  unfold map
  rw [h b.timeout List.mem_cons_self]

end Backend

namespace Definition

def map (f : α → β) (d : Definition α) : Definition β :=
  d.withDurations (f d.timeout) (f d.cacheTtl) (d.backends.map (Backend.map f))

def durations (d : Definition α) : List α :=
  d.timeout :: d.cacheTtl :: d.backends.flatMap Backend.durations

theorem map_id (d : Definition α) : d.map id = d := by
  have hb : d.backends.map (Backend.map id) = d.backends := List.map_id d.backends
  unfold map
  rw [hb]
  rfl

theorem map_map (f : α → β) (g : β → γ) (d : Definition α) :
    (d.map f).map g = d.map (g ∘ f) := by
  show d.withDurations _ _ ((d.backends.map (Backend.map f)).map (Backend.map g)) = _
  rw [List.map_map]
  rfl

theorem durations_map (f : α → β) (d : Definition α) :
    (d.map f).durations = d.durations.map f := by
  simp only [durations, map, withDurations, List.flatMap_map, List.map_cons, List.map_flatMap]
  rfl

theorem map_congr {f g : α → β} {d : Definition α} (h : ∀ x ∈ d.durations, f x = g x) :
    d.map f = d.map g := by
  have hb : d.backends.map (Backend.map f) = d.backends.map (Backend.map g) := by
    apply List.map_congr_left
    intro b hb
    apply Backend.map_congr
    intro x hx
    exact h x (List.mem_cons_of_mem _ (List.mem_cons_of_mem _ (List.mem_flatMap.2 ⟨b, hb, hx⟩)))
  unfold map
  rw [h d.timeout List.mem_cons_self,
    h d.cacheTtl (List.mem_cons_of_mem _ List.mem_cons_self), hb]

end Definition

namespace Group

def map (f : α → β) (g : Group α) : Group β := ⟨g.name, g.definitions.map (Definition.map f)⟩

def durations (g : Group α) : List α := g.definitions.flatMap Definition.durations

theorem map_id (g : Group α) : g.map id = g := by
  have hd : Definition.map (id : α → α) = id := funext Definition.map_id
  unfold map
  rw [hd, List.map_id]

theorem map_map (f : α → β) (h : β → γ) (g : Group α) : (g.map f).map h = g.map (h ∘ f) := by
  unfold map
  rw [List.map_map]
  congr 2
  exact funext (Definition.map_map f h)

theorem durations_map (f : α → β) (g : Group α) : (g.map f).durations = g.durations.map f := by
  unfold durations map
  rw [List.flatMap_map, List.map_flatMap]
  congr 1
  exact funext (Definition.durations_map f)

theorem map_congr {f h : α → β} {g : Group α} (hx : ∀ x ∈ g.durations, f x = h x) :
    g.map f = g.map h := by
  unfold map
  congr 1
  apply List.map_congr_left
  intro d hd
  apply Definition.map_congr
  exact fun x hm => hx x (List.mem_flatMap.2 ⟨d, hd, hm⟩)

end Group

namespace Catalog

def map (f : α → β) (c : Catalog α) : Catalog β := ⟨c.groups.map (Group.map f)⟩

def durations (c : Catalog α) : List α := c.groups.flatMap Group.durations

theorem map_id (c : Catalog α) : c.map id = c := by
  have hg : Group.map (id : α → α) = id := funext Group.map_id
  unfold map
  rw [hg, List.map_id]

theorem map_map (f : α → β) (h : β → γ) (c : Catalog α) : (c.map f).map h = c.map (h ∘ f) := by
  unfold map
  rw [List.map_map]
  congr 2
  exact funext (Group.map_map f h)

theorem durations_map (f : α → β) (c : Catalog α) : (c.map f).durations = c.durations.map f := by
  unfold durations map
  rw [List.flatMap_map, List.map_flatMap]
  congr 1
  exact funext (Group.durations_map f)

/-- Catalogs are the same if their groups are, one by one. -/
theorem map_eq_map_iff {f : α → γ} {h : β → γ} {c : Catalog α} {c' : Catalog β} :
    c.map f = c'.map h ↔ List.Forall₂ (fun g g' => g.map f = g'.map h) c.groups c'.groups := by
  unfold map
  rw [Catalog.mk.injEq, Indexed.map_eq_map_iff]

theorem map_congr {f h : α → β} {c : Catalog α} (hx : ∀ x ∈ c.durations, f x = h x) :
    c.map f = c.map h := by
  unfold map
  congr 1
  apply List.map_congr_left
  intro g hg
  apply Group.map_congr
  exact fun x hm => hx x (List.mem_flatMap.2 ⟨g, hg, hm⟩)

end Catalog

end

/-! ## Passes -/

section

variable {α β ε ε' : Type} {f : FieldPath → α → Except ε β} {convert : α → Except ε' β}

theorem HealthCheck.traverse_eq_ok_iff (hf : ∀ path x y, f path x = .ok y ↔ convert x = .ok y)
    (path : FieldPath) (h : HealthCheck α) (h' : HealthCheck β) :
    h.traverse f path = .ok h' ↔ h.map convert = h'.map .ok := by
  unfold traverse
  rw [Except.bind_eq_ok_iff]
  constructor
  · rintro ⟨t, ht, h⟩
    cases h
    unfold map
    rw [(hf _ _ _).1 ht]
  · intro h
    obtain ⟨hurl, ht⟩ := HealthCheck.mk.inj h
    refine ⟨h'.timeout, (hf _ _ _).2 ht, congrArg Except.ok ?_⟩
    rw [hurl]

theorem Backend.traverse_eq_ok_iff (hf : ∀ path x y, f path x = .ok y ↔ convert x = .ok y)
    (path : FieldPath) (b : Backend α) (b' : Backend β) :
    b.traverse f path = .ok b' ↔ b.map convert = b'.map .ok := by
  unfold traverse
  rw [Except.bind_eq_ok_iff]
  constructor
  · rintro ⟨t, ht, h⟩
    cases h
    unfold map
    rw [(hf _ _ _).1 ht]
    rfl
  · intro h
    have ht : convert b.timeout = .ok b'.timeout := congrArg Backend.timeout h
    refine ⟨b'.timeout, (hf _ _ _).2 ht, congrArg Except.ok ?_⟩
    calc b.withTimeout b'.timeout = (b.map convert).withTimeout b'.timeout := rfl
      _ = (b'.map Except.ok).withTimeout b'.timeout := by rw [h]
      _ = b' := rfl

theorem Definition.traverse_eq_ok_iff (hf : ∀ path x y, f path x = .ok y ↔ convert x = .ok y)
    (path : FieldPath) (d : Definition α) (d' : Definition β) :
    d.traverse f path = .ok d' ↔ d.map convert = d'.map .ok := by
  have hb (backends : List (Backend β)) := Indexed.traverse_eq_ok_iff
    (fun i => Backend.traverse_eq_ok_iff hf ((path.field "backend").index i)) d.backends backends
  unfold traverse
  simp only [Except.bind_eq_ok_iff, hb]
  constructor
  · rintro ⟨t, ht, c, hc, bs, hbs, h⟩
    cases h
    unfold map
    rw [(hf _ _ _).1 ht, (hf _ _ _).1 hc, hbs]
    rfl
  · intro h
    have ht : convert d.timeout = .ok d'.timeout := congrArg Definition.timeout h
    have hc : convert d.cacheTtl = .ok d'.cacheTtl := congrArg Definition.cacheTtl h
    refine ⟨_, (hf _ _ _).2 ht, _, (hf _ _ _).2 hc, d'.backends, congrArg Definition.backends h,
      congrArg Except.ok ?_⟩
    calc d.withDurations d'.timeout d'.cacheTtl d'.backends
        = (d.map convert).withDurations d'.timeout d'.cacheTtl d'.backends := rfl
      _ = (d'.map Except.ok).withDurations d'.timeout d'.cacheTtl d'.backends := by rw [h]
      _ = d' := rfl

theorem Group.traverse_eq_ok_iff (hf : ∀ path x y, f path x = .ok y ↔ convert x = .ok y)
    (path : FieldPath) (g : Group α) (g' : Group β) :
    g.traverse f path = .ok g' ↔ g.map convert = g'.map .ok := by
  have hd (definitions : List (Definition β)) := Indexed.traverse_eq_ok_iff
    (fun i => Definition.traverse_eq_ok_iff hf ((path.field "definitions").index i))
    g.definitions definitions
  unfold traverse
  simp only [Except.bind_eq_ok_iff, hd]
  constructor
  · rintro ⟨ds, hds, h⟩
    cases h
    unfold map
    rw [hds]
  · intro h
    refine ⟨g'.definitions, congrArg Group.definitions h, congrArg Except.ok ?_⟩
    rw [show g.name = g'.name from congrArg Group.name h]

end

/-! ## Entities with durations -/

/-- A type of entities with duration fields. `map` changes these fields and nothing else, and
`durations` lists them. -/
class Timed (E : Type → Type) where
  map {α β : Type} (f : α → β) (e : E α) : E β
  durations {α : Type} (e : E α) : List α
  map_id {α : Type} (e : E α) : map id e = e
  map_map {α β γ : Type} (f : α → β) (g : β → γ) (e : E α) : map g (map f e) = map (g ∘ f) e
  map_congr {α β : Type} {f g : α → β} {e : E α} (h : ∀ x ∈ durations e, f x = g x) :
    map f e = map g e
  durations_map {α β : Type} (f : α → β) (e : E α) : durations (map f e) = (durations e).map f

namespace Timed

variable {E : Type → Type} [Timed E] {α β γ ε : Type} {f : α → Except ε β} {e : E α}

theorem exists_ok_of_map {e' : E β} (h : map f e = map .ok e') {x : α} (hx : x ∈ durations e) :
    ∃ y, f x = .ok y := by
  have hd := congrArg durations h
  rw [durations_map, durations_map] at hd
  have hm : f x ∈ (durations e).map f := List.mem_map_of_mem hx
  rw [hd] at hm
  obtain ⟨y, -, hy⟩ := List.mem_map.1 hm
  exact ⟨y, hy.symm⟩

/-- A conversion gives an entity where it gives every duration. -/
theorem exists_map_ok_iff [Nonempty β] :
    (∃ e' : E β, map f e = map .ok e') ↔ ∀ x ∈ durations e, ∃ y, f x = .ok y := by
  constructor
  · rintro ⟨e', h⟩ x hx
    exact exists_ok_of_map h hx
  · intro h
    choose! g hg using h
    refine ⟨map g e, ?_⟩
    rw [map_map]
    exact map_congr hg

/-- What holds of the converted durations, told from those that they were converted from. -/
theorem forall_durations_iff {e' : E β} {p : α → Prop} {q : β → Prop} (h : map f e = map .ok e')
    (hpq : ∀ x y, f x = .ok y → (q y ↔ p x)) :
    (∀ y ∈ durations e', q y) ↔ ∀ x ∈ durations e, p x := by
  have hd := congrArg durations h
  rw [durations_map, durations_map] at hd
  generalize durations e = xs, durations e' = ys at hd
  induction xs generalizing ys with
  | nil =>
    cases ys with
    | nil => exact ⟨fun _ => List.forall_mem_nil p, fun _ => List.forall_mem_nil q⟩
    | cons y ys => cases hd
  | cons x xs ih =>
    cases ys with
    | nil => cases hd
    | cons y ys =>
      obtain ⟨hx, hxs⟩ := List.cons.inj hd
      rw [List.forall_mem_cons, List.forall_mem_cons]
      exact and_congr (hpq x y hx) (ih ys hxs)

/-- What holds of the converted durations holds of whatever each duration is converted to. -/
theorem forall_converted_iff {e' : E β} {q : β → Prop} (h : map f e = map .ok e') :
    (∀ y ∈ durations e', q y) ↔ ∀ x ∈ durations e, ∀ y, f x = .ok y → q y := by
  apply forall_durations_iff h
  intro x y hy
  simp only [hy, Except.ok.injEq, forall_eq']

/-- What is made of the converted durations, told from those that they were converted from. -/
theorem map_of_converted [Nonempty γ] {e' : E β} {g : α → γ} {k : β → γ}
    (h : map f e = map .ok e') (hk : ∀ x ∈ durations e, ∀ y, f x = .ok y → k y = g x) :
    map k e' = map g e := by
  let through (r : Except ε β) : γ := (r.toOption.map k).getD (Classical.arbitrary γ)
  calc map k e' = map through (map .ok e') := by
        rw [map_map]
        rfl
    _ = map (through ∘ f) e := by rw [← h, map_map]
    _ = map g e := by
        apply map_congr
        intro x hx
        obtain ⟨y, hy⟩ := exists_ok_of_map h hx
        rw [Function.comp_apply, hy]
        exact hk x hx y hy

end Timed

/-- A type of entities that a pass goes over. -/
class Traversed (E : Type → Type) extends Timed E where
  traverse {α β ε : Type} (f : FieldPath → α → Except ε β) (path : FieldPath) (e : E α) :
    Except ε (E β)
  traverse_eq_ok_iff {α β ε ε' : Type} {f : FieldPath → α → Except ε β}
    {convert : α → Except ε' β} (hf : ∀ path x y, f path x = .ok y ↔ convert x = .ok y)
    (path : FieldPath) (e : E α) (e' : E β) :
    traverse f path e = .ok e' ↔ map convert e = map .ok e'

instance : Traversed HealthCheck where
  map := HealthCheck.map
  durations := HealthCheck.durations
  map_id _ := rfl
  map_map := HealthCheck.map_map
  map_congr := HealthCheck.map_congr
  durations_map _ _ := rfl
  traverse := HealthCheck.traverse
  traverse_eq_ok_iff := HealthCheck.traverse_eq_ok_iff

instance : Traversed Backend where
  map := Backend.map
  durations := Backend.durations
  map_id _ := rfl
  map_map := Backend.map_map
  map_congr := Backend.map_congr
  durations_map _ _ := rfl
  traverse := Backend.traverse
  traverse_eq_ok_iff := Backend.traverse_eq_ok_iff

instance : Traversed Definition where
  map := Definition.map
  durations := Definition.durations
  map_id := Definition.map_id
  map_map := Definition.map_map
  map_congr := Definition.map_congr
  durations_map := Definition.durations_map
  traverse := Definition.traverse
  traverse_eq_ok_iff := Definition.traverse_eq_ok_iff

instance : Traversed Group where
  map := Group.map
  durations := Group.durations
  map_id := Group.map_id
  map_map := Group.map_map
  map_congr := Group.map_congr
  durations_map := Group.durations_map
  traverse := Group.traverse
  traverse_eq_ok_iff := Group.traverse_eq_ok_iff

instance : Timed Catalog where
  map := Catalog.map
  durations := Catalog.durations
  map_id := Catalog.map_id
  map_map := Catalog.map_map
  map_congr := Catalog.map_congr
  durations_map := Catalog.durations_map

namespace Traversed

variable {E : Type → Type} [Traversed E] {δ : Type}

theorem receive_eq_ok_iff [Receivable δ] (path : FieldPath) (e : E δ) (e' : E Seconds) :
    traverse receiveField path e = .ok e' ↔
      Timed.map Receivable.receive e = Timed.map .ok e' :=
  traverse_eq_ok_iff (fun _ _ _ => Except.mapError_eq_ok_iff) path e e'

theorem send_eq_ok_iff [Sendable δ] (path : FieldPath) (e : E δ) (e' : E DurationText) :
    traverse sendField path e = .ok e' ↔ Timed.map Sendable.send e = Timed.map .ok e' :=
  traverse_eq_ok_iff (fun _ _ _ => Except.mapError_eq_ok_iff) path e e'

/-- Wire texts are received as the raw texts that they fill in as. -/
theorem receive_text_eq_ok_iff (path : FieldPath) (w : E DurationText) (e : E Seconds) :
    traverse receiveField path (Timed.map (fun t => RawDuration.text t.text) w) = .ok e ↔
      Timed.map Receivable.receive w = Timed.map .ok e := by
  rw [receive_eq_ok_iff, Timed.map_map]
  rfl

end Traversed

namespace Group

variable {δ : Type}

theorem receive_eq_ok_iff [Receivable δ] (g : Group δ) (g' : Group Seconds) :
    g.receive = .ok g' ↔ g.map Receivable.receive = g'.map .ok :=
  Traversed.receive_eq_ok_iff .root g g'

theorem send_eq_ok_iff [Sendable δ] (g : Group δ) (g' : Group DurationText) :
    g.send = .ok g' ↔ g.map Sendable.send = g'.map .ok :=
  Traversed.send_eq_ok_iff .root g g'

end Group

namespace Catalog

variable {δ : Type}

theorem send_eq_ok_iff [Sendable δ] (c : Catalog δ) (c' : Catalog DurationText) :
    c.send = .ok c' ↔ c.map Sendable.send = c'.map .ok := by
  have h := Indexed.traverse_eq_ok_iff (fun _ => Group.send_eq_ok_iff) c.groups c'.groups
  unfold send map
  rw [Catalog.mk.injEq, ← h]
  cases Indexed.traverse (fun _ g => g.send) c.groups with
  | error e => constructor <;> intro h <;> cases h
  | ok groups =>
    cases c'
    simp only [Except.ok.injEq, Catalog.mk.injEq]

end Catalog

end ApiGateway
