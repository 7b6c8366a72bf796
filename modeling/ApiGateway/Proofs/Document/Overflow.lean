import ApiGateway.Proofs.Catalog.Loading
import ApiGateway.Proofs.Duration.Overflow

/-!
# Documents without an answer

Loading or preparing a document gives a result or a report, unless the first duration that cannot be
converted overflows (`Group.adjust_eq_abort_iff`). A stored catalog is loaded group by group, so
there it is the first group that is not loaded (`Catalog.load_eq_abort_iff`).
-/

set_option autoImplicit false

namespace ApiGateway

open FieldPath (Step)

/-- The first duration of the entity that is not converted lies at the path, and it overflows. -/
def Placed.OverflowsAt {E : Type → Type} [Placed E] (converted : RawDuration → Prop)
    (e : E RawDuration) (path : FieldPath) : Prop :=
  ∃ before steps d after, places e = before ++ (steps, d) :: after ∧
    (∀ p ∈ before, converted p.2) ∧ d.Overflows ∧ path = FieldPath.root.walk steps

/-- The duration can be converted in this direction. -/
def Direction.Converts : Direction → RawDuration → Prop
  | .received, d => ∃ x, Receivable.receive d = .ok x
  | .outgoing, d => ∃ t, Sendable.send d = .ok t

section

variable {E : Type → Type} [Placed E] {β : Type} {convert : RawDuration → Except DurationError β}
  {path : FieldPath}

theorem Placed.traverse_eq_abort_iff
    (hconvert : ∀ d, convert d = .error .abort ↔ d.Overflows) {e : E RawDuration} :
    Traversed.traverse (convertField convert) .root e = .error (.duration path .abort) ↔
      Placed.OverflowsAt (fun d => ∃ x, convert d = .ok x) e path := by
  rw [Placed.traverse_eq_error_iff]
  constructor
  · rintro ⟨before, steps, d, after, cause, hsplit, hbefore, hcause, herr⟩
    cases herr
    exact ⟨before, steps, d, after, hsplit, hbefore, (hconvert d).1 hcause, rfl⟩
  · rintro ⟨before, steps, d, after, hsplit, hbefore, hd, rfl⟩
    exact ⟨before, steps, d, after, .abort, hsplit, hbefore, (hconvert d).2 hd, rfl⟩

/-- Filling in comes to a fault of shape at worst, so only the conversion can stop. -/
theorem Placed.bind_traverse_eq_abort_iff
    (hconvert : ∀ d, convert d = .error .abort ↔ d.Overflows) {filled : Hydrated (E RawDuration)}
    (hshape : ∀ e, filled = .error e → e.isShape = true) :
    (filled >>= Traversed.traverse (convertField convert) .root) = .error (.duration path .abort) ↔
      ∃ e, filled = .ok e ∧ Placed.OverflowsAt (fun d => ∃ x, convert d = .ok x) e path := by
  rw [Except.bind_eq_error_iff]
  simp only [Placed.traverse_eq_abort_iff hconvert]
  constructor
  · rintro (h | h)
    · cases hshape _ h
    · exact h
  · exact Or.inr

/-- What becomes of an entity in a direction, once it is filled in. -/
def Placed.adjust (filled : Hydrated (E RawDuration)) :
    Direction → Hydrated (Adjusted (E Seconds) (E DurationText))
  | .received => (filled >>= Traversed.traverse receiveField .root).map .editor
  | .outgoing => (filled >>= Traversed.traverse sendField .root).map .wire

theorem Placed.adjust_eq_abort_iff {filled : Hydrated (E RawDuration)}
    (hshape : ∀ e, filled = .error e → e.isShape = true) (direction : Direction) :
    Placed.adjust filled direction = .error (.duration path .abort) ↔
      ∃ e, filled = .ok e ∧ Placed.OverflowsAt direction.Converts e path := by
  cases direction with
  | received =>
    unfold Placed.adjust
    rw [Except.map_eq_error_iff]
    exact Placed.bind_traverse_eq_abort_iff (fun _ => RawDuration.receive_eq_abort_iff) hshape
  | outgoing =>
    unfold Placed.adjust
    rw [Except.map_eq_error_iff]
    exact Placed.bind_traverse_eq_abort_iff (fun _ => RawDuration.send_eq_abort_iff) hshape

end

theorem Definition.adjust_eq_abort_iff (raw : Json) (direction : Direction) (path : FieldPath) :
    Definition.adjust raw direction = .error (.duration path .abort) ↔
      ∃ d, Definition.hydrate raw = .ok d ∧ Placed.OverflowsAt direction.Converts d path := by
  have h : Definition.adjust raw direction = Placed.adjust (Definition.hydrate raw) direction := by
    cases direction <;> rfl
  rw [h]
  exact Placed.adjust_eq_abort_iff
    (fun _ h => (Definition.outcome_hydrate raw).isShape_of_error h) direction

theorem Group.adjust_eq_abort_iff (raw : Json) (direction : Direction) (path : FieldPath) :
    Group.adjust raw direction = .error (.duration path .abort) ↔
      ∃ g, Group.hydrate raw = .ok g ∧ Placed.OverflowsAt direction.Converts g path := by
  have h : Group.adjust raw direction = Placed.adjust (Group.hydrate raw) direction := by
    cases direction <;> rfl
  rw [h]
  exact Placed.adjust_eq_abort_iff
    (fun _ h => (Group.outcome_hydrate raw).isShape_of_error h) direction

theorem Group.load_eq_abort_iff (raw : Json) (path : FieldPath) :
    Group.load raw = .error (.duration path .abort) ↔
      ∃ g, Group.hydrate raw = .ok g ∧ Placed.OverflowsAt Direction.received.Converts g path := by
  rw [← Group.adjust_eq_abort_iff]
  exact Except.map_eq_error_iff.symm

theorem Catalog.load_eq_abort_iff (raw : Json) (path : FieldPath) :
    Catalog.load raw = .error (.document (.duration path .abort)) ↔
      ∃ before item after g inner, raw = .array (before ++ item :: after) ∧
        (∀ x ∈ before, ∃ g, Group.load x = .ok g) ∧ Group.hydrate item = .ok g ∧
        Placed.OverflowsAt Direction.received.Converts g inner ∧
        path = (FieldPath.root.index before.length).join inner := by
  constructor
  · intro h
    cases raw with
    | array items =>
      obtain ⟨before, item, after, inner, rfl, hbefore, hitem, rfl⟩ :=
        (Catalog.followsGroups items).stops_iff path |>.1 h
      obtain ⟨g, hg, hoverflows⟩ := (Group.load_eq_abort_iff item inner).1 hitem
      exact ⟨before, item, after, g, inner, rfl, hbefore, hg, hoverflows, rfl⟩
    | null => cases h
    | bool b => cases h
    | integer n => cases h
    | float x => cases h
    | string s => cases h
    | object fields => cases h
  · rintro ⟨before, item, after, g, inner, rfl, hbefore, hg, hoverflows, rfl⟩
    have hitem := (Group.load_eq_abort_iff item inner).2 ⟨g, hg, hoverflows⟩
    exact (Catalog.followsGroups _).stops_iff _ |>.2
      ⟨before, item, after, inner, rfl, hbefore, hitem, rfl⟩

theorem adjust_and_load_eq_abort_iff (raw : Json) (path : FieldPath) :
    (∀ direction, Definition.adjust raw direction = .error (.duration path .abort) ↔
      ∃ d, Definition.hydrate raw = .ok d ∧ Placed.OverflowsAt direction.Converts d path) ∧
    (∀ direction, Group.adjust raw direction = .error (.duration path .abort) ↔
      ∃ g, Group.hydrate raw = .ok g ∧ Placed.OverflowsAt direction.Converts g path) ∧
    (Catalog.load raw = .error (.document (.duration path .abort)) ↔
      ∃ before item after g inner, raw = .array (before ++ item :: after) ∧
        (∀ x ∈ before, ∃ g, Group.load x = .ok g) ∧ Group.hydrate item = .ok g ∧
        Placed.OverflowsAt Direction.received.Converts g inner ∧
        path = (FieldPath.root.index before.length).join inner) := by
  refine ⟨?_, ?_, ?_⟩
  · exact fun direction => Definition.adjust_eq_abort_iff raw direction path
  · exact fun direction => Group.adjust_eq_abort_iff raw direction path
  · exact Catalog.load_eq_abort_iff raw path

/-- The parts of its timeout make `2⁶⁴` seconds. -/
def Definition.overflowing : Json :=
  .object [("timeout", .string "18446744073709551615s 1000ms")]

theorem adjust_and_load_overflowing :
    (∀ direction, Definition.adjust Definition.overflowing direction =
      .error (.duration ⟨"timeout"⟩ .abort)) ∧
    (∀ direction, Group.adjust (.object [("definitions", .array [Definition.overflowing])])
      direction = .error (.duration ⟨"definitions[0].timeout"⟩ .abort)) ∧
    Catalog.load (.array [.object [("definitions", .array [Definition.overflowing])]]) =
      .error (.document (.duration ⟨"[0].definitions[0].timeout"⟩ .abort)) := by
  refine ⟨?_, ?_, rfl⟩
  · rintro (_ | _) <;> rfl
  · rintro (_ | _) <;> rfl

end ApiGateway
