import ApiGateway.Proofs.Document.Hydration
import ApiGateway.Proofs.Document.Overflow

/-!
# Groups by their definitions

A group is filled in as a whole before any duration is converted, a definition by itself is filled
in and converted at once. Both give the same definitions, and the group reports what the first
definition with a fault of shape reports. Without such a fault it ends as the first definition
without a result does. That is the first report of a duration, unless a definition before it stops
(`Group.FollowsFirst.followsDefinitions_iff`).
-/

set_option autoImplicit false

namespace ApiGateway

open DocumentError (isShape isDuration isAbort)

variable {δ : Type}

/-- Where the `i`-th definition of a group lies. -/
def Group.place (i : Nat) : FieldPath := (FieldPath.root.field "definitions").index i

def Group.relocate (i : Nat) (e : DocumentError) : DocumentError := e.within (place i)

/-- The definition by itself comes to an error of this kind. -/
def Definition.Fails (definition : Json → Hydrated (Definition δ)) (kind : DocumentError → Bool)
    (raw : Json) : Prop := ∃ e, definition raw = .error e ∧ kind e

/-! ## What a group comes to, told from what each of its definitions comes to by itself -/

section

variable (group : Json → Hydrated (Group δ)) (definition : Json → Hydrated (Definition δ))
  (raw : Json) (ds : List Json)

/-- Results, and faults of shape. -/
structure Group.FollowsShapes : Prop where
  exists_iff : (∃ g, group raw = .ok g) ↔ ∀ d ∈ ds, ∃ x, definition d = .ok x
  definitions {g : Group δ} (loaded : group raw = .ok g) :
    List.Forall₂ (fun d x => definition d = .ok x) ds g.definitions
  shape {before after : List Json} {d : Json} {e : DocumentError}
      (split : ds = before ++ d :: after) (failed : definition d = .error e)
      (misshapen : e.isShape) (earlier : ∀ x ∈ before, ¬ Definition.Fails definition isShape x) :
    group raw = .error (e.within (Group.place before.length))

/-- The first duration that a definition reports is what the group reports. -/
structure Group.FollowsDefinitions : Prop extends FollowsShapes group definition raw ds where
  duration {before after : List Json} {d : Json} {e : DocumentError}
      (split : ds = before ++ d :: after) (failed : definition d = .error e)
      (reported : e.isDuration) (others : ∀ x ∈ ds, ¬ Definition.Fails definition isShape x)
      (earlier : ∀ x ∈ before, ¬ Definition.Fails definition isDuration x) :
    group raw = .error (e.within (Group.place before.length))

/-- The group ends as the first definition without a result does, by a report or by a stop. -/
structure Group.FollowsFirst : Prop extends FollowsShapes group definition raw ds where
  first {before after : List Json} {d : Json} {e : DocumentError}
      (split : ds = before ++ d :: after) (failed : definition d = .error e)
      (others : ∀ x ∈ ds, ¬ Definition.Fails definition isShape x)
      (earlier : ∀ x ∈ before, ∃ y, definition x = .ok y) :
    group raw = .error (e.within (Group.place before.length))

/-- A definition stops in front of the first one with a duration to report, and none has a fault of
shape. -/
def Group.Hides : Prop :=
  (∀ x ∈ ds, ¬ Definition.Fails definition isShape x) ∧
    ∃ before d after, ds = before ++ d :: after ∧ Definition.Fails definition isDuration d ∧
      (∀ x ∈ before, ¬ Definition.Fails definition isDuration x) ∧
      ∃ x ∈ before, Definition.Fails definition isAbort x

end

namespace Group.FollowsFirst

variable {group : Json → Hydrated (Group δ)} {definition : Json → Hydrated (Definition δ)}
  {raw : Json} {ds : List Json}

theorem stops_of_hides (h : FollowsFirst group definition raw ds) (hides : Hides definition ds) :
    ∃ e, group raw = .error e ∧ e.isAbort := by
  obtain ⟨others, before, d, after, hsplit, -, hearlier, x, hx, e, hfailed, -⟩ := hides
  rcases Indexed.forall_ok_or_exists_first definition before with hall | hfirst
  · obtain ⟨y, hy⟩ := hall x hx
    cases hfailed.symm.trans hy
  · obtain ⟨front, s, back, stop, rfl, hfront, hs⟩ := hfirst
    rw [List.append_assoc, List.cons_append] at hsplit
    have hmem : s ∈ front ++ s :: back := List.mem_append_right _ List.mem_cons_self
    have hds : s ∈ ds := hsplit ▸ List.mem_append_right _ List.mem_cons_self
    have hstop : stop.isAbort := DocumentError.isAbort_of_not
      (fun hshape => others s hds ⟨stop, hs, hshape⟩)
      fun hduration => hearlier s hmem ⟨stop, hs, hduration⟩
    refine ⟨_, h.first hsplit hs others hfront, ?_⟩
    rwa [DocumentError.isAbort_within]

theorem followsDefinitions_iff (h : FollowsFirst group definition raw ds) :
    FollowsDefinitions group definition raw ds ↔ ¬ Hides definition ds := by
  constructor
  · intro hd hides
    obtain ⟨stop, hstop, habort⟩ := h.stops_of_hides hides
    obtain ⟨others, before, d, after, hsplit, ⟨e, hfailed, hduration⟩, hearlier, -⟩ := hides
    cases hstop.symm.trans (hd.duration hsplit hfailed hduration others hearlier)
    rw [DocumentError.isAbort_within, DocumentError.isAbort_eq_false hduration] at habort
    cases habort
  · intro hfree
    refine ⟨h.toFollowsShapes, ?_⟩
    intro before after d e hsplit hfailed hduration others hearlier
    refine h.first hsplit hfailed others fun x hx => ?_
    cases hx' : definition x with
    | ok y => exact ⟨y, rfl⟩
    | error stop =>
      have hmem : x ∈ ds := hsplit ▸ List.mem_append_left _ hx
      have hstops : Definition.Fails definition isAbort x :=
        ⟨stop, hx', DocumentError.isAbort_of_not (fun hs => others x hmem ⟨stop, hx', hs⟩)
          fun hd => hearlier x hx ⟨stop, hx', hd⟩⟩
      exact absurd
        ⟨others, before, d, after, hsplit, ⟨e, hfailed, hduration⟩, hearlier, x, hx, hstops⟩ hfree

end Group.FollowsFirst

/-! ## One direction -/

section

variable (convert : RawDuration → Except DurationError δ)

def Definition.read (raw : Json) : Hydrated (Definition δ) :=
  ApiGateway.hydrate raw .root >>= Traversed.traverse (convertField convert) .root

def Group.read (raw : Json) : Hydrated (Group δ) :=
  ApiGateway.hydrate raw .root >>= Traversed.traverse (convertField convert) .root

variable {convert} {raw : Json} {e : DocumentError}

theorem Definition.hydrate_of_read_shape (h : Definition.read convert raw = .error e)
    (he : e.isShape) : ApiGateway.hydrate (α := Definition RawDuration) raw .root = .error e := by
  unfold read at h
  cases hd : ApiGateway.hydrate (α := Definition RawDuration) raw .root with
  | error e' =>
    rw [hd] at h
    cases h
    rfl
  | ok d =>
    rw [hd, Except.ok_bind] at h
    rw [Placed.isShape_of_traverse h] at he
    cases he

theorem Definition.exists_hydrate_of_read (h : ¬ Fails (Definition.read convert) isShape raw) :
    ∃ d, ApiGateway.hydrate (α := Definition RawDuration) raw .root = .ok d := by
  cases hd : ApiGateway.hydrate (α := Definition RawDuration) raw .root with
  | ok d => exact ⟨d, rfl⟩
  | error e =>
    have hread : Definition.read convert raw = .error e := by
      unfold read
      rw [hd]
      rfl
    exact absurd ⟨e, hread, (Definition.outcome_hydrate raw).isShape_of_error hd⟩ h

variable {fields : Fields Json} {ds : List Json}

theorem Group.hydrate_object (hname : (Shape.record [("name", .string)]).Holds (.object fields))
    (hds : Fields.get? fields "definitions" = some (.array ds)) :
    ∃ name, ApiGateway.hydrate (α := Group RawDuration) (.object fields) .root =
      Indexed.each relocate (ApiGateway.hydrate · .root) ds >>= fun definitions =>
        .ok ⟨name, definitions⟩ := by
  obtain ⟨name, hn⟩ := (Record.outcome_string fields "name" "").exists_of_holds hname
  have hget : Record.get? ⟨fields, .root⟩ "definitions" = some (.array ds) := by
    unfold Record.get?
    rw [hds]
    rfl
  refine ⟨name, ?_⟩
  show (Record.string ⟨fields, .root⟩ "name" "" >>= fun name =>
    Record.items ⟨fields, .root⟩ "definitions" [] ApiGateway.hydrate >>= _) = _
  rw [hn, Except.ok_bind, Record.items_of_get hget]
  congr 2
  funext i v
  exact Definition.rooted_hydrate v (place i)

variable (convert) in
theorem Group.traverse_root (name : String) (definitions : List (Definition RawDuration)) :
    Traversed.traverse (convertField convert) .root (⟨name, definitions⟩ : Group RawDuration) =
      Indexed.each relocate (Traversed.traverse (convertField convert) .root) definitions >>=
        fun definitions => .ok ⟨name, definitions⟩ := by
  show (Indexed.traverse _ _ >>= _) = _
  congr 2
  funext i d
  exact Placed.rooted_traverse convert d (place i)

variable (convert) in
/-- A group takes two passes over its definitions. -/
theorem Group.read_object (hname : (Shape.record [("name", .string)]).Holds (.object fields))
    (hds : Fields.get? fields "definitions" = some (.array ds)) :
    ∃ name, Group.read convert (.object fields) =
      (Indexed.each relocate (ApiGateway.hydrate · .root) ds >>=
        Indexed.each relocate (Traversed.traverse (convertField convert) .root)) >>=
      fun definitions => .ok ⟨name, definitions⟩ := by
  obtain ⟨name, hfill⟩ := Group.hydrate_object hname hds
  refine ⟨name, ?_⟩
  unfold read
  rw [hfill]
  cases Indexed.each relocate (ApiGateway.hydrate (α := Definition RawDuration) · .root) ds with
  | error e => rfl
  | ok definitions => exact Group.traverse_root convert name definitions

variable (convert) in
theorem Group.followsFirst_read
    (hname : (Shape.record [("name", .string)]).Holds (.object fields))
    (hds : Fields.get? fields "definitions" = some (.array ds)) :
    Group.FollowsFirst (Group.read convert) (Definition.read convert) (.object fields) ds := by
  obtain ⟨name, h⟩ := Group.read_object convert hname hds
  have hok {g : Group δ} : Group.read convert (.object fields) = .ok g ↔
      ∃ definitions, Indexed.each relocate (Definition.read convert) ds = .ok definitions ∧
        ⟨name, definitions⟩ = g := by
    rw [h, Except.bind_eq_ok_iff]
    simp only [Indexed.each_bind_each_eq_ok_iff, Except.ok.injEq]
    rfl
  refine ⟨⟨?exists_iff, ?definitions, ?shape⟩, ?first⟩
  case exists_iff =>
    rw [← Indexed.exists_each_iff (w := relocate)]
    constructor
    · rintro ⟨g, hg⟩
      obtain ⟨definitions, hall, -⟩ := hok.1 hg
      exact ⟨definitions, hall⟩
    · rintro ⟨definitions, hall⟩
      exact ⟨_, hok.2 ⟨definitions, hall, rfl⟩⟩
  case definitions =>
    intro g hg
    obtain ⟨definitions, hall, rfl⟩ := hok.1 hg
    exact Indexed.each_eq_ok_iff.1 hall
  case shape =>
    intro before after d e hsplit hfailed hshape hearlier
    have hbefore : ∀ x ∈ before, ∃ y, ApiGateway.hydrate x .root = .ok y := fun x hx =>
      Definition.exists_hydrate_of_read (hearlier x hx)
    have hd := Definition.hydrate_of_read_shape hfailed hshape
    rw [h, Indexed.each_eq_error_iff.2 ⟨before, d, after, e, hsplit, hbefore, hd, rfl⟩]
    rfl
  case first =>
    intro before after d e hsplit hfailed hothers hearlier
    subst hsplit
    rw [List.forall_mem_append, List.forall_mem_cons] at hothers
    obtain ⟨y, hy⟩ := Definition.exists_hydrate_of_read hothers.2.1
    have hafter : ∀ x ∈ after, ∃ y, ApiGateway.hydrate x .root = .ok y := fun x hx =>
      Definition.exists_hydrate_of_read (hothers.2.2 x hx)
    unfold Definition.read at hfailed
    rw [hy, Except.ok_bind] at hfailed
    rw [h, Indexed.each_bind_each_eq_error hearlier hy hfailed hafter]
    rfl

end

theorem Group.followsDefinitions_load_prepare_iff {fields : Fields Json} {ds : List Json}
    (hname : (Shape.record [("name", .string)]).Holds (.object fields))
    (hds : Fields.get? fields "definitions" = some (.array ds)) :
    (FollowsFirst load Definition.load (.object fields) ds ∧
      (FollowsDefinitions load Definition.load (.object fields) ds ↔
        ¬ Hides Definition.load ds)) ∧
    FollowsFirst prepare Definition.prepare (.object fields) ds ∧
      (FollowsDefinitions prepare Definition.prepare (.object fields) ds ↔
        ¬ Hides Definition.prepare ds) := by
  have hload := followsFirst_read Receivable.receive hname hds
  have hprepare := followsFirst_read Sendable.send hname hds
  exact ⟨⟨hload, hload.followsDefinitions_iff⟩, hprepare, hprepare.followsDefinitions_iff⟩

def Definition.malformed : Json := .object [("timeout", .string "abc")]

def Definition.misshapen : Json := .object [("backend", .string "not-an-array")]

def Group.named (ds : List Json) : Fields Json :=
  [("definitions", .array ds), ("name", .string "users")]

theorem Group.holds_named (ds : List Json) :
    (Shape.record [("name", .string)]).Holds (.object (named ds)) := by
  refine .record fun p hp v hv _ => ?_
  cases List.mem_singleton.1 hp
  cases hv
  exact .string "users"

/-- A malformed duration comes before a field of another type. -/
theorem Group.followsDefinitions_load_prepare_mixed :
    (Shape.record [("name", .string)]).Holds
        (.object (named [Definition.malformed, Definition.misshapen])) ∧
      FollowsDefinitions load Definition.load
        (.object (named [Definition.malformed, Definition.misshapen]))
        [Definition.malformed, Definition.misshapen] ∧
      prepare (.object (named [Definition.malformed, Definition.misshapen])) =
        .error (.shape ⟨"definitions[1].backend"⟩ "array" "string") := by
  have hsplit : [Definition.malformed, Definition.misshapen] =
      [Definition.malformed] ++ Definition.misshapen :: [] := rfl
  obtain ⟨⟨-, hload⟩, hprepare, -⟩ := followsDefinitions_load_prepare_iff
    (holds_named [Definition.malformed, Definition.misshapen]) rfl
  refine ⟨holds_named _, hload.2 ?_, ?_⟩
  · rintro ⟨others, -⟩
    exact others Definition.misshapen (by simp) ⟨_, rfl, rfl⟩
  · refine hprepare.shape hsplit rfl rfl ?_
    rintro x hx ⟨e, he, hshape⟩
    cases List.mem_singleton.1 hx
    cases he
    cases hshape

/-- A text without an answer comes before a malformed one. -/
def Group.stopping : List Json := [Definition.overflowing, Definition.malformed]

theorem Group.hides_stopping {definition : Json → Hydrated (Definition δ)} {path : FieldPath}
    {cause : DurationError} (reported : (DocumentError.duration path cause).isDuration)
    (hoverflowing : definition Definition.overflowing = .error (.duration path .abort))
    (hmalformed : definition Definition.malformed = .error (.duration path cause)) :
    Hides definition stopping := by
  refine ⟨?_, [Definition.overflowing], Definition.malformed, [], rfl, ?_, ?_, ?_⟩
  · rintro x hx ⟨e, he, hshape⟩
    rcases List.mem_pair.1 hx with rfl | rfl
    · cases hoverflowing.symm.trans he
      cases hshape
    · cases hmalformed.symm.trans he
      cases hshape
  · exact ⟨_, hmalformed, reported⟩
  · rintro x hx ⟨e, he, hduration⟩
    cases List.mem_singleton.1 hx
    cases hoverflowing.symm.trans he
    cases hduration
  · exact ⟨_, List.mem_singleton_self _, _, hoverflowing, rfl⟩

/-- The group stops, although the second definition has a duration to report. -/
theorem Group.not_followsDefinitions_stopping :
    (Definition.load Definition.malformed =
        .error (.duration ⟨"timeout"⟩ (.malformed "abc" (.expectedNumber 0))) ∧
      load (.object (named stopping)) =
        .error (.duration ⟨"definitions[0].timeout"⟩ .abort) ∧
      ¬ FollowsDefinitions load Definition.load (.object (named stopping)) stopping) ∧
    Definition.prepare Definition.malformed =
        .error (.duration ⟨"timeout"⟩ (.malformed "abc" (.expectedNumber 0))) ∧
      prepare (.object (named stopping)) =
        .error (.duration ⟨"definitions[0].timeout"⟩ .abort) ∧
      ¬ FollowsDefinitions prepare Definition.prepare (.object (named stopping)) stopping := by
  have hload := followsFirst_read Receivable.receive (holds_named stopping) rfl
  have hprepare := followsFirst_read Sendable.send (holds_named stopping) rfl
  refine ⟨⟨rfl, rfl, fun h => ?_⟩, rfl, rfl, fun h => ?_⟩
  · exact hload.followsDefinitions_iff.1 h (hides_stopping rfl rfl rfl)
  · exact hprepare.followsDefinitions_iff.1 h (hides_stopping rfl rfl rfl)

end ApiGateway
