import ApiGateway.Catalog.Duplicates
import ApiGateway.Proofs.Document.Passes
import ApiGateway.Proofs.Duration.RoundTrip

/-!
# Validation and look-ups in any form

Validation looks at no duration, so what it reports is the same in every form
(`Catalog.issues_map`), and a look-up finds the entry at the same place. A catalog that is sent
therefore answers as the edited one, in wire form (`Catalog.answersAlike_of_send`).
-/

set_option autoImplicit false

namespace ApiGateway

variable {α β : Type} (f : α → β)

theorem Definition.issues_map (d : Definition α) : (d.map f).issues = d.issues := by
  have hbackends (path : Nat → FieldPath) :
      (d.backends.map (Backend.map f)).zipIdx.map
          (fun x => Validation.backendIssues Address.isHttpAddress d.hosts (path x.2) x.1) =
        d.backends.zipIdx.map fun x =>
          Validation.backendIssues Address.isHttpAddress d.hosts (path x.2) x.1 := by
    rw [List.zipIdx_map, List.map_map]
    rfl
  have hempty : (d.backends.map (Backend.map f)).isEmpty = d.backends.isEmpty :=
    List.isEmpty_map
  unfold issues issuesFor map withDurations
  dsimp only
  rw [hbackends, hempty]

namespace Catalog

theorem definitionIssues_map (base : FieldPath) (i : Nat) (names endpoints : Seen)
    (ds : List (Definition α)) :
    definitionIssues base i names endpoints (ds.map (Definition.map f)) =
      definitionIssues base i names endpoints ds := by
  induction ds generalizing i names endpoints with
  | nil => rfl
  | cons d ds ih =>
    rw [List.map_cons]
    unfold definitionIssues
    rw [Definition.issues_map]
    dsimp only [Definition.map, Definition.withDurations]
    rw [ih]

theorem groupIssues_map (i : Nat) (names endpoints : Seen) (gs : List (Group α)) :
    groupIssues i names endpoints (gs.map (Group.map f)) = groupIssues i names endpoints gs := by
  induction gs generalizing i names endpoints with
  | nil => rfl
  | cons g gs ih =>
    rw [List.map_cons]
    unfold groupIssues
    dsimp only [Group.map]
    rw [definitionIssues_map, ih]

theorem issues_map (c : Catalog α) : (c.map f).issues = c.issues :=
  groupIssues_map f 0 .none .none c.groups

/-! ## Look-ups -/

theorem groupNames_map (c : Catalog α) : (c.map f).groupNames = c.groupNames := by
  unfold groupNames map
  rw [List.map_map]
  rfl

theorem group?_map (c : Catalog α) (name : String) :
    (c.map f).group? name = (c.group? name).map (Group.map f) := by
  unfold group? map
  rw [List.find?_map]
  rfl

theorem findByName?_map (c : Catalog α) (group name : String) :
    (c.map f).findByName? group name = (c.findByName? group name).map (Definition.map f) := by
  unfold findByName?
  rw [group?_map]
  cases c.group? group with
  | none => rfl
  | some g =>
    show (g.definitions.map (Definition.map f)).find? _ = _
    rw [List.find?_map]
    rfl

theorem findByEndpoint?_map (c : Catalog α) (endpoint : String) :
    (c.map f).findByEndpoint? endpoint =
      (c.findByEndpoint? endpoint).map (Prod.map (Group.map f) (Definition.map f)) := by
  unfold findByEndpoint? map
  rw [List.findSome?_map, List.map_findSome?]
  congr 1
  funext g
  show ((g.definitions.map (Definition.map f)).find? _).map _ = _
  rw [List.find?_map, Option.map_map, Function.comp_apply, Option.map_map]
  rfl

end Catalog

/-! ## Before and after a pass -/

section

variable {γ δ : Type} {g : β → γ}

theorem Option.rel_of_map_eq {f : α → γ} {R : α → β → Prop} {a : Option α} {b : Option β}
    (h : a.map f = b.map g) (hr : ∀ x y, f x = g y → R x y) : Option.Rel R a b := by
  cases a with
  | none =>
    cases b with
    | none => exact .none
    | some y => cases h
  | some x =>
    cases b with
    | none => cases h
    | some y => exact .some (hr x y (Option.some.inj h))

theorem Definition.issues_of_map_eq {f : α → γ} {d : Definition α} {d' : Definition β}
    (h : d.map f = d'.map g) : d'.issues = d.issues := by
  rw [← issues_map g d', ← h, issues_map]

theorem Definition.issues_receive [Receivable δ] {d : Definition δ} {d' : Definition Seconds}
    (h : d.receive = .ok d') : d'.issues = d.issues :=
  issues_of_map_eq ((Traversed.receive_eq_ok_iff .root d d').1 h)

theorem Definition.issues_send [Sendable δ] {d : Definition δ} {d' : Definition DurationText}
    (h : d.send = .ok d') : d'.issues = d.issues :=
  issues_of_map_eq ((Traversed.send_eq_ok_iff .root d d').1 h)

namespace Catalog

/-- What a catalog in wire form answers to validation and to look-ups, told from the one that it was
sent from. -/
structure AnswersAlike [Sendable δ] (c : Catalog δ) (w : Catalog DurationText) : Prop where
  issues : w.issues = c.issues
  groupNames : w.groupNames = c.groupNames
  byName (group name : String) : Option.Rel (fun d d' => d.send = .ok d')
    (c.findByName? group name) (w.findByName? group name)
  byEndpoint (endpoint : String) :
    Option.Rel (fun p p' => p.1.send = .ok p'.1 ∧ p.2.send = .ok p'.2)
      (c.findByEndpoint? endpoint) (w.findByEndpoint? endpoint)

theorem answersAlike_of_send [Sendable δ] {c : Catalog δ} {w : Catalog DurationText}
    (h : c.send = .ok w) : c.AnswersAlike w := by
  have hmap := (send_eq_ok_iff c w).1 h
  constructor
  case issues =>
    have hissues := congrArg Catalog.issues hmap
    rwa [issues_map, issues_map, eq_comm] at hissues
  case groupNames =>
    have hnames := congrArg Catalog.groupNames hmap
    rwa [groupNames_map, groupNames_map, eq_comm] at hnames
  case byName =>
    intro group name
    have hfound := congrArg (·.findByName? group name) hmap
    simp only [findByName?_map] at hfound
    exact Option.rel_of_map_eq hfound fun d d' hd => (Traversed.send_eq_ok_iff .root d d').2 hd
  case byEndpoint =>
    intro endpoint
    have hfound := congrArg (·.findByEndpoint? endpoint) hmap
    simp only [findByEndpoint?_map] at hfound
    refine Option.rel_of_map_eq hfound fun p p' hp => ?_
    obtain ⟨hgroup, hd⟩ := Prod.mk.inj hp
    exact ⟨(Group.send_eq_ok_iff p.1 p'.1).2 hgroup,
      (Traversed.send_eq_ok_iff .root p.2 p'.2).2 hd⟩

theorem issues_and_answers_of_pass :
    (∀ (δ : Type) [Receivable δ] (d : Definition δ) (d' : Definition Seconds),
      d.receive = .ok d' → d'.issues = d.issues) ∧
    (∀ (δ : Type) [Sendable δ] (d : Definition δ) (d' : Definition DurationText),
      d.send = .ok d' → d'.issues = d.issues) ∧
    ∀ (δ : Type) [Sendable δ] (c : Catalog δ) (w : Catalog DurationText),
      c.send = .ok w → c.AnswersAlike w :=
  ⟨fun _ _ _ _ => Definition.issues_receive, fun _ _ _ _ => Definition.issues_send,
    fun _ _ _ _ => answersAlike_of_send⟩

end Catalog

end

/-! ## Short spans -/

namespace Timed

variable {E : Type → Type} [Timed E] {e : E Span}

theorem receive_spans (h : ∀ s ∈ durations e, s.secs < 2 ^ 23) :
    map Receivable.receive (map Duration.ofSpan e) = map .ok (map Seconds.ofSpan e) := by
  rw [map_map, map_map]
  apply map_congr
  intro s hs
  have hlt := h s hs
  rw [Function.comp_apply, Function.comp_apply]
  exact Duration.read_text .standard (Span.isReadable_of_lt (by omega))

theorem send_spans (h : ∀ s ∈ durations e, s.secs < 2 ^ 23) :
    map Sendable.send (map Seconds.ofSpan e) = map .ok (map Duration.ofSpan e) := by
  rw [map_map, map_map]
  apply map_congr
  intro s hs
  rw [Function.comp_apply, Function.comp_apply]
  exact Duration.write_of_toSpan? (Seconds.toSpan?_ofSpan (h s hs))

end Timed

/-- All durations are a minute long. -/
def Definition.minutely (name : String) : Definition Span :=
  { (Definition.standard : Definition Seconds).map fun _ =>
      StandardDuration.definitionTimeout.span with
    name
    endpoint := "/users" }

/-- One name for both groups and all definitions, in different casings, and one endpoint. -/
def Catalog.repeated : Catalog Span :=
  ⟨[⟨"users", [.minutely "list", .minutely "List"]⟩, ⟨"Users", [.minutely "list"]⟩]⟩

theorem Catalog.issues_and_answers_of_pass_repeated :
    (∃ e, ((Definition.minutely "list").map Duration.ofSpan).receive = .ok e ∧
      e.issues = ((Definition.minutely "list").map Duration.ofSpan).issues) ∧
    (∃ t, ((Definition.minutely "list").map Seconds.ofSpan).send = .ok t ∧
      t.issues = ((Definition.minutely "list").map Seconds.ofSpan).issues) ∧
    ∃ w, (repeated.map Seconds.ofSpan).send = .ok w ∧
      (repeated.map Seconds.ofSpan).AnswersAlike w ∧ w.issues ≠ [] := by
  have hshort : ∀ s ∈ Timed.durations (Definition.minutely "list"), s.secs < 2 ^ 23 := by decide
  have hreceive := (Traversed.receive_eq_ok_iff .root _ _).2 (Timed.receive_spans hshort)
  have hsend := (Traversed.send_eq_ok_iff .root _ _).2 (Timed.send_spans hshort)
  have hrepeated := (send_eq_ok_iff (repeated.map Seconds.ofSpan) _).2
    (Timed.send_spans (e := repeated) (by decide))
  have hissues : (repeated.map Duration.ofSpan).issues ≠ [] := by
    rw [issues_map]
    decide +kernel
  exact ⟨⟨_, hreceive, issues_and_answers_of_pass.1 _ _ _ hreceive⟩,
    ⟨_, hsend, issues_and_answers_of_pass.2.1 _ _ _ hsend⟩,
    ⟨_, hrepeated, issues_and_answers_of_pass.2.2 _ _ _ hrepeated, hissues⟩⟩

end ApiGateway
