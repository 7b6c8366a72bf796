import ApiGateway.Proofs.Document.Rooted
import ApiGateway.Proofs.Duration.Overflow
import Mathlib.Data.List.Nodup

/-!
# A pass, field by field

What a pass keeps and what it converts is told here for every field of the four entities, and a
pass gives just the entity that is so related to what it was given. It reports the first place whose
duration is not converted, unless there is no answer for this one (`Placed.isPass_traverse_iff`),
and the text of a path is that of no other place (`Group.nodup_paths`).
-/

set_option autoImplicit false

namespace ApiGateway

open FieldPath (Step Legible IsPlain)

/-! ## What is kept and what is converted -/

section

variable {α β ε : Type}

structure HealthCheck.Converts (convert : α → Except ε β) (h : HealthCheck α)
    (h' : HealthCheck β) : Prop where
  url : h'.url = h.url
  timeout : convert h.timeout = .ok h'.timeout

structure Backend.Converts (convert : α → Except ε β) (b : Backend α) (b' : Backend β) : Prop where
  hosts : b'.hosts = b.hosts
  timeout : convert b.timeout = .ok b'.timeout
  method : b'.method = b.method
  urlPattern : b'.urlPattern = b.urlPattern
  encoding : b'.encoding = b.encoding
  group : b'.group = b.group
  blacklist : b'.blacklist = b.blacklist
  whitelist : b'.whitelist = b.whitelist
  mapping : b'.mapping = b.mapping
  isCollection : b'.isCollection = b.isCollection
  wrapCollectionToJson : b'.wrapCollectionToJson = b.wrapCollectionToJson
  target : b'.target = b.target
  middleware : b'.middleware = b.middleware
  disableHostSanitize : b'.disableHostSanitize = b.disableHostSanitize
  lbMode : b'.lbMode = b.lbMode

structure Definition.Converts (convert : α → Except ε β) (d : Definition α)
    (d' : Definition β) : Prop where
  name : d'.name = d.name
  active : d'.active = d.active
  endpoint : d'.endpoint = d.endpoint
  hosts : d'.hosts = d.hosts
  method : d'.method = d.method
  timeout : convert d.timeout = .ok d'.timeout
  cacheTtl : convert d.cacheTtl = .ok d'.cacheTtl
  outputEncoding : d'.outputEncoding = d.outputEncoding
  exceptQuerystrings : d'.exceptQuerystrings = d.exceptQuerystrings
  exceptHeaders : d'.exceptHeaders = d.exceptHeaders
  middleware : d'.middleware = d.middleware
  backends : List.Forall₂ (Backend.Converts convert) d.backends d'.backends

structure Group.Converts (convert : α → Except ε β) (g : Group α) (g' : Group β) : Prop where
  name : g'.name = g.name
  definitions : List.Forall₂ (Definition.Converts convert) g.definitions g'.definitions

variable {convert : α → Except ε β}

theorem HealthCheck.map_eq_map_ok_iff {h : HealthCheck α} {h' : HealthCheck β} :
    h.map convert = h'.map .ok ↔ h.Converts convert h' := by
  constructor
  · intro he
    exact ⟨(congrArg HealthCheck.url he).symm, congrArg HealthCheck.timeout he⟩
  · intro hc
    unfold map
    rw [hc.url, hc.timeout]

theorem Backend.map_eq_map_ok_iff {b : Backend α} {b' : Backend β} :
    b.map convert = b'.map .ok ↔ b.Converts convert b' := by
  constructor
  · intro h
    exact {
      hosts := (congrArg Backend.hosts h).symm
      timeout := congrArg Backend.timeout h
      method := (congrArg Backend.method h).symm
      urlPattern := (congrArg Backend.urlPattern h).symm
      encoding := (congrArg Backend.encoding h).symm
      group := (congrArg Backend.group h).symm
      blacklist := (congrArg Backend.blacklist h).symm
      whitelist := (congrArg Backend.whitelist h).symm
      mapping := (congrArg Backend.mapping h).symm
      isCollection := (congrArg Backend.isCollection h).symm
      wrapCollectionToJson := (congrArg Backend.wrapCollectionToJson h).symm
      target := (congrArg Backend.target h).symm
      middleware := (congrArg Backend.middleware h).symm
      disableHostSanitize := (congrArg Backend.disableHostSanitize h).symm
      lbMode := (congrArg Backend.lbMode h).symm }
  · intro h
    unfold map withTimeout
    rw [h.hosts, h.timeout, h.method, h.urlPattern, h.encoding, h.group, h.blacklist, h.whitelist,
      h.mapping, h.isCollection, h.wrapCollectionToJson, h.target, h.middleware,
      h.disableHostSanitize, h.lbMode]

theorem Definition.map_backends_iff {bs : List (Backend α)} {bs' : List (Backend β)} :
    bs.map (Backend.map convert) = bs'.map (Backend.map .ok) ↔
      List.Forall₂ (Backend.Converts convert) bs bs' := by
  simp only [Indexed.map_eq_map_iff, Backend.map_eq_map_ok_iff]

theorem Definition.map_eq_map_ok_iff {d : Definition α} {d' : Definition β} :
    d.map convert = d'.map .ok ↔ d.Converts convert d' := by
  constructor
  · intro h
    exact {
      name := (congrArg Definition.name h).symm
      active := (congrArg Definition.active h).symm
      endpoint := (congrArg Definition.endpoint h).symm
      hosts := (congrArg Definition.hosts h).symm
      method := (congrArg Definition.method h).symm
      timeout := congrArg Definition.timeout h
      cacheTtl := congrArg Definition.cacheTtl h
      outputEncoding := (congrArg Definition.outputEncoding h).symm
      exceptQuerystrings := (congrArg Definition.exceptQuerystrings h).symm
      exceptHeaders := (congrArg Definition.exceptHeaders h).symm
      middleware := (congrArg Definition.middleware h).symm
      backends := map_backends_iff.1 (congrArg Definition.backends h) }
  · intro h
    unfold map withDurations
    rw [h.name, h.active, h.endpoint, h.hosts, h.method, h.timeout, h.cacheTtl, h.outputEncoding,
      h.exceptQuerystrings, h.exceptHeaders, h.middleware, map_backends_iff.2 h.backends]

theorem Group.map_eq_map_ok_iff {g : Group α} {g' : Group β} :
    g.map convert = g'.map .ok ↔ g.Converts convert g' := by
  have hdefinitions : g.definitions.map (Definition.map convert) =
      g'.definitions.map (Definition.map .ok) ↔
        List.Forall₂ (Definition.Converts convert) g.definitions g'.definitions := by
    simp only [Indexed.map_eq_map_iff, Definition.map_eq_map_ok_iff]
  constructor
  · intro h
    exact ⟨(congrArg Group.name h).symm, hdefinitions.1 (congrArg Group.definitions h)⟩
  · intro h
    unfold map
    rw [h.name, hdefinitions.2 h.definitions]

end

/-! ## Paths -/

section

variable {α γ : Type} {key : String} {places : γ → List (List Step × α)}

theorem legible_placesIn (hkey : IsPlain key) (h : ∀ x, ∀ p ∈ places x, Legible p.1)
    (items : List γ) : ∀ p ∈ placesIn key places items, Legible p.1 := by
  intro p hp
  obtain ⟨x, -, hx⟩ := List.mem_flatMap.1 hp
  obtain ⟨q, hq, rfl⟩ := List.mem_map.1 hx
  exact .field hkey (.index x.2 (h x.1 q hq))

/-- The position tells the items of a list apart. -/
theorem nodup_flatMap_zipIdx (lift : Nat → List Step → List Step)
    (lift_inj : ∀ {i j steps steps'}, lift i steps = lift j steps' → i = j ∧ steps = steps')
    (h : ∀ x, ((places x).map Prod.fst).Nodup) (items : List γ) :
    ((items.zipIdx.flatMap fun x => (places x.1).map fun p => (lift x.2 p.1, p.2)).map
      Prod.fst).Nodup := by
  rw [List.map_flatMap, List.nodup_flatMap]
  constructor
  · intro x _
    have hmap := (h x.1).map (f := lift x.2) fun _ _ e => (lift_inj e).2
    rwa [List.map_map] at hmap ⊢
  · have hpositions : (items.zipIdx).Pairwise fun x y => x.2 ≠ y.2 := by
      apply List.pairwise_map.1
      rw [List.zipIdx_map_snd]
      exact List.nodup_range'
    refine hpositions.imp fun {x y} hxy => ?_
    intro steps hx hy
    simp only [List.map_map, List.mem_map, Function.comp_apply] at hx hy
    obtain ⟨p, -, rfl⟩ := hx
    obtain ⟨q, -, hq⟩ := hy
    exact hxy (lift_inj hq).1.symm

theorem nodup_placesIn (h : ∀ x, ((places x).map Prod.fst).Nodup) (items : List γ) :
    ((placesIn key places items).map Prod.fst).Nodup := by
  refine nodup_flatMap_zipIdx (fun i steps => .field key :: .index i :: steps) ?_ h items
  intro i j steps steps' e
  cases e
  exact ⟨rfl, rfl⟩

theorem FieldPath.eq_of_walk_eq {steps steps' : List Step} (h : Legible steps)
    (h' : Legible steps') (e : root.walk steps = root.walk steps') : steps = steps' := by
  rw [← steps_walk h, e, steps_walk h']

/-- The text of its path tells a place from every other one. -/
theorem nodup_paths {places : List (List Step × α)} (legible : ∀ p ∈ places, Legible p.1)
    (h : (places.map Prod.fst).Nodup) :
    (places.map fun p => (FieldPath.root.walk p.1).text).Nodup := by
  have hpaths := List.Nodup.map_on (f := fun steps => (FieldPath.root.walk steps).text) ?_ h
  · rwa [List.map_map] at hpaths
  · intro steps hs steps' hs' htext
    obtain ⟨p, hp, rfl⟩ := List.mem_map.1 hs
    obtain ⟨p', hp', rfl⟩ := List.mem_map.1 hs'
    exact FieldPath.eq_of_walk_eq (legible p hp) (legible p' hp')
      (FieldPath.eq_of_toList_eq (congrArg String.toList htext))

end

section

variable {α : Type}

theorem Backend.legible_places (b : Backend α) : ∀ p ∈ b.places, Legible p.1 := by
  intro p hp
  cases List.mem_singleton.1 hp
  exact .field (by decide) .nil

theorem Backend.nodup_places (b : Backend α) : (b.places.map Prod.fst).Nodup :=
  List.nodup_singleton [Step.field "timeout"]

theorem Definition.legible_places (d : Definition α) : ∀ p ∈ d.places, Legible p.1 := by
  intro p hp
  rcases List.mem_cons.1 hp with rfl | hp
  · exact .field (by decide) .nil
  rcases List.mem_cons.1 hp with rfl | hp
  · exact .field (by decide) .nil
  · exact legible_placesIn (by decide) Backend.legible_places d.backends p hp

theorem Definition.nodup_places (d : Definition α) : (d.places.map Prod.fst).Nodup := by
  have hbackends : ((placesIn "backend" Backend.places d.backends).map Prod.fst).Nodup :=
    nodup_placesIn Backend.nodup_places d.backends
  have hbelow (name : String) :
      [Step.field name] ∉ (placesIn "backend" Backend.places d.backends).map Prod.fst := by
    intro hmem
    obtain ⟨p, hp, hsteps⟩ := List.mem_map.1 hmem
    obtain ⟨x, -, hx⟩ := List.mem_flatMap.1 hp
    obtain ⟨q, -, rfl⟩ := List.mem_map.1 hx
    cases hsteps
  unfold places
  rw [List.map_cons, List.map_cons, List.nodup_cons, List.nodup_cons, List.mem_cons, not_or]
  have hne : [Step.field "timeout"] ≠ [Step.field "cache_ttl"] := by decide
  exact ⟨⟨hne, hbelow _⟩, hbelow _, hbackends⟩

theorem Group.legible_places (g : Group α) : ∀ p ∈ g.places, Legible p.1 :=
  legible_placesIn (by decide) Definition.legible_places g.definitions

theorem Group.nodup_places (g : Group α) : (g.places.map Prod.fst).Nodup :=
  nodup_placesIn Definition.nodup_places g.definitions

theorem Group.nodup_paths (g : Group α) :
    (g.places.map fun p => (FieldPath.root.walk p.1).text).Nodup :=
  ApiGateway.nodup_paths g.legible_places g.nodup_places

end

/-! ## Passes -/

section

variable {α β : Type} (convert : α → Except DurationError β) (places : List (List Step × α))

/-- The first duration that is not converted has no answer at all. -/
def Stops : Prop :=
  ∃ before steps x after, places = before ++ (steps, x) :: after ∧
    (∀ p ∈ before, ∃ y, convert p.2 = .ok y) ∧ convert x = .error .abort

/-- The result of a pass that converts the durations at the places: all of them, or a report of the
first that fails. -/
structure IsPass {ρ : Type} (Converts : ρ → Prop) (result : Hydrated ρ) : Prop where
  exists_ok_iff : (∃ e, result = .ok e) ↔ ∀ p ∈ places, ∃ y, convert p.2 = .ok y
  ok_iff (e : ρ) : result = .ok e ↔ Converts e
  report (h : ¬ ∃ e, result = .ok e) : ∃ before steps x after cause,
    places = before ++ (steps, x) :: after ∧ (∀ p ∈ before, ∃ y, convert p.2 = .ok y) ∧
      convert x = .error cause ∧ cause ≠ .abort ∧
      result = .error (.duration (FieldPath.root.walk steps) cause)

end

section

variable {E : Type → Type} [Placed E] {α β : Type} (convert : α → Except DurationError β) (e : E α)

theorem Placed.stops_iff : Stops convert (Placed.places e) ↔
    ∃ path, Traversed.traverse (convertField convert) .root e = .error (.duration path .abort) := by
  simp only [Placed.traverse_eq_error_iff]
  constructor
  · rintro ⟨before, steps, x, after, hsplit, hbefore, habort⟩
    exact ⟨_, before, steps, x, after, .abort, hsplit, hbefore, habort, rfl⟩
  · rintro ⟨path, before, steps, x, after, cause, hsplit, hbefore, hcause, h⟩
    cases h
    exact ⟨before, steps, x, after, hsplit, hbefore, hcause⟩

variable {convert} in
theorem Placed.isPass_traverse_iff {Converts : E β → Prop}
    (h : ∀ e', Timed.map convert e = Timed.map .ok e' ↔ Converts e') :
    IsPass convert (Placed.places e) Converts
        (Traversed.traverse (convertField convert) .root e) ↔
      ¬ Stops convert (Placed.places e) := by
  rw [Placed.stops_iff]
  constructor
  · rintro hpass ⟨path, hresult⟩
    have hnot : ¬ ∃ e', Traversed.traverse (convertField convert) .root e = .ok e' := by
      rintro ⟨e', he⟩
      rw [hresult] at he
      cases he
    obtain ⟨_, _, _, _, cause, -, -, -, hcause, hreport⟩ := hpass.report hnot
    rw [hresult] at hreport
    cases hreport
    exact hcause rfl
  · intro hstops
    constructor
    case exists_ok_iff => exact Placed.exists_traverse_iff convert e
    case ok_iff =>
      intro e'
      rw [← h]
      exact Traversed.traverse_eq_ok_iff (fun _ _ _ => Except.mapError_eq_ok_iff) .root e e'
    case report =>
      intro hnot
      cases hresult : Traversed.traverse (convertField convert) .root e with
      | ok e' => exact absurd ⟨e', hresult⟩ hnot
      | error err =>
        obtain ⟨before, steps, x, after, cause, hsplit, hbefore, hcause, rfl⟩ :=
          (Placed.traverse_eq_error_iff convert e).1 hresult
        refine ⟨before, steps, x, after, cause, hsplit, hbefore, hcause, ?_, rfl⟩
        rintro rfl
        exact hstops ⟨_, hresult⟩

end

/-- All forms but the editor's have texts, and there is no answer for one that overflows. -/
theorem conversion_eq_abort_iff :
    (∀ d : RawDuration, (Receivable.receive d = .error .abort ↔ d.Overflows) ∧
      (Sendable.send d = .error .abort ↔ d.Overflows)) ∧
    (∀ t : DurationText, Receivable.receive t = .error .abort ↔ Duration.Overflows t.text) ∧
    ∀ x : Seconds, Sendable.send x ≠ .error .abort :=
  ⟨fun _ => ⟨RawDuration.receive_eq_abort_iff, RawDuration.send_eq_abort_iff⟩,
    fun _ => Duration.read_eq_abort_iff, fun x => Duration.write_ne_abort x.value⟩

theorem isPass_receive_and_send_iff (δ : Type) :
    (∀ [Receivable δ],
      (∀ h : HealthCheck δ,
        IsPass Receivable.receive h.places (h.Converts Receivable.receive) h.receive ↔
          ¬ Stops Receivable.receive h.places) ∧
      (∀ b : Backend δ,
        IsPass Receivable.receive b.places (b.Converts Receivable.receive) b.receive ↔
          ¬ Stops Receivable.receive b.places) ∧
      (∀ d : Definition δ,
        IsPass Receivable.receive d.places (d.Converts Receivable.receive) d.receive ↔
          ¬ Stops Receivable.receive d.places) ∧
      ∀ g : Group δ,
        IsPass Receivable.receive g.places (g.Converts Receivable.receive) g.receive ↔
          ¬ Stops Receivable.receive g.places) ∧
    (∀ [Sendable δ],
      (∀ h : HealthCheck δ, IsPass Sendable.send h.places (h.Converts Sendable.send) h.send ↔
        ¬ Stops Sendable.send h.places) ∧
      (∀ b : Backend δ, IsPass Sendable.send b.places (b.Converts Sendable.send) b.send ↔
        ¬ Stops Sendable.send b.places) ∧
      (∀ d : Definition δ, IsPass Sendable.send d.places (d.Converts Sendable.send) d.send ↔
        ¬ Stops Sendable.send d.places) ∧
      ∀ g : Group δ, IsPass Sendable.send g.places (g.Converts Sendable.send) g.send ↔
        ¬ Stops Sendable.send g.places) ∧
    (∀ g : Group δ, (g.places.map fun p => (FieldPath.root.walk p.1).text).Nodup) ∧
    (∀ d : RawDuration, (Receivable.receive d = .error .abort ↔ d.Overflows) ∧
      (Sendable.send d = .error .abort ↔ d.Overflows)) ∧
    (∀ t : DurationText, Receivable.receive t = .error .abort ↔ Duration.Overflows t.text) ∧
    ∀ x : Seconds, Sendable.send x ≠ .error .abort := by
  refine ⟨?_, ?_, Group.nodup_paths, conversion_eq_abort_iff⟩
  · intro _
    refine ⟨fun h => ?_, fun b => ?_, fun d => ?_, fun g => ?_⟩
    · exact Placed.isPass_traverse_iff h fun _ => HealthCheck.map_eq_map_ok_iff
    · exact Placed.isPass_traverse_iff b fun _ => Backend.map_eq_map_ok_iff
    · exact Placed.isPass_traverse_iff d fun _ => Definition.map_eq_map_ok_iff
    · exact Placed.isPass_traverse_iff g fun _ => Group.map_eq_map_ok_iff
  · intro _
    refine ⟨fun h => ?_, fun b => ?_, fun d => ?_, fun g => ?_⟩
    · exact Placed.isPass_traverse_iff h fun _ => HealthCheck.map_eq_map_ok_iff
    · exact Placed.isPass_traverse_iff b fun _ => Backend.map_eq_map_ok_iff
    · exact Placed.isPass_traverse_iff d fun _ => Definition.map_eq_map_ok_iff
    · exact Placed.isPass_traverse_iff g fun _ => Group.map_eq_map_ok_iff

/-- The timeout can be converted, and the parts of the cache time make `2⁶⁴` seconds. -/
def Definition.stopping : Definition RawDuration :=
  { (Definition.standard : Definition RawDuration) with
    cacheTtl := .text "18446744073709551615s 1000ms" }

theorem Definition.receive_and_send_stopping :
    Definition.stopping.receive = .error (.duration ⟨"cache_ttl"⟩ .abort) ∧
      Definition.stopping.send = .error (.duration ⟨"cache_ttl"⟩ .abort) := ⟨rfl, rfl⟩

end ApiGateway
