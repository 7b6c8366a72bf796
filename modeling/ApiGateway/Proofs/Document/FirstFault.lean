import ApiGateway.Document.Hydration
import ApiGateway.Proofs.Document.Shape
import ApiGateway.Proofs.Indexed

/-!
# What fills an entity

An entity is filled in from the values that have its shape, and of every other value the first fault
is reported at its place. One lemma for each entity reads off what filling it in comes to, field by
field (`Shape.Outcome`), and the rest follows from that.
-/

set_option autoImplicit false

namespace ApiGateway

open FieldPath (Step)

namespace Shape

variable {α β : Type} {s : Shape} {v : Json} {key : String} {fields : Fields Json}

/-- What reading a value comes to, as a function of where it lies: an entity, or a report of the
first fault. -/
inductive Outcome (s : Shape) (v : Json) (read : FieldPath → Hydrated α) : Prop where
  | filled (holds : s.Holds v) (a : α) (eq : ∀ path, read path = .ok a)
  | failed {bad : Shape} {found : Json} {steps : List Step}
      (fault : s.FirstFault v steps bad found)
      (eq : ∀ path, read path = .error (.shape (path.walk steps) bad.expected found.kind))

namespace Outcome

variable {read : FieldPath → Hydrated α}

theorem exists_of_holds (h : s.Outcome v read) (hv : s.Holds v) :
    ∃ a, ∀ path, read path = .ok a := by
  cases h with
  | filled _ a hread => exact ⟨a, hread⟩
  | failed fault _ => exact absurd hv fault.not_holds

theorem misfit (h : s.fits v = false) :
    s.Outcome v fun path => (Record.mismatch path s.expected v : Hydrated α) :=
  .failed (.here h) fun _ => rfl

section

variable {next : α → FieldPath → Hydrated β}

theorem bind_ok {a : α} (h : ∀ path, read path = .ok a) (hn : s.Outcome v (next a)) :
    s.Outcome v fun path => read path >>= fun a => next a path := by
  cases hn with
  | filled holds b hnext =>
    refine .filled holds b fun path => ?_
    rw [h]
    exact hnext path
  | failed fault hnext =>
    refine .failed fault fun path => ?_
    rw [h]
    exact hnext path

theorem bind_error {bad : Shape} {found : Json} {steps : List Step}
    (fault : s.FirstFault v steps bad found)
    (h : ∀ path, read path = .error (.shape (path.walk steps) bad.expected found.kind)) :
    s.Outcome v fun path => read path >>= fun a => next a path := by
  refine .failed fault fun path => ?_
  rw [h]
  rfl

theorem map (f : α → β) (h : s.Outcome v read) :
    s.Outcome v fun path => read path >>= fun a => .ok (f a) := by
  cases h with
  | filled holds a hread => exact bind_ok hread (.filled holds (f a) fun _ => rfl)
  | failed fault hread => exact bind_error fault hread

end

/-! ### Records -/

theorem nothing (a : α) : Outcome (.record []) (.object fields) fun _ => .ok a :=
  .filled (holds_record_nil fields) a fun _ => rfl

theorem absent {a : α} (h : ∀ v, Fields.get? fields key = some v → v = .null)
    (eq : ∀ path, read path = .ok a) : Outcome (.record [(key, s)]) (.object fields) read := by
  refine .filled (.record fun p hp v hv hne => ?_) a eq
  rw [List.mem_singleton.1 hp] at hv
  exact absurd (h v hv) hne

theorem present {inner : FieldPath → Hydrated α} (h : Fields.get? fields key = some v)
    (hne : v ≠ .null) (hv : s.Outcome v inner) (eq : ∀ path, read path = inner (path.field key)) :
    Outcome (.record [(key, s)]) (.object fields) read := by
  cases hv with
  | filled holds a hread =>
    refine .filled (.record fun p hp u hu _ => ?_) a fun path => (eq path).trans (hread _)
    rw [List.mem_singleton.1 hp] at hu ⊢
    cases h.symm.trans hu
    exact holds
  | failed fault hread =>
    have hfault : FirstFault (.record ([] ++ [(key, s)])) (.object fields) _ _ _ :=
      .field (holds_record_nil fields) h hne fault
    exact .failed hfault fun path => (eq path).trans (hread _)

/-- Fields are read one after another, up to the first fault. -/
theorem append {schema rest : List (String × Shape)} {next : α → FieldPath → Hydrated β}
    (h : Outcome (.record schema) (.object fields) read)
    (hrest : ∀ a, Outcome (.record rest) (.object fields) (next a)) :
    Outcome (.record (schema ++ rest)) (.object fields) fun path =>
      read path >>= fun a => next a path := by
  cases h with
  | failed fault hread =>
    cases fault with
    | here misfit => cases misfit
    | field earlier present value inside =>
      rw [List.append_assoc, List.cons_append]
      exact bind_error (.field earlier present value inside) hread
  | filled holds a hread =>
    refine bind_ok hread ?_
    cases hrest a with
    | filled holdsRest b hnext => exact .filled (holds.record_append holdsRest) b hnext
    | failed fault hnext =>
      cases fault with
      | here misfit => cases misfit
      | field earlier present value inside =>
        rw [← List.append_assoc]
        exact .failed (.field (holds.record_append earlier) present value inside) hnext

theorem cons {p : String × Shape} {rest : List (String × Shape)}
    {next : α → FieldPath → Hydrated β} (h : Outcome (.record [p]) (.object fields) read)
    (hrest : ∀ a, Outcome (.record rest) (.object fields) (next a)) :
    Outcome (.record (p :: rest)) (.object fields) fun path =>
      read path >>= fun a => next a path :=
  append h hrest

theorem ofJson {schema : List (String × Shape)} {next : Record → Hydrated α}
    (h : ∀ fields, Outcome (.record schema) (.object fields) fun path => next ⟨fields, path⟩)
    (v : Json) : Outcome (.record schema) v fun path => Record.ofJson v path >>= next := by
  cases v with
  | object fields => exact h fields
  | _ => exact .failed (.here rfl) fun _ => rfl

/-! ### Items and entries -/

theorem items {item : Json → FieldPath → Hydrated α} (h : ∀ v, s.Outcome v (item v))
    (values : List Json) : Outcome (.list s) (.array values) fun path =>
      Indexed.traverse (fun i v => item v (path.index i)) values := by
  suffices ht : ∀ before : List Json, (∀ u ∈ before, s.Holds u) →
      Outcome (.list s) (.array (before ++ values)) fun path =>
        Indexed.traverseFrom (fun i v => item v (path.index i)) before.length values from
    ht [] (List.forall_mem_nil _)
  induction values with
  | nil =>
    intro before hb
    rw [List.append_nil]
    exact .filled (.list hb) [] fun _ => rfl
  | cons v values ih =>
    intro before hb
    unfold Indexed.traverseFrom
    cases h v with
    | failed fault hread => exact bind_error (.item hb fault) fun path => hread _
    | filled holds a hread =>
      have hrest := ih (before ++ [v])
        (List.forall_mem_append.2 ⟨hb, List.forall_mem_singleton.2 holds⟩)
      rw [List.append_assoc, List.singleton_append, List.length_append] at hrest
      exact bind_ok (fun path => hread _) (hrest.map (a :: ·))

theorem text (v : Json) : Outcome .string v (Record.text v) := by
  cases v with
  | string s => exact .filled (.string s) s fun _ => rfl
  | _ => exact .misfit rfl

theorem textEntries (entries : Fields Json) :
    Outcome .texts (.object entries) fun path => Record.textEntries path entries := by
  suffices ht : ∀ before : Fields Json, (∀ p ∈ before, Shape.string.Holds p.2) →
      Outcome .texts (.object (before ++ entries)) fun path =>
        Record.textEntries path entries from
    ht [] (List.forall_mem_nil _)
  induction entries with
  | nil =>
    intro before hb
    rw [List.append_nil]
    exact .filled (.texts hb) [] fun _ => rfl
  | cons p entries ih =>
    obtain ⟨key, v⟩ := p
    intro before hb
    unfold Record.textEntries
    cases text v with
    | failed fault hread =>
      cases fault with
      | here misfit => exact bind_error (.entry hb misfit) fun path => hread _
    | filled holds a hread =>
      have hrest := ih (before ++ [(key, v)])
        (List.forall_mem_append.2 ⟨hb, List.forall_mem_singleton.2 holds⟩)
      rw [List.append_assoc, List.singleton_append] at hrest
      exact bind_ok (fun path => hread _) (hrest.map ((key, a) :: ·))

end Outcome

end Shape

/-! ## Fields -/

namespace Record

open Shape (Outcome)

variable {α : Type} (fields : Fields Json) (key : String)

theorem get?_cases :
    (∀ v, Fields.get? fields key = some v → v = .null) ∧ (∀ path, get? ⟨fields, path⟩ key = none) ∨
      ∃ v, Fields.get? fields key = some v ∧ v ≠ .null ∧
        ∀ path, get? ⟨fields, path⟩ key = some v := by
  have hget (path : FieldPath) : get? ⟨fields, path⟩ key =
      (Fields.get? fields key).filter fun v => !v.isNull := rfl
  simp only [hget]
  cases Fields.get? fields key with
  | none => exact Or.inl ⟨nofun, fun _ => rfl⟩
  | some v =>
    cases v with
    | null => exact Or.inl ⟨fun v hv => (Option.some.inj hv).symm, fun _ => rfl⟩
    | _ => exact Or.inr ⟨_, rfl, nofun, fun _ => rfl⟩

theorem outcome_string (standard : String) :
    Outcome (.record [(key, .string)]) (.object fields) fun path =>
      string ⟨fields, path⟩ key standard := by
  unfold string
  rcases get?_cases fields key with ⟨hnone, h⟩ | ⟨v, hv, hne, h⟩
  · exact .absent hnone fun path => by rw [h]
  · refine .present hv hne (.text v) fun path => ?_
    rw [h]
    cases v <;> rfl

theorem outcome_flag (standard : Bool) :
    Outcome (.record [(key, .flag)]) (.object fields) fun path =>
      flag ⟨fields, path⟩ key standard := by
  unfold flag
  rcases get?_cases fields key with ⟨hnone, h⟩ | ⟨v, hv, hne, h⟩
  · exact .absent hnone fun path => by rw [h]
  · cases v with
    | bool b => exact .present hv hne (.filled (.flag b) b fun _ => rfl) fun path => by rw [h]
    | _ => exact .present hv hne (.misfit rfl) fun path => by rw [h]; rfl

theorem outcome_unsigned (standard : UInt32) :
    Outcome (.record [(key, .unsigned)]) (.object fields) fun path =>
      unsigned ⟨fields, path⟩ key standard := by
  unfold unsigned
  rcases get?_cases fields key with ⟨hnone, h⟩ | ⟨v, hv, hne, h⟩
  · exact .absent hnone fun path => by rw [h]
  · cases v with
    | integer n =>
      by_cases hn : 0 ≤ n ∧ n < UInt32.size
      · refine .present hv hne (.filled (.unsigned hn.1 hn.2) (.ofNat n.toNat) fun _ => rfl) ?_
        intro path
        rw [h]
        exact if_pos hn
      · refine .present hv hne (.misfit ?_) fun path => ?_
        · rw [Bool.eq_false_iff]
          intro hfits
          obtain ⟨lo, hi⟩ := Bool.and_eq_true_iff.1 hfits
          exact hn ⟨of_decide_eq_true lo, of_decide_eq_true hi⟩
        · rw [h]
          exact if_neg hn
    | _ => exact .present hv hne (.misfit rfl) fun path => by rw [h]; rfl

theorem outcome_duration (standard : RawDuration) :
    Outcome (.record [(key, .duration)]) (.object fields) fun path =>
      duration ⟨fields, path⟩ key standard := by
  unfold duration
  rcases get?_cases fields key with ⟨hnone, h⟩ | ⟨v, hv, hne, h⟩
  · exact .absent hnone fun path => by rw [h]
  · cases v with
    | string s => exact .present hv hne (.filled (.phrase s) _ fun _ => rfl) fun path => by rw [h]
    | integer n => exact .present hv hne (.filled (.integer n) _ fun _ => rfl) fun path => by rw [h]
    | float x => exact .present hv hne (.filled (.float x) _ fun _ => rfl) fun path => by rw [h]
    | _ => exact .present hv hne (.misfit rfl) fun path => by rw [h]; rfl

theorem outcome_opaqueFields :
    Outcome (.record [(key, .object)]) (.object fields) fun path =>
      opaqueFields ⟨fields, path⟩ key := by
  unfold opaqueFields object?
  rcases get?_cases fields key with ⟨hnone, h⟩ | ⟨v, hv, hne, h⟩
  · exact .absent hnone fun path => by rw [h]; rfl
  · cases v with
    | object inner =>
      exact .present hv hne (.filled (.object inner) inner fun _ => rfl) fun path => by rw [h]; rfl
    | _ => exact .present hv hne (.misfit rfl) fun path => by rw [h]; rfl

theorem outcome_stringMap :
    Outcome (.record [(key, .texts)]) (.object fields) fun path =>
      stringMap ⟨fields, path⟩ key := by
  unfold stringMap object?
  rcases get?_cases fields key with ⟨hnone, h⟩ | ⟨v, hv, hne, h⟩
  · exact .absent hnone fun path => by rw [h]; rfl
  · cases v with
    | object inner => exact .present hv hne (.textEntries inner) fun path => by rw [h]; rfl
    | _ => exact .present hv hne (.misfit rfl) fun path => by rw [h]; rfl

theorem outcome_items {s : Shape} {item : Json → FieldPath → Hydrated α}
    (hitem : ∀ v, s.Outcome v (item v)) (standard : List α) :
    Outcome (.record [(key, .list s)]) (.object fields) fun path =>
      items ⟨fields, path⟩ key standard item := by
  unfold items array?
  rcases get?_cases fields key with ⟨hnone, h⟩ | ⟨v, hv, hne, h⟩
  · exact .absent hnone fun path => by rw [h]; rfl
  · cases v with
    | array values => exact .present hv hne (.items hitem values) fun path => by rw [h]; rfl
    | _ => exact .present hv hne (.misfit rfl) fun path => by rw [h]; rfl

end Record

/-! ## Entities -/

open Record Shape.Outcome

theorem Host.outcome_hydrate (v : Json) : Host.shape.Outcome v (hydrate (α := Host) v) :=
  .ofJson (fun fields =>
    .cons (outcome_string fields "host" _) fun _ =>
    .cons (outcome_unsigned fields "weight" _) fun _ => .nothing _) v

theorem HealthCheck.outcome_hydrate (v : Json) :
    HealthCheck.shape.Outcome v (hydrate (α := HealthCheck RawDuration) v) :=
  .ofJson (fun fields =>
    .cons (outcome_string fields "url" _) fun _ =>
    .cons (outcome_duration fields "timeout" _) fun _ => .nothing _) v

theorem Backend.outcome_hydrate (v : Json) :
    Backend.shape.Outcome v (hydrate (α := Backend RawDuration) v) :=
  .ofJson (fun fields =>
    .cons (outcome_items fields "hosts" Host.outcome_hydrate _) fun _ =>
    .cons (outcome_duration fields "timeout" _) fun _ =>
    .cons (outcome_string fields "method" _) fun _ =>
    .cons (outcome_string fields "url_pattern" _) fun _ =>
    .cons (outcome_string fields "encoding" _) fun _ =>
    .cons (outcome_string fields "group" _) fun _ =>
    .cons (outcome_items fields "blacklist" .text _) fun _ =>
    .cons (outcome_items fields "whitelist" .text _) fun _ =>
    .cons (outcome_stringMap fields "mapping") fun _ =>
    .cons (outcome_flag fields "is_collection" _) fun _ =>
    .cons (outcome_flag fields "wrap_collection_to_json" _) fun _ =>
    .cons (outcome_string fields "target" _) fun _ =>
    .cons (outcome_opaqueFields fields "middleware") fun _ =>
    .cons (outcome_flag fields "disable_host_sanitize" _) fun _ =>
    .cons (outcome_string fields "lb_mode" _) fun _ => .nothing _) v

theorem Definition.outcome_hydrate (v : Json) :
    Definition.shape.Outcome v (ApiGateway.hydrate (α := Definition RawDuration) v) :=
  .ofJson (fun fields =>
    .cons (outcome_string fields "name" _) fun _ =>
    .cons (outcome_flag fields "active" _) fun _ =>
    .cons (outcome_string fields "endpoint" _) fun _ =>
    .cons (outcome_items fields "hosts" Host.outcome_hydrate _) fun _ =>
    .cons (outcome_string fields "method" _) fun _ =>
    .cons (outcome_duration fields "timeout" _) fun _ =>
    .cons (outcome_duration fields "cache_ttl" _) fun _ =>
    .cons (outcome_string fields "output_encoding" _) fun _ =>
    .cons (outcome_items fields "except_querystrings" .text _) fun _ =>
    .cons (outcome_items fields "except_headers" .text _) fun _ =>
    .cons (outcome_opaqueFields fields "middleware") fun _ =>
    .cons (outcome_items fields "backend" Backend.outcome_hydrate _) fun _ => .nothing _) v

theorem Group.outcome_hydrate (v : Json) :
    Group.shape.Outcome v (ApiGateway.hydrate (α := Group RawDuration) v) :=
  .ofJson (fun fields =>
    .cons (outcome_string fields "name" _) fun _ =>
    .cons (outcome_items fields "definitions" Definition.outcome_hydrate _) fun _ => .nothing _) v

/-- Which values fill an entity, and what is reported of the others. -/
structure Shape.Governs (s : Shape) (α : Type) [Hydrate α] : Prop where
  exists_hydrate_iff (v : Json) (path : FieldPath) :
    (∃ a : α, hydrate v path = .ok a) ↔ s.Holds v
  located {v : Json} (ordered : v.Ordered) {e : DocumentError}
      (failed : hydrate (α := α) v .root = .error e) :
    ∃ (steps : List Step) (bad : Shape) (found : Json),
      e = .shape (FieldPath.root.walk steps) bad.expected found.kind ∧
      (FieldPath.root.walk steps).follow? v = some found ∧ bad.fits found = false ∧
      s.FirstFault v steps bad found

theorem Shape.Governs.of_outcome {s : Shape} {α : Type} [Hydrate α]
    (h : ∀ v, s.Outcome v (hydrate (α := α) v)) (hs : s.legible) : s.Governs α where
  exists_hydrate_iff v path := by
    cases h v with
    | filled holds a hread => exact ⟨fun _ => holds, fun _ => ⟨a, hread path⟩⟩
    | failed fault hread =>
      refine ⟨?_, fun holds => absurd holds fault.not_holds⟩
      rintro ⟨a, ha⟩
      cases (hread path).symm.trans ha
  located {v} ordered e failed := by
    cases h v with
    | filled _ a hread => cases (hread .root).symm.trans failed
    | failed fault hread =>
      cases (hread .root).symm.trans failed
      exact ⟨_, _, _, rfl, fault.follow_walk hs ordered, fault.not_fits, fault⟩

theorem shape_governs_hydrate :
    Host.shape.Governs Host ∧ HealthCheck.shape.Governs (HealthCheck RawDuration) ∧
      Backend.shape.Governs (Backend RawDuration) ∧
      Definition.shape.Governs (Definition RawDuration) ∧
      Group.shape.Governs (Group RawDuration) := by
  refine ⟨?_, ?_, ?_, ?_, ?_⟩
  · exact .of_outcome Host.outcome_hydrate Host.legible_shape
  · exact .of_outcome HealthCheck.outcome_hydrate HealthCheck.legible_shape
  · exact .of_outcome Backend.outcome_hydrate Backend.legible_shape
  · exact .of_outcome Definition.outcome_hydrate Definition.legible_shape
  · exact .of_outcome Group.outcome_hydrate Group.legible_shape

/-- A fault in an entry whose key looks like a path, and one in an item that is read earlier. -/
def Json.faulty : Json :=
  .object [("definitions", .array [.object [], .object [("backend", .array [.object [
    ("mapping", .object [("a", .string ""), ("b.c[0]", .integer 1)]),
    ("target", .bool true)]])]])]

theorem Json.ordered_faulty : faulty.Ordered := by
  have mapping : Ordered (.object [("a", .string ""), ("b.c[0]", .integer 1)]) :=
    .object (by decide +kernel)
      (List.forall_mem_cons.2 ⟨.string "", List.forall_mem_singleton.2 (.integer 1)⟩)
  have backend : Ordered (.object [("mapping", _), ("target", .bool true)]) :=
    .object (by decide +kernel)
      (List.forall_mem_cons.2 ⟨mapping, List.forall_mem_singleton.2 (.bool true)⟩)
  have definition : Ordered (.object [("backend", .array [_])]) :=
    .object (List.pairwise_singleton _ _)
      (List.forall_mem_singleton.2 (.array (List.forall_mem_singleton.2 backend)))
  have nothing : Ordered (.object []) := .object List.Pairwise.nil (List.forall_mem_nil _)
  exact .object (List.pairwise_singleton _ _) (List.forall_mem_singleton.2 (.array
    (List.forall_mem_cons.2 ⟨nothing, List.forall_mem_singleton.2 definition⟩)))

theorem hydrate_faulty : hydrate (α := Group RawDuration) Json.faulty .root =
    .error (.shape ⟨"definitions[1].backend[0].mapping.b.c[0]"⟩ "string" "number") := by
  rfl

theorem shape_governs_hydrate_faulty :
    Json.faulty.Ordered ∧
      ∃ (steps : List Step) (bad : Shape) (found : Json),
        DocumentError.shape ⟨"definitions[1].backend[0].mapping.b.c[0]"⟩ "string" "number" =
          .shape (FieldPath.root.walk steps) bad.expected found.kind ∧
        (FieldPath.root.walk steps).follow? Json.faulty = some found ∧ bad.fits found = false ∧
        Group.shape.FirstFault Json.faulty steps bad found :=
  ⟨Json.ordered_faulty,
    shape_governs_hydrate.2.2.2.2.located Json.ordered_faulty hydrate_faulty⟩

end ApiGateway
