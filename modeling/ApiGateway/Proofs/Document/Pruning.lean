import ApiGateway.Catalog.Storage
import ApiGateway.Proofs.Document.FirstFault

/-!
# What a document may hold besides

Keys that an entity does not know and fields that are null say nothing. Documents that are alike
without them have the same answer, errors included (`prune_determines`).
-/

set_option autoImplicit false

namespace ApiGateway

namespace Shape

mutual

/-- A value without the fields that its records do not know and without those that are null. Objects
of any content and of texts are left as they are. -/
def prune : Shape → Json → Json
  | list item, .array items => .array (items.map item.prune)
  | record schema, .object fields => .object (fields.filterMap (keep? schema))
  | _, v => v

def keep? : List (String × Shape) → String × Json → Option (String × Json)
  | [], _ => none
  | known :: rest, p => (keepKnown? known p).or (keep? rest p)

def keepKnown? : String × Shape → String × Json → Option (String × Json)
  | (name, s), (key, v) => if key = name && !v.isNull then some (key, s.prune v) else none

end

theorem keep?_eq (schema : List (String × Shape)) :
    keep? schema = fun p =>
      (if p.2.isNull then none else (schema.lookup p.1).map fun s => s.prune p.2).map
        fun v => (p.1, v) := by
  funext p
  obtain ⟨key, v⟩ := p
  induction schema with
  | nil => simp [keep?]
  | cons known rest ih =>
    obtain ⟨name, s⟩ := known
    unfold keep? keepKnown?
    rw [ih, List.lookup_cons]
    by_cases h : key = name
    · cases v.isNull <;> simp [h]
    · rw [beq_false_of_ne h]
      simp [h]

theorem isNull_prune (s : Shape) (v : Json) : (s.prune v).isNull = v.isNull := by
  unfold prune
  split <;> rfl

/-- The fields of a record that are known and not null. -/
def pruned (schema : List (String × Shape)) (fields : Fields Json) : Fields Json :=
  fields.filterMap (keep? schema)

theorem prune_object (schema : List (String × Shape)) (fields : Fields Json) :
    (record schema).prune (.object fields) = .object (pruned schema fields) := rfl

-- A null field goes, and so does an unknown one, but the null under `mapping` is a fault to report.
example : Backend.shape.prune
    (.object [("mapping", .object [("a", .null)]), ("method", .null), ("zone", .string "")]) =
      .object [("mapping", .object [("a", .null)])] := rfl

theorem prune_array (item : Shape) (items : List Json) :
    (list item).prune (.array items) = .array (items.map item.prune) := rfl

/-- A reader that answers the same for a value and for what is left of it. -/
structure Overlooks {α : Type} (s : Shape) (read : Json → FieldPath → Hydrated α) : Prop where
  eq {v : Json} (ordered : v.Ordered) (path : FieldPath) : read (s.prune v) path = read v path

end Shape

namespace Record

open Shape (pruned)

variable {α β : Type} {schema : List (String × Shape)} {key : String} {s : Shape}
  {fields : Fields Json}

theorem get?_pruned (known : schema.lookup key = some s) (ordered : (Json.object fields).Ordered)
    (path : FieldPath) :
    get? ⟨pruned schema fields, path⟩ key = (get? ⟨fields, path⟩ key).map s.prune := by
  cases ordered with
  | object keys _ =>
    unfold get? pruned
    rw [Shape.keep?_eq, Fields.get?_filterMap (fun key v =>
      if v.isNull then none else (schema.lookup key).map fun s => s.prune v) keys.nodup]
    cases Fields.get? fields key with
    | none => rfl
    | some v =>
      have hprune := Shape.isNull_prune s v
      by_cases hv : v.isNull = true
      · simp [Option.filter_some, hv]
      · simp [Option.filter_some, hv, hprune, known]

theorem ordered_of_get? {path : FieldPath} {v : Json} (ordered : (Json.object fields).Ordered)
    (h : get? ⟨fields, path⟩ key = some v) : v.Ordered := by
  cases ordered with
  | object _ each =>
    exact each _ (Fields.mem_of_get? (Option.filter_eq_some_iff.1 h).1)

/-- A reader that answers the same for a record and for its fields that are known and not null. -/
structure Overlooks (schema : List (String × Shape)) (read : Record → Hydrated α) : Prop where
  eq {fields : Fields Json} (ordered : (Json.object fields).Ordered) (path : FieldPath) :
    read ⟨pruned schema fields, path⟩ = read ⟨fields, path⟩

namespace Overlooks

theorem done (a : α) : Overlooks schema fun _ => .ok a := ⟨fun _ _ => rfl⟩

theorem bind {read : Record → Hydrated α} {next : α → Record → Hydrated β}
    (h : Overlooks schema read) (hnext : ∀ a, Overlooks schema (next a)) :
    Overlooks schema fun r => read r >>= fun a => next a r := by
  constructor
  intro fields ordered path
  rw [h.eq ordered path]
  congr 1
  funext a
  exact (hnext a).eq ordered path

/-- A reader of one field that is kept as it is. -/
theorem leaf {read : Record → Hydrated α} (known : schema.lookup key = some s)
    (kept : s.prune = id)
    (reads : ∀ (fields fields' : Fields Json) (path : FieldPath),
      get? ⟨fields', path⟩ key = get? ⟨fields, path⟩ key →
      read ⟨fields', path⟩ = read ⟨fields, path⟩) : Overlooks schema read := by
  constructor
  intro fields ordered path
  apply reads
  rw [get?_pruned known ordered, kept, Option.map_id]
  rfl

theorem string (key : String) (known : schema.lookup key = some .string) (standard : String) :
    Overlooks schema fun r => r.string key standard := by
  refine leaf known rfl fun fields fields' path h => ?_
  unfold Record.string
  rw [h]

theorem flag (key : String) (known : schema.lookup key = some .flag) (standard : Bool) :
    Overlooks schema fun r => r.flag key standard := by
  refine leaf known rfl fun fields fields' path h => ?_
  unfold Record.flag
  rw [h]

theorem unsigned (key : String) (known : schema.lookup key = some .unsigned) (standard : UInt32) :
    Overlooks schema fun r => r.unsigned key standard := by
  refine leaf known rfl fun fields fields' path h => ?_
  unfold Record.unsigned
  rw [h]

theorem duration (key : String) (known : schema.lookup key = some .duration)
    (standard : RawDuration) : Overlooks schema fun r => r.duration key standard := by
  refine leaf known rfl fun fields fields' path h => ?_
  unfold Record.duration
  rw [h]

theorem opaqueFields (key : String) (known : schema.lookup key = some .object) :
    Overlooks schema fun r => r.opaqueFields key := by
  refine leaf known rfl fun fields fields' path h => ?_
  unfold Record.opaqueFields object?
  rw [h]

theorem stringMap (key : String) (known : schema.lookup key = some .texts) :
    Overlooks schema fun r => r.stringMap key := by
  refine leaf known rfl fun fields fields' path h => ?_
  unfold Record.stringMap object?
  rw [h]

theorem items {item : Json → FieldPath → Hydrated α} (key : String)
    (known : schema.lookup key = some (.list s)) (hitem : s.Overlooks item) (standard : List α) :
    Overlooks schema fun r => r.items key standard item := by
  constructor
  intro fields ordered path
  unfold Record.items array?
  rw [get?_pruned known ordered]
  cases h : get? ⟨fields, path⟩ key with
  | none => rfl
  | some v =>
    cases v with
    | array values =>
      have each : ∀ v ∈ values, v.Ordered := by
        cases ordered_of_get? ordered h with
        | array each => exact each
      show Indexed.traverse _ (values.map s.prune) = Indexed.traverse _ values
      exact Indexed.traverse_map_eq fun i v hv => hitem.eq (each v hv) _
    | _ => rfl

end Overlooks

end Record

/-! ## Entities -/

namespace Shape.Overlooks

theorem ofJson {α : Type} {schema : List (String × Shape)} {next : Record → Hydrated α}
    (h : Record.Overlooks schema next) :
    (record schema).Overlooks fun v path => Record.ofJson v path >>= next := by
  constructor
  intro v ordered path
  cases v with
  | object fields =>
    rw [prune_object]
    exact h.eq ordered path
  | _ => rfl

theorem text : string.Overlooks Record.text := ⟨fun _ _ => rfl⟩

end Shape.Overlooks

theorem Host.overlooks_hydrate : Host.shape.Overlooks (hydrate (α := Host)) :=
  .ofJson <|
    .bind (.string "host" rfl _) fun _ =>
    .bind (.unsigned "weight" rfl _) fun _ => .done _

theorem HealthCheck.overlooks_hydrate :
    HealthCheck.shape.Overlooks (hydrate (α := HealthCheck RawDuration)) :=
  .ofJson <|
    .bind (.string "url" rfl _) fun _ =>
    .bind (.duration "timeout" rfl _) fun _ => .done _

theorem Backend.overlooks_hydrate :
    Backend.shape.Overlooks (hydrate (α := Backend RawDuration)) :=
  .ofJson <|
    .bind (.items "hosts" rfl Host.overlooks_hydrate _) fun _ =>
    .bind (.duration "timeout" rfl _) fun _ =>
    .bind (.string "method" rfl _) fun _ =>
    .bind (.string "url_pattern" rfl _) fun _ =>
    .bind (.string "encoding" rfl _) fun _ =>
    .bind (.string "group" rfl _) fun _ =>
    .bind (.items "blacklist" rfl .text _) fun _ =>
    .bind (.items "whitelist" rfl .text _) fun _ =>
    .bind (.stringMap "mapping" rfl) fun _ =>
    .bind (.flag "is_collection" rfl _) fun _ =>
    .bind (.flag "wrap_collection_to_json" rfl _) fun _ =>
    .bind (.string "target" rfl _) fun _ =>
    .bind (.opaqueFields "middleware" rfl) fun _ =>
    .bind (.flag "disable_host_sanitize" rfl _) fun _ =>
    .bind (.string "lb_mode" rfl _) fun _ => .done _

theorem Definition.overlooks_hydrate :
    Definition.shape.Overlooks (ApiGateway.hydrate (α := Definition RawDuration)) :=
  .ofJson <|
    .bind (.string "name" rfl _) fun _ =>
    .bind (.flag "active" rfl _) fun _ =>
    .bind (.string "endpoint" rfl _) fun _ =>
    .bind (.items "hosts" rfl Host.overlooks_hydrate _) fun _ =>
    .bind (.string "method" rfl _) fun _ =>
    .bind (.duration "timeout" rfl _) fun _ =>
    .bind (.duration "cache_ttl" rfl _) fun _ =>
    .bind (.string "output_encoding" rfl _) fun _ =>
    .bind (.items "except_querystrings" rfl .text _) fun _ =>
    .bind (.items "except_headers" rfl .text _) fun _ =>
    .bind (.opaqueFields "middleware" rfl) fun _ =>
    .bind (.items "backend" rfl Backend.overlooks_hydrate _) fun _ => .done _

theorem Group.overlooks_hydrate :
    Group.shape.Overlooks (ApiGateway.hydrate (α := Group RawDuration)) :=
  .ofJson <|
    .bind (.string "name" rfl _) fun _ =>
    .bind (.items "definitions" rfl Definition.overlooks_hydrate _) fun _ => .done _

/-- The array of groups that a catalog is stored as. -/
def Catalog.shape : Shape := .list Group.shape

theorem Catalog.load_prune {v : Json} (ordered : v.Ordered) :
    load (shape.prune v) = load v := by
  cases ordered with
  | @array items each =>
    have hload : Indexed.traverse loadGroup (items.map Group.shape.prune) =
        Indexed.traverse loadGroup items := by
      refine Indexed.traverse_map_eq fun i v hv => ?_
      unfold loadGroup
      dsimp only
      rw [Group.overlooks_hydrate.eq (each v hv)]
    unfold shape load
    rw [Shape.prune_array]
    dsimp only
    rw [hload]
  | _ => rfl

/-- Values that are alike in what an entity keeps of them have one answer. -/
def Shape.Determines {α : Type} (s : Shape) (answer : Json → α) : Prop :=
  ∀ v w : Json, v.Ordered → w.Ordered → s.prune v = s.prune w → answer v = answer w

namespace Shape

variable {α β : Type} {s : Shape}

theorem determines_of_prune {answer : Json → α}
    (h : ∀ v : Json, v.Ordered → answer (s.prune v) = answer v) : s.Determines answer := by
  intro v w hv hw e
  rw [← h v hv, ← h w hw, e]

theorem Overlooks.determines {read : Json → FieldPath → Hydrated α} (h : s.Overlooks read)
    (path : FieldPath) : s.Determines fun v => read v path :=
  determines_of_prune fun _ ordered => h.eq ordered path

theorem Determines.map {answer : Json → α} (h : s.Determines answer) (f : α → β) :
    s.Determines fun v => f (answer v) := by
  intro v w hv hw e
  exact congrArg f (h v w hv hw e)

end Shape

theorem prune_determines :
    (∀ path, Host.shape.Determines fun v => hydrate (α := Host) v path) ∧
      (∀ path, HealthCheck.shape.Determines
        fun v => hydrate (α := HealthCheck RawDuration) v path) ∧
      (∀ path, Backend.shape.Determines fun v => hydrate (α := Backend RawDuration) v path) ∧
      (∀ path, Definition.shape.Determines
        fun v => hydrate (α := Definition RawDuration) v path) ∧
      (∀ path, Group.shape.Determines fun v => hydrate (α := Group RawDuration) v path) ∧
      Definition.shape.Determines Definition.load ∧
      Definition.shape.Determines Definition.prepare ∧
      Group.shape.Determines Group.load ∧ Group.shape.Determines Group.prepare ∧
      Catalog.shape.Determines Catalog.load := by
  have definition := Definition.overlooks_hydrate.determines .root
  have group := Group.overlooks_hydrate.determines .root
  refine ⟨?_, ?_, ?_, ?_, ?_, ?_, ?_, ?_, ?_, ?_⟩
  · exact Host.overlooks_hydrate.determines
  · exact HealthCheck.overlooks_hydrate.determines
  · exact Backend.overlooks_hydrate.determines
  · exact Definition.overlooks_hydrate.determines
  · exact Group.overlooks_hydrate.determines
  · exact definition.map (· >>= Definition.receive)
  · exact definition.map (· >>= Definition.send)
  · exact group.map (· >>= Group.receive)
  · exact group.map (· >>= Group.send)
  · exact Shape.determines_of_prune fun _ => Catalog.load_prune

/-- The faulty document with nulls and unknown keys at every level. -/
def Json.annotated : Json :=
  .object [
    ("definitions", .array [
      .object [("comment", .string ""), ("name", .null)],
      .object [("backend", .array [.object [
        ("hosts", .null),
        ("mapping", .object [("a", .string ""), ("b.c[0]", .integer 1)]),
        ("target", .bool true),
        ("zone", .null)]])]]),
    ("version", .integer 2)]

theorem Json.ordered_annotated : annotated.Ordered := by
  have mapping : Ordered (.object [("a", .string ""), ("b.c[0]", .integer 1)]) :=
    .object (by decide +kernel)
      (List.forall_mem_cons.2 ⟨.string "", List.forall_mem_singleton.2 (.integer 1)⟩)
  have backend : Ordered (.object
      [("hosts", .null), ("mapping", _), ("target", .bool true), ("zone", .null)]) :=
    .object (by decide +kernel) (List.forall_mem_cons.2 ⟨.null, List.forall_mem_cons.2 ⟨mapping,
      List.forall_mem_cons.2 ⟨.bool true, List.forall_mem_singleton.2 .null⟩⟩⟩)
  have first : Ordered (.object [("comment", .string ""), ("name", .null)]) :=
    .object (by decide +kernel)
      (List.forall_mem_cons.2 ⟨.string "", List.forall_mem_singleton.2 .null⟩)
  have second : Ordered (.object [("backend", .array [_])]) :=
    .object (List.pairwise_singleton _ _)
      (List.forall_mem_singleton.2 (.array (List.forall_mem_singleton.2 backend)))
  have definitions : Ordered (.array [_, _]) :=
    .array (List.forall_mem_cons.2 ⟨first, List.forall_mem_singleton.2 second⟩)
  exact .object (by decide +kernel)
    (List.forall_mem_cons.2 ⟨definitions, List.forall_mem_singleton.2 (.integer 2)⟩)

theorem prune_determines_annotated :
    Json.annotated.Ordered ∧ Json.faulty.Ordered ∧
      Group.shape.prune Json.annotated = Group.shape.prune Json.faulty ∧
      Group.load Json.annotated = Group.load Json.faulty ∧
      Group.load Json.faulty =
        .error (.shape ⟨"definitions[1].backend[0].mapping.b.c[0]"⟩ "string" "number") := by
  have hload : Group.shape.Determines Group.load := by
    obtain ⟨-, -, -, -, -, -, -, hload, -⟩ := prune_determines
    exact hload
  have hprune : Group.shape.prune Json.annotated = Group.shape.prune Json.faulty := rfl
  exact ⟨Json.ordered_annotated, Json.ordered_faulty, hprune,
    hload _ _ Json.ordered_annotated Json.ordered_faulty hprune, rfl⟩

end ApiGateway
