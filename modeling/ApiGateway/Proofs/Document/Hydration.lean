import ApiGateway.Document.Encoding
import ApiGateway.Document.Hydration
import ApiGateway.Proofs.Document.Passes

/-!
# Filling in what was written

An encoded entity has every field under its own key, so no default is taken, and an entity fills
in as it was, in whatever order its fields are written. Its durations come back as raw ones,
whatever form they were written from (`Group.hydrate_encode`).
-/

set_option autoImplicit false

namespace ApiGateway

theorem Fields.get?_ofList_of_mem {α : Type} {pairs : List (String × α)} {key : String} {value : α}
    (hn : (pairs.map Prod.fst).Nodup) (hm : (key, value) ∈ pairs) :
    Fields.get? (Fields.ofList pairs) key = some value := by
  rw [Fields.get?_ofList]
  apply Fields.get?_of_mem
  · rw [List.map_reverse]
    exact List.pairwise_reverse.2 (hn.imp Ne.symm)
  · exact List.mem_reverse.2 hm

theorem Indexed.traverse_map_eq_ok {α β γ ε : Type} {f : Nat → β → Except ε γ} {e : α → β}
    {g : α → γ} {as : List α} (h : ∀ i, ∀ a ∈ as, f i (e a) = .ok (g a)) :
    Indexed.traverse f (as.map e) = .ok (as.map g) := by
  suffices ht : ∀ i, Indexed.traverseFrom f i (as.map e) = .ok (as.map g) from ht 0
  induction as with
  | nil => exact fun _ => rfl
  | cons a as ih =>
    intro i
    have hrest := ih (fun i x hx => h i x (List.mem_cons_of_mem a hx)) (i + 1)
    rw [List.map_cons, List.map_cons]
    unfold traverseFrom
    rw [h i a List.mem_cons_self, Except.ok_bind, hrest]
    rfl

/-- The raw duration that a JSON value stands for. -/
def RawDuration.ofJson? : Json → Option RawDuration
  | .string s => some (.text s)
  | .integer n => some (.number (Binary64.ofInt n))
  | .float x => some (.number x)
  | _ => none

namespace Record

variable {r : Record} {key : String}

theorem get?_of_fields {key : String} {value : Json} {path : FieldPath} {fields : Fields Json}
    (h : Fields.get? fields key = some value) (hv : value.isNull = false) :
    get? ⟨fields, path⟩ key = some value := by
  unfold get?
  rw [h, Option.filter_some, hv]
  rfl

theorem string_of_get {standard s : String} (h : r.get? key = some (.string s)) :
    r.string key standard = .ok s := by
  unfold string
  rw [h]

theorem flag_of_get {standard b : Bool} (h : r.get? key = some (.bool b)) :
    r.flag key standard = .ok b := by
  unfold flag
  rw [h]

theorem unsigned_of_get {standard n : UInt32} (h : r.get? key = some (.integer n.toNat)) :
    r.unsigned key standard = .ok n := by
  have hn : (0 : Int) ≤ n.toNat ∧ (n.toNat : Int) < UInt32.size :=
    ⟨Int.natCast_nonneg _, Int.ofNat_lt.2 n.toNat_lt_size⟩
  unfold unsigned
  rw [h]
  dsimp only
  rw [if_pos hn, Int.toNat_natCast, UInt32.ofNat_toNat]

theorem object?_of_get {fields : Fields Json} (h : r.get? key = some (.object fields)) :
    r.object? key = .ok (some fields) := by
  unfold object?
  rw [h]

theorem opaqueFields_of_get {fields : Fields Json} (h : r.get? key = some (.object fields)) :
    r.opaqueFields key = .ok fields := by
  unfold opaqueFields
  rw [object?_of_get h]
  rfl

theorem items_of_get {α : Type} {standard : List α} {item : Json → FieldPath → Hydrated α}
    {values : List Json} (h : r.get? key = some (.array values)) :
    r.items key standard item =
      Indexed.traverse (fun i v => item v ((r.path.field key).index i)) values := by
  unfold items array?
  rw [h]
  rfl

theorem strings_of_get {items : List String} (h : r.get? key = some (.strings items)) :
    r.strings key = .ok items := by
  have ht : Indexed.traverse (fun i v => text v ((r.path.field key).index i))
      (items.map .string) = .ok (items.map id) :=
    Indexed.traverse_map_eq_ok fun _ _ _ => rfl
  rw [List.map_id] at ht
  unfold strings
  rw [items_of_get h]
  exact ht

theorem stringMap_of_get {entries : Fields String} (h : r.get? key = some (textsToJson entries)) :
    r.stringMap key = .ok entries := by
  have ht (path : FieldPath) (ps : Fields String) :
      textEntries path (ps.map fun p => (p.1, .string p.2)) = .ok ps := by
    induction ps with
    | nil => rfl
    | cons p ps ih =>
      rw [List.map_cons]
      unfold textEntries
      rw [ih]
      rfl
  unfold stringMap
  rw [object?_of_get h, Except.ok_bind]
  exact ht _ entries

theorem list_of_get {α β : Type} [Hydrate β] {as : List α} {e : α → Json} {g : α → β}
    (standard : List β) (h : r.get? key = some (.array (as.map e)))
    (ha : ∀ a ∈ as, ∀ path, hydrate (e a) path = .ok (g a)) :
    r.list key standard = .ok (as.map g) := by
  unfold list
  rw [items_of_get h]
  exact Indexed.traverse_map_eq_ok fun i a hm => ha a hm _

theorem duration_of_get {standard d : RawDuration} {value : Json} (h : r.get? key = some value)
    (hv : RawDuration.ofJson? value = some d) : r.duration key standard = .ok d := by
  unfold duration
  rw [h]
  cases value <;> cases hv <;> rfl

end Record

/-- The objects that are made have every field under its key. -/
def ObjectMaker.IsReadable (make : ObjectMaker) : Prop :=
  ∀ pairs : List (String × Json), (pairs.map Prod.fst).Nodup → ∀ path, ∃ r,
    Record.ofJson (make pairs) path = .ok r ∧
      ∀ key value, (key, value) ∈ pairs → value.isNull = false → r.get? key = some value

theorem ObjectMaker.isReadable_object : IsReadable .object := fun pairs hn path =>
  ⟨⟨pairs, path⟩, rfl, fun _ _ hm hv => Record.get?_of_fields (Fields.get?_of_mem hn hm) hv⟩

theorem ObjectMaker.isReadable_ofFields : IsReadable .ofFields := fun pairs hn path =>
  ⟨⟨Fields.ofList pairs, path⟩, rfl,
    fun _ _ hm hv => Record.get?_of_fields (Fields.get?_ofList_of_mem hn hm) hv⟩

theorem RawDuration.isNull_of_ofJson? {value : Json} {d : RawDuration}
    (h : RawDuration.ofJson? value = some d) : value.isNull = false := by
  cases value <;> first | rfl | cases h

theorem Host.hydrate_encode {make : ObjectMaker} (hm : make.IsReadable) (h : Host)
    (path : FieldPath) : hydrate (h.encode make) path = .ok h := by
  obtain ⟨r, hr, hget⟩ : ∃ r, Record.ofJson (h.encode make) path = .ok r ∧ _ :=
    hm _ (by simp) path
  have haddress := hget "host" (.string h.address) (by simp) rfl
  have hweight := hget "weight" (.integer h.weight.toNat) (by simp) rfl
  unfold hydrate instHydrateHost
  simp only [hr, Except.ok_bind, Record.string_of_get haddress, Record.unsigned_of_get hweight]

theorem Host.hydrate_toJson (h : Host) (path : FieldPath) : hydrate (toJson h) path = .ok h :=
  hydrate_encode ObjectMaker.isReadable_ofFields h path

section

variable {δ : Type} [DurationForm δ] {raw : δ → RawDuration} {make : ObjectMaker}

theorem HealthCheck.hydrate_encode (hm : make.IsReadable) {c : HealthCheck δ}
    (h : ∀ x ∈ c.durations, RawDuration.ofJson? (DurationForm.toJson x) = some (raw x))
    (path : FieldPath) : hydrate (c.encode make) path = .ok (c.map raw) := by
  obtain ⟨r, hr, hget⟩ : ∃ r, Record.ofJson (c.encode make) path = .ok r ∧ _ :=
    hm _ (by simp) path
  have timeout := h c.timeout List.mem_cons_self
  unfold hydrate instHydrateHealthCheckRawDuration
  simp only [hr, Except.ok_bind, standard,
    Record.string_of_get (hget "url" (.string c.url) (by simp) rfl),
    Record.duration_of_get (hget "timeout" (DurationForm.toJson c.timeout) (by simp)
      (RawDuration.isNull_of_ofJson? timeout)) timeout]
  rfl

theorem Backend.hydrate_encode (hm : make.IsReadable) {b : Backend δ}
    (h : ∀ x ∈ b.durations, RawDuration.ofJson? (DurationForm.toJson x) = some (raw x))
    (path : FieldPath) : hydrate (b.encode make) path = .ok (b.map raw) := by
  obtain ⟨r, hr, hget⟩ : ∃ r, Record.ofJson (b.encode make) path = .ok r ∧ _ :=
    hm _ (by simp) path
  have timeout := h b.timeout List.mem_cons_self
  have hosts := Record.list_of_get (g := id) Host.standardList
    (hget "hosts" (.array (b.hosts.map (Host.encode make))) (by simp) rfl)
    (fun host _ path => Host.hydrate_encode hm host path)
  rw [List.map_id] at hosts
  unfold hydrate instHydrateBackendRawDuration
  simp only [hr, Except.ok_bind, standard, hosts,
    Record.duration_of_get (hget "timeout" (DurationForm.toJson b.timeout) (by simp)
      (RawDuration.isNull_of_ofJson? timeout)) timeout,
    Record.string_of_get (hget "method" (.string b.method) (by simp) rfl),
    Record.string_of_get (hget "url_pattern" (.string b.urlPattern) (by simp) rfl),
    Record.string_of_get (hget "encoding" (.string b.encoding) (by simp) rfl),
    Record.string_of_get (hget "group" (.string b.group) (by simp) rfl),
    Record.strings_of_get (hget "blacklist" (.strings b.blacklist) (by simp) rfl),
    Record.strings_of_get (hget "whitelist" (.strings b.whitelist) (by simp) rfl),
    Record.stringMap_of_get (hget "mapping" (textsToJson b.mapping) (by simp) rfl),
    Record.flag_of_get (hget "is_collection" (.bool b.isCollection) (by simp) rfl),
    Record.flag_of_get
      (hget "wrap_collection_to_json" (.bool b.wrapCollectionToJson) (by simp) rfl),
    Record.string_of_get (hget "target" (.string b.target) (by simp) rfl),
    Record.opaqueFields_of_get (hget "middleware" (.object b.middleware) (by simp) rfl),
    Record.flag_of_get
      (hget "disable_host_sanitize" (.bool b.disableHostSanitize) (by simp) rfl),
    Record.string_of_get (hget "lb_mode" (.string b.lbMode) (by simp) rfl)]
  rfl

theorem Definition.hydrate_encode (hm : make.IsReadable) {d : Definition δ}
    (h : ∀ x ∈ d.durations, RawDuration.ofJson? (DurationForm.toJson x) = some (raw x))
    (path : FieldPath) : ApiGateway.hydrate (d.encode make) path = .ok (d.map raw) := by
  obtain ⟨r, hr, hget⟩ : ∃ r, Record.ofJson (d.encode make) path = .ok r ∧ _ :=
    hm _ (by simp) path
  have timeout := h d.timeout List.mem_cons_self
  have cacheTtl := h d.cacheTtl (List.mem_cons_of_mem _ List.mem_cons_self)
  have hosts := Record.list_of_get (g := id) Host.standardList
    (hget "hosts" (.array (d.hosts.map (Host.encode make))) (by simp) rfl)
    (fun host _ path => Host.hydrate_encode hm host path)
  have backends := Record.list_of_get (g := Backend.map raw) [Backend.standard]
    (hget "backend" (.array (d.backends.map (Backend.encode make))) (by simp) rfl)
    (fun b hb path => Backend.hydrate_encode hm (fun x hx => h x (List.mem_cons_of_mem _
      (List.mem_cons_of_mem _ (List.mem_flatMap.2 ⟨b, hb, hx⟩)))) path)
  rw [List.map_id] at hosts
  unfold ApiGateway.hydrate instHydrateDefinitionRawDuration
  simp only [hr, Except.ok_bind, standard, hosts, backends,
    Record.string_of_get (hget "name" (.string d.name) (by simp) rfl),
    Record.flag_of_get (hget "active" (.bool d.active) (by simp) rfl),
    Record.string_of_get (hget "endpoint" (.string d.endpoint) (by simp) rfl),
    Record.string_of_get (hget "method" (.string d.method) (by simp) rfl),
    Record.duration_of_get (hget "timeout" (DurationForm.toJson d.timeout) (by simp)
      (RawDuration.isNull_of_ofJson? timeout)) timeout,
    Record.duration_of_get (hget "cache_ttl" (DurationForm.toJson d.cacheTtl) (by simp)
      (RawDuration.isNull_of_ofJson? cacheTtl)) cacheTtl,
    Record.string_of_get (hget "output_encoding" (.string d.outputEncoding) (by simp) rfl),
    Record.strings_of_get
      (hget "except_querystrings" (.strings d.exceptQuerystrings) (by simp) rfl),
    Record.strings_of_get (hget "except_headers" (.strings d.exceptHeaders) (by simp) rfl),
    Record.opaqueFields_of_get (hget "middleware" (.object d.middleware) (by simp) rfl)]
  rfl

theorem Group.hydrate_encode (hm : make.IsReadable) {g : Group δ}
    (h : ∀ x ∈ g.durations, RawDuration.ofJson? (DurationForm.toJson x) = some (raw x))
    (path : FieldPath) : ApiGateway.hydrate (g.encode make) path = .ok (g.map raw) := by
  obtain ⟨r, hr, hget⟩ : ∃ r, Record.ofJson (g.encode make) path = .ok r ∧ _ :=
    hm _ (by simp) path
  have definitions := Record.list_of_get (g := Definition.map raw) []
    (hget "definitions" (.array (g.definitions.map (Definition.encode make))) (by simp) rfl)
    (fun d hd path => Definition.hydrate_encode hm
      (fun x hx => h x (List.mem_flatMap.2 ⟨d, hd, hx⟩)) path)
  unfold ApiGateway.hydrate instHydrateGroupRawDuration
  simp only [hr, Except.ok_bind, definitions,
    Record.string_of_get (hget "name" (.string g.name) (by simp) rfl)]
  rfl

/-! ### JSON values -/

theorem HealthCheck.hydrate_toJson {c : HealthCheck δ}
    (h : ∀ x ∈ c.durations, RawDuration.ofJson? (DurationForm.toJson x) = some (raw x))
    (path : FieldPath) : hydrate (toJson c) path = .ok (c.map raw) :=
  hydrate_encode ObjectMaker.isReadable_ofFields h path

theorem Backend.hydrate_toJson {b : Backend δ}
    (h : ∀ x ∈ b.durations, RawDuration.ofJson? (DurationForm.toJson x) = some (raw x))
    (path : FieldPath) : hydrate (toJson b) path = .ok (b.map raw) :=
  hydrate_encode ObjectMaker.isReadable_ofFields h path

theorem Definition.hydrate_toJson {d : Definition δ}
    (h : ∀ x ∈ d.durations, RawDuration.ofJson? (DurationForm.toJson x) = some (raw x))
    (path : FieldPath) : ApiGateway.hydrate (toJson d) path = .ok (d.map raw) :=
  hydrate_encode ObjectMaker.isReadable_ofFields h path

theorem Group.hydrate_toJson {g : Group δ}
    (h : ∀ x ∈ g.durations, RawDuration.ofJson? (DurationForm.toJson x) = some (raw x))
    (path : FieldPath) : ApiGateway.hydrate (toJson g) path = .ok (g.map raw) :=
  hydrate_encode ObjectMaker.isReadable_ofFields h path

end

end ApiGateway
