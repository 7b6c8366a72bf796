import ApiGateway.Catalog.Edit
import ApiGateway.Proofs.Indexed

/-!
# What an edit does

An edit looks for the first group of a name and in it for the first definition of a name. An
accepted one changes the catalog at that place only, in one of five ways (`edited_of_edit`), and a
rejected one leaves it as it is (`unchanged_of_edit`).
-/

set_option autoImplicit false

namespace ApiGateway

/-- A list at the first of its items that has a property. -/
structure First {α : Type} (p : α → Bool) (xs before : List α) (x : α) (after : List α) : Prop where
  eq : xs = before ++ x :: after
  holds : p x = true
  least : ∀ y ∈ before, p y = false

namespace First

variable {α : Type} {p : α → Bool} {xs before after : List α} {x : α}

theorem of_find? (h : xs.find? p = some x) : ∃ before after, First p xs before x after := by
  obtain ⟨hx, before, after, e, hb⟩ := List.find?_eq_some_iff_append.1 h
  exact ⟨before, after, e, hx, fun y hy => by simpa using hb y hy⟩

theorem findIdx? (h : First p xs before x after) : xs.findIdx? p = some before.length := by
  rw [h.eq, List.findIdx?_append, List.findIdx?_eq_none_iff.2 h.least, List.findIdx?_cons, h.holds]
  simp

theorem of_findIdx? {i : Nat} (h : xs.findIdx? p = some i) :
    ∃ before x after, First p xs before x after ∧ before.length = i := by
  have hs : (xs.find? p).isSome := by
    rw [List.find?_isSome, ← List.any_eq_true, ← List.findIdx?_isSome, h]
    rfl
  obtain ⟨x, hx⟩ := Option.isSome_iff_exists.1 hs
  obtain ⟨before, after, hf⟩ := of_find? hx
  have hi := hf.findIdx?
  rw [h] at hi
  exact ⟨before, x, after, hf, (Option.some.inj hi).symm⟩

theorem find? (h : First p xs before x after) : xs.find? p = some x := by
  rw [List.find?_eq_some_iff_append]
  refine ⟨h.holds, before, after, h.eq, ?_⟩
  intro y hy
  rw [h.least y hy]
  rfl

theorem getElem? (h : First p xs before x after) : xs[before.length]? = some x := by
  rw [h.eq]
  simp

theorem modify (h : First p xs before x after) (f : α → α) :
    xs.modify before.length f = before ++ f x :: after := by
  rw [h.eq]
  simp [List.modify_eq_take_cons_drop]

theorem set (h : First p xs before x after) (y : α) :
    xs.set before.length y = before ++ y :: after := by
  rw [h.eq]
  simp

theorem eraseIdx (h : First p xs before x after) :
    xs.eraseIdx before.length = before ++ after := by
  rw [h.eq, List.eraseIdx_append_of_length_le (Nat.le_refl _), Nat.sub_self,
    List.eraseIdx_cons_zero]

theorem tail_filter (h : First p xs before x after) : (xs.filter p).tail = after.filter p := by
  rw [h.eq, List.filter_append, List.filter_eq_nil_iff.2 fun y hy => by simp [h.least y hy],
    List.nil_append, List.filter_cons_of_pos h.holds, List.tail_cons]

end First

namespace Catalog

variable {δ : Type}

/-- A catalog around one of its groups. -/
def focus (pre post : List (Group δ)) (group : String) (ds : List (Definition δ)) : Catalog δ :=
  ⟨pre ++ ⟨group, ds⟩ :: post⟩

theorem modifyGroup_of_first {c : Catalog δ} {name : String} {pre post : List (Group δ)}
    {g : Group δ} (h : First (fun g => Text.same g.name name) c.groups pre g post)
    (f : Group δ → Group δ) : c.modifyGroup name f = ⟨pre ++ f g :: post⟩ := by
  unfold modifyGroup
  rw [h.findIdx?]
  dsimp only
  rw [h.modify]

theorem endpointOwner?_eq_none_iff {c : Catalog δ} {endpoint : String}
    {counts : Group δ → Definition δ → Bool} :
    c.endpointOwner? endpoint counts = none ↔
      ∀ g ∈ c.groups, ∀ d ∈ g.definitions, counts g d = true →
        Text.same d.endpoint endpoint = false := by
  unfold endpointOwner?
  simp only [List.findSome?_eq_none_iff, Option.map_eq_none_iff, List.find?_eq_none,
    Bool.and_eq_true, not_and, Bool.not_eq_true]

theorem eq_focus {c : Catalog δ} {p : Group δ → Bool} {pre post : List (Group δ)} {g : Group δ}
    (h : First p c.groups pre g post) : c = focus pre post g.name g.definitions := by
  cases c
  exact congrArg Catalog.mk h.eq

theorem mem_definitions {c : Catalog δ} {d : Definition δ} :
    d ∈ c.definitions ↔ ∃ g ∈ c.groups, d ∈ g.definitions := List.mem_flatMap

/-- What an edit makes of a catalog that accepts it. -/
inductive Edited (c : Catalog δ) : Edit δ → Catalog δ → Prop where
  | appended {group : String} {d : Definition δ} {pre post : List (Group δ)} {g : Group δ}
      (valid : d.issues = [])
      (endpoint : ∀ x ∈ c.definitions, Text.same x.endpoint d.endpoint = false)
      (first : First (fun g => Text.same g.name group) c.groups pre g post)
      (name : ∀ x ∈ g.definitions, Text.same x.name d.name = false) :
      Edited c (.add group d) (focus pre post g.name (g.definitions ++ [d]))
  | created {group : String} {d : Definition δ}
      (valid : d.issues = [])
      (endpoint : ∀ x ∈ c.definitions, Text.same x.endpoint d.endpoint = false)
      (new : ∀ g ∈ c.groups, Text.same g.name group = false) :
      Edited c (.add group d) (focus c.groups [] group [d])
  | replaced {group : String} {d x : Definition δ} {pre post : List (Group δ)} {g : Group δ}
      {as bs : List (Definition δ)}
      (valid : d.issues = [])
      (endpoint : ∀ g ∈ c.groups, ∀ x ∈ g.definitions, Text.same x.endpoint d.endpoint = true →
        Text.same g.name group = true ∧ Text.same x.name d.name = true)
      (firstGroup : First (fun g => Text.same g.name group) c.groups pre g post)
      (first : First (fun x => Text.same x.name d.name) g.definitions as x bs) :
      Edited c (.update group d) (focus pre post g.name (as ++ d :: bs))
  | removed {group name : String} {x : Definition δ} {pre post : List (Group δ)} {g : Group δ}
      {as bs : List (Definition δ)}
      (firstGroup : First (fun g => Text.same g.name group) c.groups pre g post)
      (first : First (fun x => Text.same x.name name) g.definitions as x bs) :
      Edited c (.remove group name) (focus pre post g.name (as ++ bs))
  | groupRemoved {name : String} {pre post : List (Group δ)} {g : Group δ}
      (first : First (fun g => Text.same g.name name) c.groups pre g post) :
      Edited c (.removeGroup name) ⟨pre ++ post⟩

variable {c c' : Catalog δ} {group name : String} {d : Definition δ}

theorem edited_of_add (h : c.addDefinition group d = (.ok (), c')) :
    Edited c (.add group d) c' := by
  unfold addDefinition at h
  split at h
  · cases h
  rename_i hvalid
  split at h
  · cases h
  rename_i hname
  split at h
  · cases h
  rename_i howner
  have endpoint : ∀ x ∈ c.definitions, Text.same x.endpoint d.endpoint = false := by
    intro x hx
    obtain ⟨g, hg, hx⟩ := mem_definitions.1 hx
    exact endpointOwner?_eq_none_iff.1 howner g hg x hx rfl
  cases hg : c.group? group with
  | none =>
    rw [hg] at h
    cases h
    refine .created (Decidable.of_not_not hvalid) endpoint fun g hm => ?_
    simpa using List.find?_eq_none.1 hg g hm
  | some g =>
    obtain ⟨pre, post, first⟩ := First.of_find? hg
    rw [hg, if_pos Option.isSome_some, modifyGroup_of_first first] at h
    cases h
    refine .appended (Decidable.of_not_not hvalid) endpoint first fun x hx => ?_
    unfold findByName? at hname
    rw [hg, Option.not_isSome_iff_eq_none] at hname
    simpa using List.find?_eq_none.1 hname x hx

theorem edited_of_update (h : c.updateDefinition group d = (.ok (), c')) :
    Edited c (.update group d) c' := by
  unfold updateDefinition at h
  split at h
  · cases h
  rename_i hvalid
  dsimp only at h
  split at h
  · cases h
  rename_i howner
  split at h
  · cases h
  rename_i g hg
  split at h
  · cases h
  rename_i i hi
  obtain ⟨pre, post, firstGroup⟩ := First.of_find? hg
  obtain ⟨as, x, bs, first, rfl⟩ := First.of_findIdx? hi
  rw [modifyGroup_of_first firstGroup, first.set] at h
  cases h
  refine .replaced (Decidable.of_not_not hvalid) ?_ firstGroup first
  intro g hg x hx he
  have hcounts := mt (endpointOwner?_eq_none_iff.1 howner g hg x hx)
  simpa [he] using hcounts

theorem edited_of_remove {x : Definition δ} (h : c.removeDefinition group name = (.ok x, c')) :
    Edited c (.remove group name) c' := by
  unfold removeDefinition at h
  split at h
  · cases h
  rename_i g hg
  split at h
  · cases h
  rename_i i hi
  split at h
  · cases h
  obtain ⟨pre, post, firstGroup⟩ := First.of_find? hg
  obtain ⟨as, x, bs, first, rfl⟩ := First.of_findIdx? hi
  rw [modifyGroup_of_first firstGroup, first.eraseIdx] at h
  cases h
  exact .removed firstGroup first

theorem edited_of_removeGroup {g : Group δ} (h : c.removeGroup name = (.ok g, c')) :
    Edited c (.removeGroup name) c' := by
  unfold removeGroup at h
  split at h
  · cases h
  rename_i i hi
  split at h
  · cases h
  obtain ⟨pre, g, post, first, rfl⟩ := First.of_findIdx? hi
  rw [first.eraseIdx] at h
  cases h
  exact .groupRemoved first

/-- An operation with its answer left out. -/
theorem map_answer_eq_iff {α : Type} {x : Except CatalogError α × Catalog δ}
    {r : Except CatalogError Unit} :
    x.map (·.map fun _ => ()) id = (r, c') ↔ x.1.map (fun _ => ()) = r ∧ x.2 = c' := by
  rw [Prod.map, Prod.mk.injEq, id]

theorem edited_of_edit {e : Edit δ} (h : c.edit e = (.ok (), c')) : Edited c e c' := by
  cases e with
  | add group d => exact edited_of_add h
  | update group d => exact edited_of_update h
  | remove group name =>
    obtain ⟨hanswer, hstate⟩ := map_answer_eq_iff.1 h
    obtain ⟨x, hx, -⟩ := Except.map_eq_ok_iff.1 hanswer
    exact edited_of_remove (Prod.ext hx hstate)
  | removeGroup name =>
    obtain ⟨hanswer, hstate⟩ := map_answer_eq_iff.1 h
    obtain ⟨g, hg, -⟩ := Except.map_eq_ok_iff.1 hanswer
    exact edited_of_removeGroup (Prod.ext hg hstate)

/-! ## Rejected edits

Every check comes before the first change. -/

variable {err : CatalogError}

theorem unchanged_of_add (h : c.addDefinition group d = (.error err, c')) : c' = c := by
  unfold addDefinition at h
  split at h
  · exact (congrArg Prod.snd h).symm
  split at h
  · exact (congrArg Prod.snd h).symm
  split at h
  · exact (congrArg Prod.snd h).symm
  split at h
  · cases h
  · cases h

theorem unchanged_of_update (h : c.updateDefinition group d = (.error err, c')) : c' = c := by
  unfold updateDefinition at h
  split at h
  · exact (congrArg Prod.snd h).symm
  dsimp only at h
  split at h
  · exact (congrArg Prod.snd h).symm
  split at h
  · exact (congrArg Prod.snd h).symm
  split at h
  · exact (congrArg Prod.snd h).symm
  · cases h

theorem unchanged_of_remove (h : c.removeDefinition group name = (.error err, c')) : c' = c := by
  unfold removeDefinition at h
  split at h
  · exact (congrArg Prod.snd h).symm
  split at h
  · exact (congrArg Prod.snd h).symm
  split at h
  · exact (congrArg Prod.snd h).symm
  · cases h

theorem unchanged_of_removeGroup (h : c.removeGroup name = (.error err, c')) : c' = c := by
  unfold removeGroup at h
  split at h
  · exact (congrArg Prod.snd h).symm
  split at h
  · exact (congrArg Prod.snd h).symm
  · cases h

theorem unchanged_of_edit {e : Edit δ} (h : c.edit e = (.error err, c')) : c' = c := by
  cases e with
  | add group d => exact unchanged_of_add h
  | update group d => exact unchanged_of_update h
  | remove group name =>
    obtain ⟨hanswer, hstate⟩ := map_answer_eq_iff.1 h
    exact unchanged_of_remove (Prod.ext (Except.map_eq_error_iff.1 hanswer) hstate)
  | removeGroup name =>
    obtain ⟨hanswer, hstate⟩ := map_answer_eq_iff.1 h
    exact unchanged_of_removeGroup (Prod.ext (Except.map_eq_error_iff.1 hanswer) hstate)

/-- An edit is accepted with one of its effects, or leaves the catalog as it is. -/
theorem edited_or_unchanged (c : Catalog δ) (e : Edit δ) :
    Edited c e (c.after e) ∨ c.after e = c := by
  unfold after
  rcases h : c.edit e with ⟨err | ⟨⟩, c'⟩
  · exact .inr (unchanged_of_edit h)
  · exact .inl (edited_of_edit h)

end Catalog

end ApiGateway
