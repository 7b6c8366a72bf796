import ApiGateway.Proofs.Catalog.Invariant

/-!
# Edits at the positions that look-ups show

A look-up by name shows the first definition of a name in the first group of a name. Removals and
updates are accepted for this definition only, and change the catalog at its position and nowhere
else. What was added is shown, and removing it gives the catalog back. A rejected edit changes
nothing (`Catalog.editsShown`).
-/

set_option autoImplicit false

namespace ApiGateway

/-- The `definition`-th definition of the `group`-th group. -/
structure Position where
  group : Nat
  definition : Nat
  deriving DecidableEq

/-- Where the entry at `q` stood before the one at `p` was removed. -/
def Position.skip (p q : Position) : Position :=
  if q.group = p.group ∧ p.definition ≤ q.definition then ⟨q.group, q.definition + 1⟩ else q

namespace Catalog

variable {δ : Type}

/-- What stands at a position: the name of the group and the definition. -/
def at? (c : Catalog δ) (p : Position) : Option (String × Definition δ) :=
  c.groups[p.group]?.bind fun g => g.definitions[p.definition]?.map fun d => (g.name, d)

def put (c : Catalog δ) (p : Position) (d : Definition δ) : Catalog δ :=
  ⟨c.groups.modify p.group fun g =>
    { g with definitions := g.definitions.set p.definition d }⟩

/-- No definition at a position; those after it move up. -/
def erase (c : Catalog δ) (p : Position) : Catalog δ :=
  ⟨c.groups.modify p.group fun g =>
    { g with definitions := g.definitions.eraseIdx p.definition }⟩

/-- The first definition of a name in the first group of a name. -/
def position? (c : Catalog δ) (group name : String) : Option Position := do
  let i ← c.groups.findIdx? fun g => Text.same g.name group
  let g ← c.groups[i]?
  let j ← g.definitions.findIdx? fun d => Text.same d.name name
  some ⟨i, j⟩

theorem at?_eq_some_iff {c : Catalog δ} {p : Position} {title : String} {d : Definition δ} :
    c.at? p = some (title, d) ↔
      ∃ g, c.groups[p.group]? = some g ∧ g.definitions[p.definition]? = some d ∧
        g.name = title := by
  unfold at?
  simp [Option.bind_eq_some_iff]

theorem exists_at?_iff {c : Catalog δ} {title : String} {d : Definition δ} :
    (∃ p, c.at? p = some (title, d)) ↔ ∃ g ∈ c.groups, d ∈ g.definitions ∧ g.name = title := by
  simp only [at?_eq_some_iff, List.mem_iff_getElem?]
  constructor
  · rintro ⟨p, g, hg, hd, hname⟩
    exact ⟨g, ⟨_, hg⟩, ⟨_, hd⟩, hname⟩
  · rintro ⟨g, ⟨i, hg⟩, ⟨j, hd⟩, hname⟩
    exact ⟨⟨i, j⟩, g, hg, hd, hname⟩

theorem at?_put (c : Catalog δ) (p q : Position) (d : Definition δ) :
    (c.put p d).at? q =
      if q = p then (c.at? p).map fun e => (e.1, d) else c.at? q := by
  obtain ⟨i, j⟩ := p
  obtain ⟨k, l⟩ := q
  unfold at? put
  simp only [List.getElem?_modify, Position.mk.injEq]
  by_cases hk : i = k
  · subst hk
    cases c.groups[i]? with
    | none => simp
    | some g =>
      by_cases hl : j = l
      · subst hl
        by_cases hlt : j < g.definitions.length
        · simp [hlt]
        · simp [hlt]
      · simp [hl, Ne.symm hl]
  · cases c.groups[k]? <;> simp [hk, Ne.symm hk]

theorem at?_erase (c : Catalog δ) (p q : Position) :
    (c.erase p).at? q = c.at? (p.skip q) := by
  obtain ⟨i, j⟩ := p
  obtain ⟨k, l⟩ := q
  unfold at? erase Position.skip
  simp only [List.getElem?_modify]
  by_cases hk : i = k
  · subst hk
    by_cases hl : j ≤ l
    · rw [if_pos ⟨rfl, hl⟩]
      cases c.groups[i]? <;> simp [List.getElem?_eraseIdx, Nat.not_lt.2 hl]
    · rw [if_neg fun h => hl h.2]
      cases c.groups[i]? <;> simp [List.getElem?_eraseIdx, Nat.not_le.1 hl]
  · rw [if_neg fun h => hk h.1.symm]
    simp [hk]

/-! ## First matches -/

section

variable {c : Catalog δ} {q : Group δ → Bool} {r : Definition δ → Bool} {pre post : List (Group δ)}
  {g : Group δ} {as bs : List (Definition δ)} {x : Definition δ}
  (firstGroup : First q c.groups pre g post) (first : First r g.definitions as x bs)
include firstGroup first

theorem at?_of_first : c.at? ⟨pre.length, as.length⟩ = some (g.name, x) :=
  at?_eq_some_iff.2 ⟨g, firstGroup.getElem?, first.getElem?, rfl⟩

theorem put_of_first (d : Definition δ) :
    c.put ⟨pre.length, as.length⟩ d = focus pre post g.name (as ++ d :: bs) := by
  unfold put
  rw [firstGroup.modify, first.set]
  rfl

theorem erase_of_first :
    c.erase ⟨pre.length, as.length⟩ = focus pre post g.name (as ++ bs) := by
  unfold erase
  rw [firstGroup.modify, first.eraseIdx]
  rfl

end

theorem position?_eq_some_iff {c : Catalog δ} {group name : String} {p : Position} :
    c.position? group name = some p ↔
      ∃ pre g post as x bs, First (fun g => Text.same g.name group) c.groups pre g post ∧
        First (fun d => Text.same d.name name) g.definitions as x bs ∧
        p = ⟨pre.length, as.length⟩ := by
  unfold position?
  simp only [Option.bind_eq_bind, Option.bind_eq_some_iff, Option.some.injEq]
  constructor
  · rintro ⟨i, hi, g, hg, j, hj, rfl⟩
    obtain ⟨pre, g', post, firstGroup, rfl⟩ := First.of_findIdx? hi
    rw [firstGroup.getElem?] at hg
    cases hg
    obtain ⟨as, x, bs, first, rfl⟩ := First.of_findIdx? hj
    exact ⟨pre, g, post, as, x, bs, firstGroup, first, rfl⟩
  · rintro ⟨pre, g, post, as, x, bs, firstGroup, first, rfl⟩
    exact ⟨_, firstGroup.findIdx?, g, firstGroup.getElem?, _, first.findIdx?, rfl⟩

section

variable {c : Catalog δ} {group name : String} {pre post : List (Group δ)} {g : Group δ}
  {as bs : List (Definition δ)} {x d : Definition δ}

section

variable (firstGroup : First (fun g => Text.same g.name group) c.groups pre g post)
include firstGroup

/-- Other definitions do not make another group the first one. -/
theorem first_focus (ds : List (Definition δ)) :
    First (fun g => Text.same g.name group) (focus pre post g.name ds).groups pre ⟨g.name, ds⟩
      post :=
  ⟨rfl, firstGroup.holds, firstGroup.least⟩

theorem group?_of_first : c.group? group = some g := firstGroup.find?

theorem findByName?_of_first
    (first : First (fun d => Text.same d.name name) g.definitions as x bs) :
    c.findByName? group name = some x := by
  show (c.group? group).bind (fun g => g.definitions.find? fun d => Text.same d.name name) = some x
  rw [group?_of_first firstGroup]
  exact first.find?

theorem removeDefinition_of_first
    (first : First (fun d => Text.same d.name name) g.definitions as x bs) :
    c.removeDefinition group name = (.ok x, focus pre post g.name (as ++ bs)) := by
  unfold removeDefinition
  rw [group?_of_first firstGroup]
  dsimp only
  rw [first.findIdx?]
  dsimp only
  rw [first.getElem?, modifyGroup_of_first firstGroup, first.eraseIdx]
  rfl

end

/-- No definition listens on the path of `d` but those of its name in groups of the name. -/
def Spares (c : Catalog δ) (group : String) (d : Definition δ) : Prop :=
  ∀ p title x, c.at? p = some (title, x) → Text.same x.endpoint d.endpoint = true →
    Text.same title group = true ∧ Text.same x.name d.name = true

theorem spares_iff : c.Spares group d ↔
    ∀ g ∈ c.groups, ∀ x ∈ g.definitions, Text.same x.endpoint d.endpoint = true →
      Text.same g.name group = true ∧ Text.same x.name d.name = true := by
  constructor
  · intro h g hg x hx
    obtain ⟨p, hp⟩ := exists_at?_iff.2 ⟨g, hg, hx, rfl⟩
    exact h p g.name x hp
  · intro h p title x hp
    obtain ⟨g, hg, hx, rfl⟩ := exists_at?_iff.1 ⟨p, hp⟩
    exact h g hg x hx

theorem updateDefinition_of_first (valid : d.issues = []) (spares : c.Spares group d)
    (firstGroup : First (fun g => Text.same g.name group) c.groups pre g post)
    (first : First (fun x => Text.same x.name d.name) g.definitions as x bs) :
    c.updateDefinition group d = (.ok (), focus pre post g.name (as ++ d :: bs)) := by
  have howner : (c.endpointOwner? d.endpoint fun g x =>
      !(Text.same g.name group && Text.same x.name d.name)) = none := by
    rw [endpointOwner?_eq_none_iff]
    intro g hg x hx hother
    rw [Bool.eq_false_iff]
    intro hsame
    obtain ⟨hgroup, hname⟩ := spares_iff.1 spares g hg x hx hsame
    simp [hgroup, hname] at hother
  unfold updateDefinition
  rw [if_neg (not_not_intro valid)]
  dsimp only
  rw [howner, group?_of_first firstGroup]
  dsimp only
  rw [first.findIdx?]
  dsimp only
  rw [modifyGroup_of_first firstGroup, first.set]
  rfl

end

/-! ## Look-ups and edits -/

section

variable {c c' : Catalog δ} {group name : String} {d : Definition δ}

theorem findByName?_eq_some_iff :
    c.findByName? group name = some d ↔
      ∃ p title, c.position? group name = some p ∧ c.at? p = some (title, d) := by
  constructor
  · intro h
    obtain ⟨g, hg, hd⟩ := Option.bind_eq_some_iff.1 h
    obtain ⟨pre, post, firstGroup⟩ := First.of_find? hg
    obtain ⟨as, bs, first⟩ := First.of_find? hd
    exact ⟨_, _, position?_eq_some_iff.2 ⟨_, _, _, _, _, _, firstGroup, first, rfl⟩,
      at?_of_first firstGroup first⟩
  · rintro ⟨p, title, hp, hd⟩
    obtain ⟨pre, g, post, as, x, bs, firstGroup, first, rfl⟩ := position?_eq_some_iff.1 hp
    rw [at?_of_first firstGroup first] at hd
    cases hd
    exact findByName?_of_first firstGroup first

theorem removeDefinition_eq_ok_iff :
    c.removeDefinition group name = (.ok d, c') ↔
      ∃ p title, c.position? group name = some p ∧ c.at? p = some (title, d) ∧
        c' = c.erase p := by
  constructor
  · intro h
    cases edited_of_remove h with
    | removed firstGroup first =>
      rw [removeDefinition_of_first firstGroup first] at h
      cases h
      exact ⟨_, _, position?_eq_some_iff.2 ⟨_, _, _, _, _, _, firstGroup, first, rfl⟩,
        at?_of_first firstGroup first, (erase_of_first firstGroup first).symm⟩
  · rintro ⟨p, title, hp, hd, rfl⟩
    obtain ⟨pre, g, post, as, x, bs, firstGroup, first, rfl⟩ := position?_eq_some_iff.1 hp
    rw [at?_of_first firstGroup first] at hd
    cases hd
    rw [removeDefinition_of_first firstGroup first, erase_of_first firstGroup first]

theorem updateDefinition_eq_ok_iff :
    c.updateDefinition group d = (.ok (), c') ↔
      d.issues = [] ∧ c.Spares group d ∧
        ∃ p, c.position? group d.name = some p ∧ c' = c.put p d := by
  constructor
  · intro h
    cases edited_of_update h with
    | replaced valid endpoint firstGroup first =>
      refine ⟨valid, spares_iff.2 endpoint, _, ?_, (put_of_first firstGroup first d).symm⟩
      exact position?_eq_some_iff.2 ⟨_, _, _, _, _, _, firstGroup, first, rfl⟩
  · rintro ⟨valid, spares, p, hp, rfl⟩
    obtain ⟨pre, g, post, as, x, bs, firstGroup, first, rfl⟩ := position?_eq_some_iff.1 hp
    rw [updateDefinition_of_first valid spares firstGroup first, put_of_first firstGroup first]

end

/-! ## New entries -/

section

variable {pre post : List (Group δ)} {title group : String} {as bs : List (Definition δ)}
  {d : Definition δ}

theorem findByEndpoint?_focus {endpoint : String}
    (hpre : ∀ g ∈ pre, ∀ x ∈ g.definitions, Text.same x.endpoint endpoint = false)
    (has : ∀ x ∈ as, Text.same x.endpoint endpoint = false)
    (hd : Text.same d.endpoint endpoint = true) :
    (focus pre post title (as ++ d :: bs)).findByEndpoint? endpoint =
      some (⟨title, as ++ d :: bs⟩, d) := by
  have hgroups : pre.findSome? (fun g =>
      (g.definitions.find? fun x => Text.same x.endpoint endpoint).map fun x => (g, x)) = none := by
    simpa using hpre
  have first : First (fun x => Text.same x.endpoint endpoint) (as ++ d :: bs) as d bs :=
    ⟨rfl, hd, has⟩
  unfold findByEndpoint? focus
  rw [List.findSome?_append, hgroups, Option.none_or, List.findSome?_cons]
  dsimp only
  rw [first.find?]
  rfl

/-- An entry that stands in front of all others of its name is shown, and removing it leaves the
others. -/
theorem shown_of_insert (hgroup : Text.same title group = true)
    (hpre : ∀ g ∈ pre, Text.same g.name group = false)
    (has : ∀ x ∈ as, Text.same x.name d.name = false)
    (endpoint : ∀ x ∈ (focus pre post title (as ++ bs)).definitions,
      Text.same x.endpoint d.endpoint = false) :
    (focus pre post title (as ++ d :: bs)).findByName? group d.name = some d ∧
      (∃ g, (focus pre post title (as ++ d :: bs)).group? group = some g ∧ d ∈ g.definitions ∧
        (focus pre post title (as ++ d :: bs)).findByEndpoint? d.endpoint = some (g, d)) ∧
      (focus pre post title (as ++ d :: bs)).removeDefinition group d.name =
        (.ok d, focus pre post title (as ++ bs)) := by
  have firstGroup : First (fun g => Text.same g.name group)
      (focus pre post title (as ++ d :: bs)).groups pre ⟨title, as ++ d :: bs⟩ post :=
    ⟨rfl, hgroup, hpre⟩
  have first : First (fun x => Text.same x.name d.name) (as ++ d :: bs) as d bs :=
    ⟨rfl, Text.same_refl _, has⟩
  rw [definitions_focus, List.forall_mem_append, List.forall_mem_append,
    List.forall_mem_append] at endpoint
  obtain ⟨hbefore, ⟨hamong, -⟩, -⟩ := endpoint
  refine ⟨findByName?_of_first firstGroup first, ⟨_, group?_of_first firstGroup, ?_, ?_⟩,
    removeDefinition_of_first firstGroup first⟩
  · exact List.mem_append_right _ List.mem_cons_self
  · refine findByEndpoint?_focus ?_ hamong (Text.same_refl _)
    exact fun g hg x hx => hbefore x (List.mem_flatMap.2 ⟨g, hg, hx⟩)

end

/-- What look-ups show of a catalog before and after its edits. -/
structure EditsShown (c : Catalog δ) : Prop where
  shown (group name : String) (d : Definition δ) :
    c.findByName? group name = some d ↔
      ∃ p title, c.position? group name = some p ∧ c.at? p = some (title, d)
  removable (group name : String) (d : Definition δ) :
    (∃ c', c.removeDefinition group name = (.ok d, c')) ↔ c.findByName? group name = some d
  removed {group name : String} {d : Definition δ} {c' : Catalog δ}
      (h : c.removeDefinition group name = (.ok d, c')) :
    ∃ p, c.position? group name = some p ∧ c' = c.erase p ∧
      ∀ q, c'.at? q = c.at? (p.skip q)
  updated {group : String} {d : Definition δ} {c' : Catalog δ}
      (h : c.updateDefinition group d = (.ok (), c')) :
    c'.findByName? group d.name = some d ∧
      ∃ p, c.position? group d.name = some p ∧ c' = c.put p d ∧
        ∀ q, q ≠ p → c'.at? q = c.at? q
  /-- A group that had to be made stays, without definitions. -/
  added {group : String} {d : Definition δ} {c' : Catalog δ}
      (h : c.addDefinition group d = (.ok (), c')) :
    c'.findByName? group d.name = some d ∧
      (∃ g, c'.group? group = some g ∧ d ∈ g.definitions ∧
        c'.findByEndpoint? d.endpoint = some (g, d)) ∧
      c'.removeDefinition group d.name =
        (.ok d, if (c.group? group).isSome then c else ⟨c.groups ++ [⟨group, []⟩]⟩)
  rejected {e : Edit δ} {err : CatalogError} {c' : Catalog δ} (h : c.edit e = (.error err, c')) :
    c' = c

theorem findByName?_of_update {c c' : Catalog δ} {group : String} {d : Definition δ}
    (h : c.updateDefinition group d = (.ok (), c')) : c'.findByName? group d.name = some d := by
  cases edited_of_update h with
  | replaced _ _ firstGroup first =>
    exact findByName?_of_first (first_focus firstGroup _) ⟨rfl, Text.same_refl _, first.least⟩

theorem shown_of_add {c c' : Catalog δ} {group : String} {d : Definition δ}
    (h : c.addDefinition group d = (.ok (), c')) :
    c'.findByName? group d.name = some d ∧
      (∃ g, c'.group? group = some g ∧ d ∈ g.definitions ∧
        c'.findByEndpoint? d.endpoint = some (g, d)) ∧
      c'.removeDefinition group d.name =
        (.ok d, if (c.group? group).isSome then c else ⟨c.groups ++ [⟨group, []⟩]⟩) := by
  cases edited_of_add h with
  | @appended _ _ pre post g _ endpoint first name =>
    have hc : focus pre post g.name (g.definitions ++ []) = c := by
      rw [List.append_nil, ← eq_focus first]
    rw [← hc] at endpoint
    have hshown := shown_of_insert first.holds first.least name endpoint
    rwa [group?_of_first first, if_pos Option.isSome_some, ← hc]
  | created _ endpoint new =>
    have hdefinitions : (focus c.groups [] group ([] ++ [])).definitions = c.definitions := by
      rw [definitions_focus]
      exact List.append_nil _
    have hnone : c.group? group = none := by
      simpa [Catalog.group?] using new
    rw [← hdefinitions] at endpoint
    have hshown := shown_of_insert (Text.same_refl group) new (List.forall_mem_nil _) endpoint
    rwa [hnone, if_neg (by simp)]

theorem editsShown (c : Catalog δ) : c.EditsShown := by
  constructor
  case shown => exact fun _ _ _ => findByName?_eq_some_iff
  case removable =>
    intro group name d
    rw [findByName?_eq_some_iff]
    constructor
    · rintro ⟨c', h⟩
      obtain ⟨p, title, hp, hd, -⟩ := removeDefinition_eq_ok_iff.1 h
      exact ⟨p, title, hp, hd⟩
    · rintro ⟨p, title, hp, hd⟩
      exact ⟨c.erase p, removeDefinition_eq_ok_iff.2 ⟨p, title, hp, hd, rfl⟩⟩
  case removed =>
    intro group name d c' h
    obtain ⟨p, -, hp, -, hc⟩ := removeDefinition_eq_ok_iff.1 h
    refine ⟨p, hp, hc, ?_⟩
    intro q
    rw [hc, at?_erase]
  case updated =>
    intro group d c' h
    obtain ⟨-, -, p, hp, hc⟩ := updateDefinition_eq_ok_iff.1 h
    refine ⟨findByName?_of_update h, p, hp, hc, ?_⟩
    intro q hq
    rw [hc, at?_put, if_neg hq]
  case added => exact shown_of_add
  case rejected => exact unchanged_of_edit

/-- Two groups of one name, with definitions of one name. -/
def repeatedNames : Catalog Seconds :=
  ⟨[⟨"users", [.sample "list" "/1", .sample "List" "/2"]⟩, ⟨"Users", [.sample "LIST" "/3"]⟩]⟩

/-- The update replaces the first of three entries, and the new group stays. -/
theorem editsShown_repeatedNames :
    (∃ c', repeatedNames.updateDefinition "USERS" (.sample "LIST" "/4") = (.ok (), c') ∧
      c'.findByName? "USERS" "LIST" = some (.sample "LIST" "/4") ∧
      c'.at? ⟨0, 1⟩ = some ("users", .sample "List" "/2") ∧
      c'.at? ⟨1, 0⟩ = some ("Users", .sample "LIST" "/3")) ∧
    ∃ c', repeatedNames.addDefinition "admin" (.sample "list" "/4") = (.ok (), c') ∧
      c'.findByName? "ADMIN" "list" = some (.sample "list" "/4") ∧
      c'.removeDefinition "admin" "list" =
        (.ok (.sample "list" "/4"), ⟨repeatedNames.groups ++ [⟨"admin", []⟩]⟩) := by
  refine ⟨⟨_, rfl, ?_⟩, ⟨_, rfl, rfl, ?_⟩⟩
  · obtain ⟨hfound, p, hp, -, hkept⟩ := (editsShown repeatedNames).updated
      (show repeatedNames.updateDefinition "USERS" (.sample "LIST" "/4") = (.ok (), _) from rfl)
    cases hp.symm.trans (show repeatedNames.position? "USERS" "LIST" = some ⟨0, 0⟩ from rfl)
    exact ⟨hfound, hkept ⟨0, 1⟩ (by decide), hkept ⟨1, 0⟩ (by decide)⟩
  · exact ((editsShown repeatedNames).added
      (show repeatedNames.addDefinition "admin" (.sample "list" "/4") = (.ok (), _) from rfl)).2.2

end Catalog

end ApiGateway
