import ApiGateway.Proofs.Catalog.Positions

/-!
# Updates of different definitions

Where a look-up by name points depends on the names only, so an update does not move it. Updates
of different definitions that are accepted one after the other are accepted in the other order
too, with the same catalog. In a consistent catalog an update is undone by another one.
-/

set_option autoImplicit false

namespace ApiGateway

namespace Catalog

variable {δ : Type}

theorem put_comm (c : Catalog δ) {p q : Position} (h : p ≠ q) (d e : Definition δ) :
    (c.put p d).put q e = (c.put q e).put p d := by
  obtain ⟨i, j⟩ := p
  obtain ⟨k, l⟩ := q
  unfold put
  by_cases hi : i = k
  · subst hi
    have hj : j ≠ l := fun hj => h (congrArg _ hj)
    rw [List.modify_modify_eq, List.modify_modify_eq]
    congr 2
    funext g
    simp only [Function.comp_apply]
    rw [List.set_comm _ _ hj]
  · rw [List.modify_modify_ne _ _ _ hi]

/-- The names of groups and definitions, as far as look-ups tell them apart. -/
def keys (c : Catalog δ) : List (List Char × List (List Char)) :=
  c.groups.map fun g => (Text.fold g.name, g.definitions.map fun d => Text.fold d.name)

theorem position?_eq_of_keys {c c' : Catalog δ} (h : c.keys = c'.keys) (group name : String) :
    c.position? group name = c'.position? group name := by
  have hposition (c : Catalog δ) : c.position? group name =
      (c.keys.findIdx? fun k => k.1 == Text.fold group).bind fun i =>
        c.keys[i]?.bind fun k =>
          (k.2.findIdx? fun n => n == Text.fold name).bind fun j => some ⟨i, j⟩ := by
    unfold position? keys
    simp only [List.findIdx?_map, List.getElem?_map, Option.bind_eq_bind, Option.bind_map]
    congr 1
    funext i
    congr 1
    funext g
    rw [Function.comp_apply, List.findIdx?_map]
    rfl
  rw [hposition, hposition, h]

section

variable {c c' : Catalog δ} {group : String} {d : Definition δ}

theorem keys_of_update (h : c.updateDefinition group d = (.ok (), c')) : c'.keys = c.keys := by
  cases edited_of_update h with
  | @replaced _ _ x pre post g as bs _ _ firstGroup first =>
    have hname : Text.fold x.name = Text.fold d.name := Text.same_iff.1 first.holds
    unfold keys focus
    rw [firstGroup.eq]
    simp only [List.map_append, List.map_cons, first.eq, hname]

theorem position?_of_update (h : c.updateDefinition group d = (.ok (), c')) (title name : String) :
    c'.position? title name = c.position? title name :=
  position?_eq_of_keys (keys_of_update h) title name

theorem names_of_position? {name : String} {p : Position} (h : c.position? group name = some p) :
    ∃ title x, c.at? p = some (title, x) ∧ Text.same title group = true ∧
      Text.same x.name name = true := by
  obtain ⟨pre, g, post, as, x, bs, firstGroup, first, rfl⟩ := position?_eq_some_iff.1 h
  exact ⟨g.name, x, at?_of_first firstGroup first, firstGroup.holds, first.holds⟩

theorem fold_eq_of_position? {title name name' : String} {p : Position}
    (h : c.position? group name = some p) (h' : c.position? title name' = some p) :
    (Text.fold group, Text.fold name) = (Text.fold title, Text.fold name') := by
  obtain ⟨t, x, hx, hgroup, hname⟩ := names_of_position? h
  obtain ⟨t', x', hx', hgroup', hname'⟩ := names_of_position? h'
  rw [hx, Option.some.injEq, Prod.mk.injEq] at hx'
  obtain ⟨rfl, rfl⟩ := hx'
  rw [Text.same_iff] at hgroup hname hgroup' hname'
  exact Prod.ext (hgroup.symm.trans hgroup') (hname.symm.trans hname')

end

section

variable {c c₁ c₂ c₁₂ : Catalog δ} {group₁ group₂ : String} {d₁ d₂ : Definition δ}

theorem update_comm
    (different : (Text.fold group₁, Text.fold d₁.name) ≠ (Text.fold group₂, Text.fold d₂.name))
    (h₁ : c.updateDefinition group₁ d₁ = (.ok (), c₁))
    (h₁₂ : c₁.updateDefinition group₂ d₂ = (.ok (), c₁₂))
    (h₂ : c.updateDefinition group₂ d₂ = (.ok (), c₂)) :
    c₂.updateDefinition group₁ d₁ = (.ok (), c₁₂) := by
  have hpos₁ := position?_of_update h₁ group₂ d₂.name
  have hpos₂ := position?_of_update h₂ group₁ d₁.name
  obtain ⟨valid, spares, p, hp, rfl⟩ := updateDefinition_eq_ok_iff.1 h₁
  obtain ⟨-, -, q, hq, rfl⟩ := updateDefinition_eq_ok_iff.1 h₂
  obtain ⟨-, spares₁₂, q', hq', rfl⟩ := updateDefinition_eq_ok_iff.1 h₁₂
  rw [hpos₁, hq, Option.some.injEq] at hq'
  subst hq'
  obtain ⟨title₁, x₁, hx₁, hgroup₁, -⟩ := names_of_position? hp
  obtain ⟨title₂, x₂, hx₂, -, -⟩ := names_of_position? hq
  have hne : p ≠ q := by
    rintro rfl
    exact different (fold_eq_of_position? hp hq)
  refine updateDefinition_eq_ok_iff.2 ⟨valid, ?_, p, hpos₂.trans hp, put_comm c hne d₁ d₂⟩
  intro r title x hr hsame
  rw [at?_put] at hr
  by_cases hrq : r = q
  · -- The first order has accepted `d₂` beside `d₁`, so they are not on one path.
    subst hrq
    rw [if_pos rfl, hx₂] at hr
    cases hr
    have hd₁ : (c.put p d₁).at? p = some (title₁, d₁) := by
      rw [at?_put, if_pos rfl, hx₁]
      rfl
    rw [Text.same_comm] at hsame
    obtain ⟨hgroup, hname⟩ := spares₁₂ p title₁ d₁ hd₁ hsame
    rw [Text.same_iff] at hgroup hname hgroup₁
    exact absurd (Prod.ext (hgroup₁.symm.trans hgroup) hname) different
  · rw [if_neg hrq] at hr
    exact spares r title x hr hsame

end

theorem spares_middle {pre post : List (Group δ)} {title group : String}
    {as bs : List (Definition δ)} {d x : Definition δ} (hgroup : Text.same title group = true)
    (hname : Text.same d.name x.name = true)
    (endpoint : ∀ y ∈ (focus pre post title (as ++ bs)).definitions,
      Text.same y.endpoint x.endpoint = false) :
    (focus pre post title (as ++ d :: bs)).Spares group x := by
  have endpoint : ∀ g ∈ pre ++ ⟨title, as ++ bs⟩ :: post, ∀ y ∈ g.definitions,
      Text.same y.endpoint x.endpoint = false := List.forall_mem_flatMap.1 endpoint
  rw [forall_mem_middle] at endpoint
  obtain ⟨hamong, hothers⟩ := endpoint
  rw [spares_iff]
  show ∀ g ∈ pre ++ ⟨title, as ++ d :: bs⟩ :: post, _
  rw [forall_mem_middle]
  constructor
  · show ∀ y ∈ as ++ d :: bs, _
    rw [forall_mem_middle]
    refine ⟨fun _ => ⟨hgroup, hname⟩, ?_⟩
    intro y hy hsame
    rw [hamong y hy] at hsame
    cases hsame
  · intro g hg y hy hsame
    rw [hothers g hg y hy] at hsame
    cases hsame

/-- The name may be spelled otherwise in the update, and the old definition finds its path free. -/
theorem undo_update {c c' : Catalog δ} {group : String} {d : Definition δ} (hc : c.Consistent)
    (h : c.updateDefinition group d = (.ok (), c')) :
    ∃ old, c.findByName? group d.name = some old ∧ c'.updateDefinition group old = (.ok (), c) := by
  cases edited_of_update h with
  | @replaced _ _ x pre post g as bs _ _ firstGroup first =>
    refine ⟨x, findByName?_of_first firstGroup first, ?_⟩
    have hcx : c = focus pre post g.name (as ++ x :: bs) := by
      rw [← first.eq]
      exact eq_focus firstGroup
    have hname : Text.same d.name x.name = true := by
      rw [Text.same_comm]
      exact first.holds
    rw [hcx] at hc ⊢
    obtain ⟨-, valid, -, endpoint⟩ := consistent_insert_iff.1 hc
    have first' : First (fun y => Text.same y.name x.name) (as ++ d :: bs) as d bs :=
      ⟨rfl, hname, fun y hy => Text.same_eq_false_of_same (first.least y hy) hname⟩
    have hspares := spares_middle firstGroup.holds hname endpoint
    exact (updateDefinition_of_first valid hspares (first_focus firstGroup _) first' :)

/-- Updates of different definitions commute, whatever repeats in the catalog, and an update of a
consistent one is undone by the definition that was found there before. -/
theorem updates_comm_and_undo (c : Catalog δ) :
    (∀ {group₁ group₂ : String} {d₁ d₂ : Definition δ} {c₁ c₂ c₁₂ : Catalog δ},
      (Text.fold group₁, Text.fold d₁.name) ≠ (Text.fold group₂, Text.fold d₂.name) →
      c.updateDefinition group₁ d₁ = (.ok (), c₁) → c₁.updateDefinition group₂ d₂ = (.ok (), c₁₂) →
      c.updateDefinition group₂ d₂ = (.ok (), c₂) → c₂.updateDefinition group₁ d₁ = (.ok (), c₁₂)) ∧
    ∀ {group : String} {d : Definition δ} {c' : Catalog δ}, c.Consistent →
      c.updateDefinition group d = (.ok (), c') →
      ∃ old, c.findByName? group d.name = some old ∧ c'.updateDefinition group old = (.ok (), c) :=
  ⟨update_comm, undo_update⟩

theorem updates_comm_and_undo_sample :
    ∃ c₁ c₂ c₁₂, sampleGroups.updateDefinition "USERS" (.sample "A" "/4") = (.ok (), c₁) ∧
      sampleGroups.updateDefinition "" (.sample "a" "/5") = (.ok (), c₂) ∧
      c₁.updateDefinition "" (.sample "a" "/5") = (.ok (), c₁₂) ∧
      c₂.updateDefinition "USERS" (.sample "A" "/4") = (.ok (), c₁₂) ∧
      ∃ old, sampleGroups.findByName? "USERS" "A" = some old ∧
        c₁.updateDefinition "USERS" old = (.ok (), sampleGroups) := by
  have hc : sampleGroups.Consistent := (issues_eq_nil_iff_consistent.1 (by decide)).2
  obtain ⟨hcomm, hundo⟩ := updates_comm_and_undo sampleGroups
  have h₁ : sampleGroups.updateDefinition "USERS" (.sample "A" "/4") = (.ok (), _) := rfl
  have h₂ : sampleGroups.updateDefinition "" (.sample "a" "/5") = (.ok (), _) := rfl
  exact ⟨_, _, _, h₁, h₂, rfl, hcomm (by decide) h₁ rfl h₂, hundo hc h₁⟩

end Catalog

end ApiGateway
