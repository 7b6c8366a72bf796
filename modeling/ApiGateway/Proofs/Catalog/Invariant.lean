import ApiGateway.Proofs.Catalog.Consistency

/-!
# What edits preserve

Consistent catalogs stay consistent under every edit as long as group names are unique
(`Catalog.invariant_edits`). Where groups share a blank name, which validation does not report, an
update may take a definition of another group for the one it replaces
(`Catalog.issues_edit_eq_nil_iff`).
-/

set_option autoImplicit false

namespace ApiGateway

variable {δ : Type}

/-- An update that a definition of the same name stands in the way of, in a group of the same name
that is not the first. -/
def Edit.Collides (c : Catalog δ) : Edit δ → Prop
  | .update group d =>
    ∃ g ∈ (c.groups.filter fun g => Text.same g.name group).tail, ∃ x ∈ g.definitions,
      Text.same x.name d.name = true ∧ Text.same x.endpoint d.endpoint = true
  | _ => False

theorem Edit.collides_update_iff {c : Catalog δ} {group : String} {d : Definition δ} :
    (update group d).Collides c ↔
      ∃ g ∈ (c.groups.filter fun g => Text.same g.name group).tail, ∃ x ∈ g.definitions,
        Text.same x.name d.name = true ∧ Text.same x.endpoint d.endpoint = true := Iff.rfl

namespace Catalog

section

variable {c : Catalog δ} {group : String} {d x : Definition δ} {pre post : List (Group δ)}
  {g : Group δ} {as bs : List (Definition δ)}
  (endpoint : ∀ g ∈ c.groups, ∀ x ∈ g.definitions, Text.same x.endpoint d.endpoint = true →
    Text.same g.name group = true ∧ Text.same x.name d.name = true)
  (firstGroup : First (fun g => Text.same g.name group) c.groups pre g post)
  (first : First (fun x => Text.same x.name d.name) g.definitions as x bs)
include endpoint firstGroup first

/-- What an update tolerates but does not replace is in a later group. -/
theorem collides_of_same_endpoint (names : ∀ y ∈ as ++ bs, Text.same y.name d.name = false)
    {y : Definition δ} (hy : y ∈ (focus pre post g.name (as ++ bs)).definitions)
    (hsame : Text.same y.endpoint d.endpoint = true) : (Edit.update group d).Collides c := by
  have hplace {g' : Group δ} (hg' : g' ∈ pre ++ g :: post) (hy : y ∈ g'.definitions) :=
    endpoint g' (firstGroup.eq ▸ hg') y hy hsame
  rw [definitions_focus, List.mem_append, List.mem_append] at hy
  rcases hy with hy | hy | hy
  · obtain ⟨g', hg', hy⟩ := List.mem_flatMap.1 hy
    have hgroup := (hplace (List.mem_append_left _ hg') hy).1
    rw [firstGroup.least g' hg'] at hgroup
    cases hgroup
  · have hm : y ∈ g.definitions := by
      rw [first.eq]
      exact List.perm_middle.mem_iff.2 (List.mem_cons_of_mem _ hy)
    have hname := (hplace (List.mem_append_right _ List.mem_cons_self) hm).2
    rw [names y hy] at hname
    cases hname
  · obtain ⟨g', hg', hy⟩ := List.mem_flatMap.1 hy
    obtain ⟨hgroup, hname⟩ :=
      hplace (List.mem_append_right _ (List.mem_cons_of_mem _ hg')) hy
    rw [Edit.collides_update_iff, firstGroup.tail_filter]
    exact ⟨g', List.mem_filter.2 ⟨hg', hgroup⟩, y, hy, hname, hsame⟩

theorem consistent_replaced_iff (hc : c.Consistent) (valid : d.issues = []) :
    (focus pre post g.name (as ++ d :: bs)).Consistent ↔ ¬ (Edit.update group d).Collides c := by
  rw [eq_focus firstGroup, first.eq] at hc
  obtain ⟨hrest, -, hnames, -⟩ := consistent_insert_iff.1 hc
  have names : ∀ y ∈ as ++ bs, Text.same y.name d.name = false :=
    fun y hy => Text.same_eq_false_of_same (hnames y hy) first.holds
  rw [consistent_insert_iff]
  constructor
  · rintro ⟨-, -, -, hfree⟩ hcollides
    rw [Edit.collides_update_iff, firstGroup.tail_filter] at hcollides
    obtain ⟨g', hg', y, hy, -, hsame⟩ := hcollides
    have hm : y ∈ (focus pre post g.name (as ++ bs)).definitions := by
      refine mem_definitions.2 ⟨g', ?_, hy⟩
      exact List.mem_append_right _ (List.mem_cons_of_mem _ (List.mem_filter.1 hg').1)
    rw [hfree y hm] at hsame
    cases hsame
  · intro hfree
    refine ⟨hrest, valid, names, ?_⟩
    intro y hy
    rw [Bool.eq_false_iff]
    exact fun hsame => hfree (collides_of_same_endpoint endpoint firstGroup first names hy hsame)

end

theorem Edited.consistent_iff {c c' : Catalog δ} {e : Edit δ} (h : Edited c e c')
    (hc : c.Consistent) : c'.Consistent ↔ ¬ e.Collides c := by
  cases h with
  | appended valid endpoint first name =>
    refine ⟨fun _ => id, fun _ => consistent_insert_iff.2 ?_⟩
    rw [List.append_nil, ← eq_focus first]
    exact ⟨hc, valid, name, endpoint⟩
  | created valid endpoint new =>
    exact ⟨fun _ => id, fun _ => hc.created valid endpoint⟩
  | replaced valid endpoint firstGroup first =>
    exact consistent_replaced_iff endpoint firstGroup first hc valid
  | removed firstGroup first =>
    refine ⟨fun _ => id, fun _ => ?_⟩
    rw [eq_focus firstGroup, first.eq] at hc
    exact (consistent_insert_iff.1 hc).1
  | groupRemoved first =>
    refine ⟨fun _ => id, fun _ => hc.sublist ?_⟩
    rw [first.eq]
    exact (List.sublist_cons_self _ _).append_left _

theorem groupNames_of_first {c : Catalog δ} {p : Group δ → Bool} {pre post : List (Group δ)}
    {g : Group δ} (h : First p c.groups pre g post) (ds : List (Definition δ)) :
    (focus pre post g.name ds).groupNames = c.groupNames := by
  unfold groupNames focus
  rw [h.eq, List.map_append, List.map_append, List.map_cons, List.map_cons]

/-- An edit leaves no new group name but the one of a group that it creates. -/
theorem Edited.groupNames {c c' : Catalog δ} {e : Edit δ} (h : Edited c e c') :
    c'.groupNames.Sublist c.groupNames ∨
      ∃ group, c'.groupNames = c.groupNames ++ [group] ∧
        Text.fold group ∉ c.groupNames.map Text.fold := by
  cases h with
  | appended _ _ first _ =>
    left
    rw [groupNames_of_first first]
  | @created group _ _ _ new =>
    right
    refine ⟨group, List.map_append, ?_⟩
    unfold Catalog.groupNames
    rw [List.map_map]
    exact Text.fold_notMem_iff.2 new
  | replaced _ _ firstGroup _ =>
    left
    rw [groupNames_of_first firstGroup]
  | removed firstGroup _ =>
    left
    rw [groupNames_of_first firstGroup]
  | @groupRemoved _ pre post g first =>
    left
    unfold Catalog.groupNames
    rw [first.eq]
    exact ((List.sublist_cons_self g post).append_left pre).map _

theorem Edited.nodup_groupNames {c c' : Catalog δ} {e : Edit δ} (h : Edited c e c')
    (p : String → Bool) (hn : ((c.groupNames.filter p).map Text.fold).Nodup) :
    ((c'.groupNames.filter p).map Text.fold).Nodup := by
  rcases h.groupNames with hs | ⟨group, e, hfree⟩
  · exact hn.sublist ((hs.filter p).map _)
  · rw [e, List.filter_append]
    by_cases hp : p group = true
    · rw [List.filter_cons_of_pos hp, nodup_map_middle, List.filter_nil, List.append_nil]
      exact ⟨fun hm => hfree ((List.filter_sublist.map _).subset hm), hn⟩
    · rwa [List.filter_cons_of_neg hp, List.filter_nil, List.append_nil]

end Catalog

/-- Where the names of a kind are unique, nothing stands in the way in a group of that kind. -/
theorem Edit.not_collides_update {c : Catalog δ} {group : String} {d : Definition δ}
    {p : String → Bool} (h : ((c.groupNames.filter p).map Text.fold).Nodup)
    (hp : ∀ s, Text.same s group = true → p s = true) : ¬ (update group d).Collides c := by
  rintro ⟨g, hg, -⟩
  have hpair : (c.groups.filter fun g => p g.name).Pairwise
      fun a b => Text.fold a.name ≠ Text.fold b.name := by
    unfold Catalog.groupNames at h
    rwa [List.filter_map, List.map_map, List.nodup_iff_pairwise_ne, List.pairwise_map] at h
  -- The groups of one name are some of those whose names differ, so there is no second one.
  have hsub : (c.groups.filter fun g => Text.same g.name group).Sublist
      (c.groups.filter fun g => p g.name) :=
    List.monotone_filter_right _ fun g => hp g.name
  have hsame : ∀ g ∈ c.groups.filter fun g => Text.same g.name group,
      Text.fold g.name = Text.fold group :=
    fun g hg => Text.same_iff.1 (List.mem_filter.1 hg).2
  cases hl : c.groups.filter fun g => Text.same g.name group with
  | nil =>
    rw [hl] at hg
    cases hg
  | cons g' gs =>
    rw [hl] at hg hsub hsame
    apply List.rel_of_pairwise_cons (hpair.sublist hsub) hg
    rw [hsame g' List.mem_cons_self, hsame g (List.mem_cons_of_mem _ hg)]

theorem Edit.not_collides {c : Catalog δ} (h : (c.groupNames.map Text.fold).Nodup)
    (e : Edit δ) : ¬ e.Collides c := by
  cases e with
  | update group d =>
    refine not_collides_update (p := fun _ => true) ?_ fun _ _ => rfl
    rwa [List.filter_true]
  | add | remove | removeGroup => exact id

def Definition.sample (name endpoint : String) : Definition Seconds :=
  { (Definition.standard : Definition Seconds) with
    name, endpoint
    backends := [{ (Backend.standard : Backend Seconds) with
      hosts := [⟨"h", 1⟩]
      disableHostSanitize := true }] }

namespace Catalog

/-- A consistent catalog of groups with different names, blank ones included. -/
structure Invariant (c : Catalog δ) : Prop extends Consistent c where
  groupNames : (c.groupNames.map Text.fold).Nodup

theorem invariant_empty : (empty : Catalog δ).Invariant := by
  refine ⟨⟨?_, ?_, List.nodup_nil⟩, List.nodup_nil⟩
  · intro d hd
    cases hd
  · intro g hg
    cases hg

namespace Invariant

variable {c : Catalog δ}

theorem of_edited {c' : Catalog δ} {e : Edit δ} (h : c.Invariant) (hedited : Edited c e c') :
    c'.Invariant := by
  refine ⟨(hedited.consistent_iff h.toConsistent).2 (Edit.not_collides h.groupNames e), ?_⟩
  have hn := hedited.nodup_groupNames (fun _ => true)
  rw [List.filter_true, List.filter_true] at hn
  exact hn h.groupNames

theorem after (h : c.Invariant) (e : Edit δ) : (c.after e).Invariant := by
  rcases edited_or_unchanged c e with hedited | hsame
  · exact h.of_edited hedited
  · rwa [hsame]

theorem run (h : c.Invariant) (es : List (Edit δ)) : (c.run es).Invariant := by
  induction es generalizing c with
  | nil => exact h
  | cons e es ih => exact ih (h.after e)

theorem issues_eq_nil (h : c.Invariant) : c.issues = [] := by
  refine issues_eq_nil_iff_consistent.2 ⟨?_, h.toConsistent⟩
  exact h.groupNames.sublist (List.filter_sublist.map _)

end Invariant

theorem invariant_edits :
    (empty : Catalog δ).Invariant ∧
      (∀ (c : Catalog δ) (e : Edit δ), c.Invariant → (c.after e).Invariant) ∧
      ∀ es : List (Edit δ), ((empty : Catalog δ).run es).issues = [] := by
  refine ⟨invariant_empty, fun c e h => h.after e, fun es => ?_⟩
  exact (invariant_empty.run es).issues_eq_nil

/-- Two groups that differ in name, with a definition of the same name in both. -/
def sampleGroups : Catalog Seconds :=
  ⟨[⟨"", [.sample "a" "/1"]⟩, ⟨"Users", [.sample "a" "/2", .sample "b" "/3"]⟩]⟩

theorem invariant_after_sample : sampleGroups.Invariant ∧
    (sampleGroups.after (.update "USERS" (.sample "B" "/4"))).Invariant := by
  have h : sampleGroups.Invariant :=
    ⟨(issues_eq_nil_iff_consistent.1 (by decide)).2, by decide⟩
  exact ⟨h, invariant_edits.2.1 sampleGroups (.update "USERS" (.sample "B" "/4")) h⟩

theorem Edited.issues_eq_nil_iff {c c' : Catalog δ} {e : Edit δ} (h : Edited c e c')
    (hc : c.issues = []) : c'.issues = [] ↔ ¬ e.Collides c := by
  obtain ⟨hn, hc⟩ := issues_eq_nil_iff_consistent.1 hc
  rw [issues_eq_nil_iff_consistent, h.consistent_iff hc]
  exact and_iff_right (h.nodup_groupNames _ hn)

/-- Groups that have a name are safe to update. -/
theorem issues_updateDefinition_eq_nil {c c' : Catalog δ} {group : String} {d : Definition δ}
    (h : c.issues = []) (hg : Text.allBlank group = false)
    (hu : c.updateDefinition group d = (.ok (), c')) : c'.issues = [] := by
  refine ((edited_of_update hu).issues_eq_nil_iff h).2 ?_
  refine Edit.not_collides_update (issues_eq_nil_iff_consistent.1 h).1 fun s hs => ?_
  rw [Text.allBlank_eq_of_same hs, hg]
  rfl

/-- An accepted edit of a catalog without issues brings one exactly if it collides. -/
theorem issues_edit_eq_nil_iff {c c' : Catalog δ} {e : Edit δ} (h : c.issues = [])
    (he : c.edit e = (.ok (), c')) : c'.issues = [] ↔ ¬ e.Collides c :=
  (edited_of_edit he).issues_eq_nil_iff h

/-- Two groups without a name that have definitions of one name. -/
def unnamed : Catalog Seconds := ⟨[⟨"", [.sample "a" "/1"]⟩, ⟨"", [.sample "a" "/2"]⟩]⟩

theorem issues_edit_unnamed :
    unnamed.issues = [] ∧
      unnamed.edit (.update "" (.sample "A" "/3")) =
        (.ok (), ⟨[⟨"", [.sample "A" "/3"]⟩, ⟨"", [.sample "a" "/2"]⟩]⟩) ∧
      ((⟨[⟨"", [.sample "A" "/3"]⟩, ⟨"", [.sample "a" "/2"]⟩]⟩ : Catalog Seconds).issues = [] ↔
        ¬ (Edit.update "" (.sample "A" "/3")).Collides unnamed) :=
  ⟨by decide, rfl, issues_edit_eq_nil_iff (by decide) rfl⟩

/-- The update of the first group takes the definition of the second for its own, and both then
listen on one path. -/
theorem issues_edit_unnamed_collides :
    unnamed.issues = [] ∧
      unnamed.edit (.update "" (.sample "a" "/2")) =
        (.ok (), ⟨[⟨"", [.sample "a" "/2"]⟩, ⟨"", [.sample "a" "/2"]⟩]⟩) ∧
      (⟨[⟨"", [.sample "a" "/2"]⟩, ⟨"", [.sample "a" "/2"]⟩]⟩ : Catalog Seconds).issues ≠ [] :=
  ⟨by decide, rfl, by decide⟩

end Catalog

end ApiGateway
