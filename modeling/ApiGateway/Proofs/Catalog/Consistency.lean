import ApiGateway.Proofs.Catalog.Duplicates
import ApiGateway.Proofs.Catalog.Edit
import Mathlib.Data.List.Flatten
import Mathlib.Tactic.MkIffOfInductiveProp

/-!
# Consistent catalogs

A catalog is consistent if its definitions are valid, with names that are unique in their group
and endpoints that are unique in the catalog. Validation asks for that and for different group
names where they are not blank (`Catalog.issues_eq_nil_iff_consistent`). A definition can be put
into a consistent catalog where nothing of it is taken (`Catalog.consistent_insert_iff`).
-/

set_option autoImplicit false

namespace ApiGateway

variable {δ : Type}

theorem Definition.not_allBlank_name {d : Definition δ} (h : d.issues = []) :
    Text.allBlank d.name = false := by
  unfold issues issuesFor Validation.require at h
  simp only [List.append_eq_nil_iff] at h
  obtain ⟨⟨⟨⟨⟨⟨hname, -⟩, -⟩, -⟩, -⟩, -⟩, -⟩ := h
  split at hname
  · rename_i hb
    simpa using hb
  · cases hname

theorem Definition.not_allBlank_endpoint {d : Definition δ} (h : d.issues = []) :
    Text.allBlank d.endpoint = false := by
  unfold issues issuesFor Validation.endpointIssues Validation.require at h
  simp only [List.append_eq_nil_iff] at h
  obtain ⟨⟨⟨⟨⟨⟨-, hendpoint⟩, -⟩, -⟩, -⟩, -⟩, -⟩ := h
  split at hendpoint
  · cases hendpoint
  split at hendpoint
  · rename_i hs
    unfold Validation.startsWithSlash at hs
    unfold Text.allBlank
    cases hl : d.endpoint.toList with
    | nil => simp [hl] at hs
    | cons a as =>
      have ha : a = '/' := by simpa [hl] using hs
      rw [List.all_cons, ha]
      rfl
  · cases hendpoint

theorem forall_mem_middle {α : Type} {p : α → Prop} {as bs : List α} {a : α} :
    (∀ x ∈ as ++ a :: bs, p x) ↔ p a ∧ ∀ x ∈ as ++ bs, p x := by
  rw [List.forall_mem_append, List.forall_mem_cons, List.forall_mem_append]
  exact and_left_comm

theorem nodup_map_middle {α β : Type} {f : α → β} {as bs : List α} {a : α} :
    ((as ++ a :: bs).map f).Nodup ↔ f a ∉ (as ++ bs).map f ∧ ((as ++ bs).map f).Nodup := by
  rw [List.map_append, List.map_cons, List.nodup_middle, List.nodup_cons, List.map_append]

theorem Text.fold_notMem_iff {α : Type} {xs : List α} {f : α → String} {s : String} :
    fold s ∉ xs.map (fun x => fold (f x)) ↔ ∀ x ∈ xs, same (f x) s = false := by
  simp only [List.mem_map, not_exists, not_and, ← same_iff, Bool.not_eq_true]

namespace Catalog

/-- What validation asks of definitions. -/
@[mk_iff] structure Consistent (c : Catalog δ) : Prop where
  valid : ∀ d ∈ c.definitions, d.issues = []
  names : ∀ g ∈ c.groups, (g.definitions.map fun d => Text.fold d.name).Nodup
  endpoints : (c.definitions.map fun d => Text.fold d.endpoint).Nodup

theorem issues_eq_nil_iff_consistent {c : Catalog δ} :
    c.issues = [] ↔ (Text.visible c.groupNames).Nodup ∧ c.Consistent := by
  rw [issues_eq_nil_iff]
  have hvisible {ds : List (Definition δ)} (h : ∀ d ∈ ds, d.issues = []) :
      Text.visible (ds.map (·.name)) = ds.map (fun d => Text.fold d.name) ∧
        Text.visible (ds.map (·.endpoint)) = ds.map (fun d => Text.fold d.endpoint) := by
    constructor
    · rw [Text.visible_eq_map, List.map_map]
      · rfl
      · exact List.forall_mem_map.2 fun d hd => Definition.not_allBlank_name (h d hd)
    · rw [Text.visible_eq_map, List.map_map]
      · rfl
      · exact List.forall_mem_map.2 fun d hd => Definition.not_allBlank_endpoint (h d hd)
  constructor
  · rintro ⟨hg, hgs, he⟩
    have hvalid : ∀ d ∈ c.definitions, d.issues = [] := by
      intro d hd
      obtain ⟨g, hg, hd⟩ := mem_definitions.1 hd
      exact (hgs g hg).1 d hd
    refine ⟨hg, hvalid, ?_, ?_⟩
    · intro g hg
      obtain ⟨hds, hn⟩ := hgs g hg
      rwa [(hvisible hds).1] at hn
    · rwa [(hvisible hvalid).2] at he
  · rintro ⟨hg, hc⟩
    have hds : ∀ g ∈ c.groups, ∀ d ∈ g.definitions, d.issues = [] :=
      fun g hg d hd => hc.valid d (mem_definitions.2 ⟨g, hg, hd⟩)
    refine ⟨hg, ?_, ?_⟩
    · intro g hg
      refine ⟨hds g hg, ?_⟩
      rw [(hvisible (hds g hg)).1]
      exact hc.names g hg
    · rw [(hvisible hc.valid).2]
      exact hc.endpoints

section

variable {pre post : List (Group δ)} {group : String} {ds as bs : List (Definition δ)}
  {d : Definition δ}

theorem definitions_focus : (focus pre post group ds).definitions =
    pre.flatMap (·.definitions) ++ (ds ++ post.flatMap (·.definitions)) := by
  unfold definitions focus
  rw [List.flatMap_append, List.flatMap_cons]

/-- A catalog with one more definition is consistent if it is without it, and the definition is
valid and takes nothing that is taken. -/
theorem consistent_insert_iff :
    (focus pre post group (as ++ d :: bs)).Consistent ↔
      (focus pre post group (as ++ bs)).Consistent ∧ d.issues = [] ∧
      (∀ x ∈ as ++ bs, Text.same x.name d.name = false) ∧
      ∀ x ∈ (focus pre post group (as ++ bs)).definitions,
        Text.same x.endpoint d.endpoint = false := by
  have hwith : (focus pre post group (as ++ d :: bs)).definitions =
      (pre.flatMap (·.definitions) ++ as) ++ d :: (bs ++ post.flatMap (·.definitions)) := by
    rw [definitions_focus, List.append_assoc, List.append_assoc, List.cons_append]
  have hwithout : (focus pre post group (as ++ bs)).definitions =
      (pre.flatMap (·.definitions) ++ as) ++ (bs ++ post.flatMap (·.definitions)) := by
    rw [definitions_focus, List.append_assoc, List.append_assoc]
  rw [consistent_iff, consistent_iff, hwith, hwithout, forall_mem_middle,
    nodup_map_middle, Text.fold_notMem_iff]
  unfold focus
  rw [forall_mem_middle, forall_mem_middle, nodup_map_middle, Text.fold_notMem_iff]
  constructor
  · rintro ⟨⟨hd, hds⟩, ⟨⟨hn, hns⟩, hgs⟩, he, hes⟩
    exact ⟨⟨hds, ⟨hns, hgs⟩, hes⟩, hd, hn, he⟩
  · rintro ⟨⟨hds, ⟨hns, hgs⟩, hes⟩, hd, hn, he⟩
    exact ⟨⟨hd, hds⟩, ⟨⟨hn, hns⟩, hgs⟩, he, hes⟩

end

namespace Consistent

variable {c : Catalog δ}

theorem created (h : c.Consistent) {group : String} {d : Definition δ} (valid : d.issues = [])
    (endpoint : ∀ x ∈ c.definitions, Text.same x.endpoint d.endpoint = false) :
    (focus c.groups [] group [d]).Consistent := by
  have e : (focus c.groups [] group []).definitions = c.definitions := by
    rw [definitions_focus]
    exact List.append_nil _
  have hnil : (focus c.groups [] group []).Consistent := by
    rw [consistent_iff, e]
    refine ⟨h.valid, ?_, h.endpoints⟩
    intro g hg
    rcases List.mem_append.1 hg with hg | hg
    · exact h.names g hg
    · rw [List.mem_singleton.1 hg]
      exact List.nodup_nil
  show (focus c.groups [] group ([] ++ d :: [])).Consistent
  rw [consistent_insert_iff, List.append_nil, e]
  exact ⟨hnil, valid, fun x hx => absurd hx List.not_mem_nil, endpoint⟩

theorem sublist (h : c.Consistent) {gs : List (Group δ)} (hs : gs.Sublist c.groups) :
    (⟨gs⟩ : Catalog δ).Consistent := by
  have hd : (⟨gs⟩ : Catalog δ).definitions.Sublist c.definitions := hs.flatMap _
  constructor
  · exact fun d hm => h.valid d (hd.subset hm)
  · exact fun g hg => h.names g (hs.subset hg)
  · exact (hd.map _).nodup h.endpoints

end Consistent

end Catalog

end ApiGateway
