import ApiGateway.Catalog.Duplicates
import ApiGateway.Proofs.Text.CaseFold
import Mathlib.Data.List.Nodup

/-!
# Catalogs without issues

Validation goes through a catalog once and remembers what it has seen. A catalog has no issues
exactly when its definitions have none and no name or endpoint that is not blank comes twice
(`Catalog.issues_eq_nil_iff`).
-/

set_option autoImplicit false

namespace ApiGateway

/-- The texts that are not blank, folded. -/
def Text.visible (values : List String) : List (List Char) :=
  (values.filter fun v => !allBlank v).map fold

namespace Text

theorem visible_cons (v : String) (values : List String) :
    visible (v :: values) =
      if allBlank v then visible values else fold v :: visible values := by
  unfold visible
  rw [List.filter_cons]
  cases allBlank v <;> rfl

theorem visible_eq_map {values : List String} (h : ∀ v ∈ values, allBlank v = false) :
    visible values = values.map fold := by
  unfold visible
  rw [List.filter_eq_self.2]
  intro v hv
  rw [h v hv]
  rfl

end Text

namespace Seen

def keys (seen : Seen) : List (List Char) := seen.entries.map Prod.fst

theorem first?_eq_none_iff {seen : Seen} {value : String} :
    seen.first? value = .none ↔ Text.fold value ∉ seen.keys := by
  unfold first? keys
  rw [List.lookup_eq_none_iff, List.mem_map]
  constructor
  · rintro h ⟨p, hp, e⟩
    simpa [e] using h p hp
  · intro h p hp
    exact bne_iff_ne.2 fun e => h ⟨p, hp, e.symm⟩

theorem check_eq_nil_iff {seen : Seen} {what value : String} {path : FieldPath} :
    (seen.check what value path).1 = [] ↔
      Text.allBlank value = true ∨ Text.fold value ∉ seen.keys := by
  rw [← first?_eq_none_iff]
  unfold check
  split
  · simp [*]
  · split <;> simp [*]

theorem keys_check {seen : Seen} {what value : String} {path : FieldPath}
    (h : (seen.check what value path).1 = []) :
    (seen.check what value path).2.keys =
      if Text.allBlank value then seen.keys else Text.fold value :: seen.keys := by
  unfold check at h ⊢
  split
  · rfl
  · rename_i hb
    rw [if_neg hb] at h
    split at h
    · cases h
    · rfl

/-- The values can follow what was seen without a repetition. -/
def Admits (seen : Seen) (values : List String) : Prop :=
  (Text.visible values ++ seen.keys).Nodup

theorem none_admits_iff {values : List String} :
    none.Admits values ↔ (Text.visible values).Nodup := by
  unfold Admits
  rw [show none.keys = [] from rfl, List.append_nil]

theorem admits_cons {seen : Seen} {value : String} {values : List String} (what : String)
    (path : FieldPath) :
    seen.Admits (value :: values) ↔
      (seen.check what value path).1 = [] ∧ (seen.check what value path).2.Admits values := by
  unfold Admits
  rw [Text.visible_cons]
  constructor
  · intro h
    have hc : (seen.check what value path).1 = [] := by
      rw [check_eq_nil_iff]
      by_cases hb : Text.allBlank value = true
      · exact Or.inl hb
      · rw [if_neg hb, List.cons_append, List.nodup_cons] at h
        exact Or.inr fun hm => h.1 (List.mem_append_right _ hm)
    refine ⟨hc, ?_⟩
    rw [keys_check hc]
    split
    · rwa [if_pos ‹_›] at h
    · rw [List.nodup_middle]
      rwa [if_neg ‹_›] at h
  · rintro ⟨hc, h⟩
    rw [keys_check hc] at h
    split
    · rwa [if_pos ‹_›] at h
    · rwa [if_neg ‹_›, List.nodup_middle] at h

theorem check_admits_nil {seen : Seen} (h : seen.Admits []) (what value : String)
    (path : FieldPath) : (seen.check what value path).2.Admits [] := by
  by_cases hc : (seen.check what value path).1 = []
  · rw [check_eq_nil_iff] at hc
    refine ((admits_cons what path).1 ?_).2
    unfold Admits
    rw [Text.visible_cons]
    split
    · exact h
    · exact List.nodup_cons.2 ⟨hc.resolve_left ‹_›, h⟩
  · unfold check at hc ⊢
    split at hc
    · exact absurd rfl hc
    · rename_i hb
      rw [if_neg hb]
      split at hc
      · exact h
      · exact absurd rfl hc

end Seen

namespace Catalog

variable {δ : Type}

theorem definitionIssues_admits_nil {endpoints : Seen} (h : endpoints.Admits [])
    (base : FieldPath) (i : Nat) (names : Seen) (ds : List (Definition δ)) :
    (definitionIssues base i names endpoints ds).2.Admits [] := by
  induction ds generalizing i names endpoints with
  | nil => exact h
  | cons d ds ih =>
    have he := Seen.check_admits_nil h "endpoint" d.endpoint
      (((base.field "definitions").index i).field "endpoint")
    unfold definitionIssues
    dsimp only
    exact ih he (i + 1) _

/-- The pass over the definitions of one group, with the endpoints still to come. -/
theorem definitionIssues_eq_nil_iff {names : Seen} (h : names.Admits []) (base : FieldPath)
    (i : Nat) (endpoints : Seen) (ds : List (Definition δ)) (rest : List String) :
    (definitionIssues base i names endpoints ds).1 = [] ∧
        (definitionIssues base i names endpoints ds).2.Admits rest ↔
      (∀ d ∈ ds, d.issues = []) ∧ names.Admits (ds.map (·.name)) ∧
        endpoints.Admits (ds.map (·.endpoint) ++ rest) := by
  induction ds generalizing i names endpoints with
  | nil => simp [definitionIssues, h]
  | cons d ds ih =>
    have hrest := ih (Seen.check_admits_nil h "api name" d.name
      (((base.field "definitions").index i).field "name")) (i + 1)
    unfold definitionIssues
    dsimp only
    rw [List.forall_mem_cons, List.map_cons, List.map_cons, List.cons_append,
      Seen.admits_cons "api name" (((base.field "definitions").index i).field "name"),
      Seen.admits_cons "endpoint" (((base.field "definitions").index i).field "endpoint"),
      List.append_eq_nil_iff, List.append_eq_nil_iff, List.append_eq_nil_iff, List.map_eq_nil_iff,
      and_assoc, hrest]
    constructor
    · rintro ⟨⟨⟨hd, hn⟩, he⟩, hds, hns, hes⟩
      exact ⟨⟨hd, hds⟩, ⟨hn, hns⟩, he, hes⟩
    · rintro ⟨⟨hd, hds⟩, ⟨hn, hns⟩, he, hes⟩
      exact ⟨⟨⟨hd, hn⟩, he⟩, hds, hns, hes⟩

theorem groupIssues_eq_nil_iff {names endpoints : Seen} (hn : names.Admits [])
    (he : endpoints.Admits []) (i : Nat) (gs : List (Group δ)) :
    groupIssues i names endpoints gs = [] ↔
      names.Admits (gs.map (·.name)) ∧
      (∀ g ∈ gs, (∀ d ∈ g.definitions, d.issues = []) ∧
        (Text.visible (g.definitions.map (·.name))).Nodup) ∧
      endpoints.Admits ((gs.flatMap (·.definitions)).map (·.endpoint)) := by
  induction gs generalizing i names endpoints with
  | nil => simp [groupIssues, hn, he]
  | cons g gs ih =>
    have hrest := ih
      (Seen.check_admits_nil hn "group name" g.name ((FieldPath.root.index i).field "name"))
      (definitionIssues_admits_nil he (FieldPath.root.index i) 0 .none g.definitions) (i + 1)
    have hg := definitionIssues_eq_nil_iff (Seen.none_admits_iff.2 List.nodup_nil)
      (FieldPath.root.index i) 0 endpoints g.definitions
      ((gs.flatMap (·.definitions)).map (·.endpoint))
    unfold groupIssues
    dsimp only
    rw [List.append_eq_nil_iff, List.append_eq_nil_iff, hrest, List.forall_mem_cons, List.map_cons,
      List.flatMap_cons, List.map_append,
      Seen.admits_cons "group name" ((FieldPath.root.index i).field "name"),
      ← Seen.none_admits_iff]
    constructor
    · rintro ⟨⟨hname, hown⟩, hns, hgs, hes⟩
      obtain ⟨hds, hdn, hes⟩ := hg.1 ⟨hown, hes⟩
      exact ⟨⟨hname, hns⟩, ⟨⟨hds, hdn⟩, hgs⟩, hes⟩
    · rintro ⟨⟨hname, hns⟩, ⟨⟨hds, hdn⟩, hgs⟩, hes⟩
      obtain ⟨hown, hes⟩ := hg.2 ⟨hds, hdn, hes⟩
      exact ⟨⟨hname, hown⟩, hns, hgs, hes⟩

theorem issues_eq_nil_iff {c : Catalog δ} :
    c.issues = [] ↔
      (Text.visible c.groupNames).Nodup ∧
      (∀ g ∈ c.groups, (∀ d ∈ g.definitions, d.issues = []) ∧
        (Text.visible (g.definitions.map (·.name))).Nodup) ∧
      (Text.visible (c.definitions.map (·.endpoint))).Nodup := by
  have hnone : Seen.none.Admits [] := Seen.none_admits_iff.2 List.nodup_nil
  have h := groupIssues_eq_nil_iff hnone hnone 0 c.groups
  rwa [Seen.none_admits_iff, Seen.none_admits_iff] at h

end Catalog

end ApiGateway
