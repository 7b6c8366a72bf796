import ApiGateway.Proofs.Catalog.Invariant

/-!
# What look-ups show

A look-up goes for the first match, and names and endpoints are unique, so it shows an entry exactly
if the entry is stored and has the key in some casing. No run of edits makes an entry that another
one hides (`Catalog.showsStored_run`).
-/

set_option autoImplicit false

namespace ApiGateway

variable {δ : Type}

/-- With unique keys the first match is the only one. -/
theorem Text.find?_same_eq_some_iff {α : Type} {xs : List α} {key : α → String}
    (unique : (xs.map fun x => fold (key x)).Nodup) {s : String} {x : α} :
    xs.find? (fun y => same (key y) s) = some x ↔ x ∈ xs ∧ Recased (key x) s := by
  rw [recased_iff]
  constructor
  · intro h
    exact ⟨List.mem_of_find?_eq_some h, List.find?_some (p := fun y => same (key y) s) h⟩
  · rintro ⟨hx, hs⟩
    have found : (xs.find? fun y => same (key y) s).isSome := by
      rw [List.find?_isSome]
      exact ⟨x, hx, hs⟩
    obtain ⟨y, hy⟩ := Option.isSome_iff_exists.1 found
    have hsame : same (key y) s := List.find?_some (p := fun y => same (key y) s) hy
    have hfold : fold (key y) = fold (key x) := (same_iff.1 hsame).trans (same_iff.1 hs).symm
    rw [hy, List.inj_on_of_nodup_map unique (List.mem_of_find?_eq_some hy) hx hfold]

namespace Catalog

/-- Look-ups show every stored entry under its key in any casing, and nothing else. Entries differ
from each other, so what is shown is the entry itself and not a copy. -/
structure ShowsStored (c : Catalog δ) : Prop where
  once : c.groups.Nodup ∧ c.definitions.Nodup
  group (name : String) (g : Group δ) :
    c.group? name = some g ↔ g ∈ c.groups ∧ Text.Recased g.name name
  byName (group name : String) (d : Definition δ) :
    c.findByName? group name = some d ↔
      ∃ g ∈ c.groups, Text.Recased g.name group ∧ d ∈ g.definitions ∧ Text.Recased d.name name
  byEndpoint (endpoint : String) (g : Group δ) (d : Definition δ) :
    c.findByEndpoint? endpoint = some (g, d) ↔
      g ∈ c.groups ∧ d ∈ g.definitions ∧ Text.Recased d.endpoint endpoint

/-- Every definition with the group that holds it. -/
def held (c : Catalog δ) : List (Group δ × Definition δ) :=
  c.groups.flatMap fun g => g.definitions.map fun d => (g, d)

theorem mem_held {c : Catalog δ} {g : Group δ} {d : Definition δ} :
    (g, d) ∈ c.held ↔ g ∈ c.groups ∧ d ∈ g.definitions := by
  simp [held]

theorem map_snd_held (c : Catalog δ) : c.held.map Prod.snd = c.definitions := by
  simp [held, definitions, List.map_flatMap, Function.comp_def]

theorem findByEndpoint?_eq_find? (c : Catalog δ) (endpoint : String) :
    c.findByEndpoint? endpoint = c.held.find? fun p => Text.same p.2.endpoint endpoint := by
  unfold findByEndpoint? held
  simp only [List.find?_flatMap, List.find?_map, Function.comp_def]

theorem Invariant.showsStored {c : Catalog δ} (h : c.Invariant) : c.ShowsStored := by
  have names : (c.groups.map fun g => Text.fold g.name).Nodup := by
    have hn := h.groupNames
    unfold Catalog.groupNames at hn
    rwa [List.map_map] at hn
  have endpoints : (c.held.map fun p => Text.fold p.2.endpoint).Nodup := by
    have he := h.endpoints
    rwa [← map_snd_held, List.map_map] at he
  have group (name : String) (g : Group δ) := Text.find?_same_eq_some_iff names (s := name) (x := g)
  constructor
  case once => exact ⟨names.of_map _, h.endpoints.of_map _⟩
  case group => exact group
  case byName =>
    intro name n d
    show (c.group? name).bind (fun g => g.definitions.find? fun d => Text.same d.name n) = _ ↔ _
    rw [Option.bind_eq_some_iff]
    constructor
    · rintro ⟨g, hg, hd⟩
      obtain ⟨hg, hname⟩ := (group name g).1 hg
      exact ⟨g, hg, hname, (Text.find?_same_eq_some_iff (h.names g hg)).1 hd⟩
    · rintro ⟨g, hg, hname, hd⟩
      exact ⟨g, (group name g).2 ⟨hg, hname⟩, (Text.find?_same_eq_some_iff (h.names g hg)).2 hd⟩
  case byEndpoint =>
    intro endpoint g d
    rw [findByEndpoint?_eq_find?, Text.find?_same_eq_some_iff endpoints, mem_held, and_assoc]

theorem showsStored_run (es : List (Edit δ)) : ((empty : Catalog δ).run es).ShowsStored :=
  (invariant_empty.run es).showsStored

end Catalog

end ApiGateway
