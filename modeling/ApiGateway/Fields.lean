/-!
# Fields sorted by key

Pairs in ascending order of their keys, by code point, each key once. The main statements say what
a look-up finds after a change (`get?_set`, `get?_ofList`) and that sorting sorts
(`isSorted_ofList`).
-/

set_option autoImplicit false

namespace ApiGateway

abbrev Fields (α : Type) := List (String × α)

namespace Fields

variable {α : Type}

def get? (fields : Fields α) (key : String) : Option α := List.lookup key fields

/-- Sets a key at its place; a value that was there is replaced. -/
def set (key : String) (value : α) : Fields α → Fields α
  | [] => [(key, value)]
  | (k, v) :: rest =>
    if key < k then (key, value) :: (k, v) :: rest
    else if key = k then (key, value) :: rest
    else (k, v) :: set key value rest

/-- Sorts pairs by key; of equal keys the last counts. -/
def ofList (pairs : List (String × α)) : Fields α :=
  pairs.foldl (fun fields p => set p.1 p.2 fields) []

/-- The keys strictly ascend. -/
def IsSorted (fields : Fields α) : Prop := (fields.map Prod.fst).Pairwise (· < ·)

instance (fields : Fields α) : Decidable (IsSorted fields) :=
  inferInstanceAs (Decidable (List.Pairwise _ _))

theorem get?_cons (k key : String) (value : α) (fields : Fields α) :
    get? ((key, value) :: fields) k = if k = key then some value else get? fields k := by
  unfold get?
  rw [List.lookup_cons]
  by_cases h : k = key
  · simp [h]
  · rw [beq_false_of_ne h, if_neg h]

theorem mem_of_get? {fields : Fields α} {key : String} {value : α}
    (h : get? fields key = some value) : (key, value) ∈ fields := by
  induction fields with
  | nil => cases h
  | cons p rest ih =>
    obtain ⟨k, v⟩ := p
    rw [get?_cons] at h
    split at h
    · cases h
      subst_vars
      exact List.mem_cons_self
    · exact List.mem_cons_of_mem _ (ih h)

theorem get?_of_mem {fields : Fields α} {key : String} {value : α}
    (hn : (fields.map Prod.fst).Nodup) (hm : (key, value) ∈ fields) :
    get? fields key = some value := by
  induction fields with
  | nil => cases hm
  | cons p rest ih =>
    obtain ⟨k, v⟩ := p
    rw [List.map_cons, List.nodup_cons] at hn
    rw [get?_cons]
    rcases List.mem_cons.1 hm with he | hrest
    · cases he
      exact if_pos rfl
    · rw [if_neg]
      · exact ih hn.2 hrest
      · rintro rfl
        exact hn.1 (List.mem_map.2 ⟨_, hrest, rfl⟩)

theorem get?_filterMap {β : Type} (f : String → α → Option β) {fields : Fields α}
    (h : (fields.map Prod.fst).Nodup) (key : String) :
    get? (fields.filterMap fun p => (f p.1 p.2).map fun b => (p.1, b)) key =
      (get? fields key).bind (f key) := by
  induction fields with
  | nil => rfl
  | cons p rest ih =>
    obtain ⟨k, a⟩ := p
    rw [List.map_cons, List.nodup_cons] at h
    have hrest := ih h.2
    rw [List.filterMap_cons, get?_cons]
    by_cases hk : key = k
    · subst hk
      rw [if_pos rfl]
      cases hf : f key a with
      | none =>
        have hnone : get? rest key = none := by
          rw [Option.eq_none_iff_forall_ne_some]
          intro b hb
          exact h.1 (List.mem_map.2 ⟨_, mem_of_get? hb, rfl⟩)
        rw [hnone] at hrest
        simpa [hf] using hrest
      | some b => simp [hf, get?_cons]
    · rw [if_neg hk]
      cases hf : f k a with
      | none => simpa [hf] using hrest
      | some b => simpa [hf, get?_cons, hk] using hrest

theorem IsSorted.nodup {fields : Fields α} (h : IsSorted fields) :
    (fields.map Prod.fst).Nodup := by
  refine List.Pairwise.imp ?_ h
  rintro a _ hlt rfl
  exact String.lt_irrefl a hlt

/-- Setting a key changes what this key has and nothing else. -/
theorem get?_set (k key : String) (value : α) (fields : Fields α) :
    get? (set key value fields) k = if k = key then some value else get? fields k := by
  induction fields with
  | nil => exact get?_cons k key value []
  | cons p rest ih =>
    obtain ⟨k', v⟩ := p
    simp only [set]
    split
    · exact get?_cons ..
    · split
      · subst_vars; simp only [get?_cons]; split <;> rfl
      · simp only [get?_cons, ih]; grind

theorem mem_keys_set {x key : String} {value : α} {fields : Fields α} :
    x ∈ (set key value fields).map Prod.fst → x = key ∨ x ∈ fields.map Prod.fst := by
  induction fields with
  | nil => simp [set]
  | cons p rest ih =>
    simp only [set]
    split
    · simp
    · split <;> grind

theorem isSorted_set (key : String) (value : α) {fields : Fields α} (h : IsSorted fields) :
    IsSorted (set key value fields) := by
  induction fields with
  | nil => simp [set, IsSorted]
  | cons p rest ih =>
    simp only [IsSorted, List.map_cons, List.pairwise_cons] at h ih
    simp only [set]
    split
    · simp only [IsSorted, List.map_cons, List.pairwise_cons]
      grind
    · split
      · simp only [IsSorted, List.map_cons, List.pairwise_cons]
        grind
      · simp only [IsSorted, List.map_cons, List.pairwise_cons]
        refine ⟨fun x hx => ?_, ih h.2⟩
        rcases mem_keys_set hx with rfl | hx
        · grind
        · exact h.1 x hx

theorem isSorted_ofList (pairs : List (String × α)) : IsSorted (ofList pairs) := by
  suffices h : ∀ fields : Fields α, IsSorted fields →
      IsSorted (pairs.foldl (fun fields p => set p.1 p.2 fields) fields) from
    h [] List.Pairwise.nil
  induction pairs with
  | nil => exact fun _ h => h
  | cons p rest ih => exact fun fields h => ih _ (isSorted_set p.1 p.2 h)

/-- Of equal keys the last counts. -/
theorem get?_ofList (pairs : List (String × α)) (k : String) :
    get? (ofList pairs) k = get? pairs.reverse k := by
  suffices h : ∀ fields : Fields α,
      get? (pairs.foldl (fun fields p => set p.1 p.2 fields) fields) k =
        get? (pairs.reverse ++ fields) k by
    have := h []
    rwa [List.append_nil] at this
  induction pairs with
  | nil => exact fun _ => rfl
  | cons p rest ih =>
    intro fields
    rw [List.foldl_cons, ih, List.reverse_cons, List.append_assoc]
    unfold get?
    rw [List.lookup_append, List.lookup_append]
    congr 1
    exact (get?_set k p.1 p.2 fields).trans (get?_cons k p.1 p.2 fields).symm

end Fields

end ApiGateway
