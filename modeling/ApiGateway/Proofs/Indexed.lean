import ApiGateway.Indexed
import Mathlib.Data.List.Forall2

/-!
# Steps that may fail

When a sequence of steps gives a result, and when a pass over a list does.
-/

set_option autoImplicit false

namespace ApiGateway

namespace Except

variable {α β ε : Type}

theorem ok_bind (a : α) (f : α → Except ε β) : (Except.ok a >>= f) = f a := rfl

theorem bind_eq_ok_iff {x : Except ε α} {f : α → Except ε β} {b : β} :
    (x >>= f) = .ok b ↔ ∃ a, x = .ok a ∧ f a = .ok b := by
  cases x with
  | error e =>
    constructor
    · intro h
      cases h
    · rintro ⟨a, h, -⟩
      cases h
  | ok a =>
    constructor
    · exact fun h => ⟨a, rfl, h⟩
    · rintro ⟨a', h, h'⟩
      cases h
      exact h'

theorem bind_eq_error_iff {x : Except ε α} {f : α → Except ε β} {e : ε} :
    (x >>= f) = .error e ↔ x = .error e ∨ ∃ a, x = .ok a ∧ f a = .error e := by
  cases x with
  | error e' =>
    constructor
    · intro h
      cases h
      exact Or.inl rfl
    · rintro (h | ⟨a, h, -⟩)
      · cases h
        rfl
      · cases h
  | ok a =>
    constructor
    · exact fun h => Or.inr ⟨a, rfl, h⟩
    · rintro (h | ⟨a', h, h'⟩)
      · cases h
      · cases h
        exact h'

theorem mapError_eq_ok_iff {ε' : Type} {f : ε → ε'} {x : Except ε α} {a : α} :
    x.mapError f = .ok a ↔ x = .ok a := by
  cases x with
  | error e => constructor <;> intro h <;> cases h
  | ok b => constructor <;> intro h <;> cases h <;> rfl

theorem map_eq_ok_iff {f : α → β} {x : Except ε α} {b : β} :
    x.map f = .ok b ↔ ∃ a, x = .ok a ∧ f a = b := by
  cases x with
  | error e =>
    constructor
    · intro h
      cases h
    · rintro ⟨a, h, -⟩
      cases h
  | ok a => simp [Except.map]

theorem map_eq_error_iff {f : α → β} {x : Except ε α} {e : ε} :
    x.map f = .error e ↔ x = .error e := by
  cases x <;> simp [Except.map]

theorem mapError_eq_error_iff {ε' : Type} {f : ε → ε'} {x : Except ε α} {e : ε'} :
    x.mapError f = .error e ↔ ∃ e', x = .error e' ∧ f e' = e := by
  cases x <;> simp [Except.mapError]

/-- The error of a step that fails. -/
def failure? : Except ε α → Option ε
  | .ok _ => none
  | .error e => some e

theorem failure?_eq_some_iff {x : Except ε α} {e : ε} : failure? x = some e ↔ x = .error e := by
  cases x <;> simp [failure?]

theorem failure?_eq_none_iff {x : Except ε α} : failure? x = none ↔ ∃ a, x = .ok a := by
  cases x <;> simp [failure?]

theorem failure?_mapError {ε' : Type} (f : ε → ε') (x : Except ε α) :
    failure? (x.mapError f) = (failure? x).map f := by
  cases x <;> rfl

theorem failure?_bind_ok (f : α → β) (x : Except ε α) :
    failure? (x >>= fun a => .ok (f a)) = failure? x := by
  cases x <;> rfl

/-- The first of two steps to fail, where the second fails in the same way whatever it is given. -/
theorem failure?_bind {x : Except ε α} {f : α → Except ε β} {y : Option ε}
    (h : ∀ a, failure? (f a) = y) : failure? (x >>= f) = (failure? x).or y := by
  cases x with
  | error e => rfl
  | ok a => exact h a

end Except

namespace Indexed

variable {α β γ δ ε ε' : Type}

/-- A pass over a list gives a list where each of its items gives one, in two steps: the first gives
a list of its own, and the second is compared through `p` and `q`. -/
theorem traverse_eq_ok_iff_exists {f : Nat → α → Except ε β} {g : Nat → α → Except ε' γ}
    {p : γ → δ} {q : β → δ} (h : ∀ i a b, f i a = .ok b ↔ ∃ c, g i a = .ok c ∧ p c = q b)
    (as : List α) (bs : List β) :
    traverse f as = .ok bs ↔ ∃ cs, traverse g as = .ok cs ∧ cs.map p = bs.map q := by
  suffices ht : ∀ i bs, traverseFrom f i as = .ok bs ↔
      ∃ cs, traverseFrom g i as = .ok cs ∧ cs.map p = bs.map q from ht 0 bs
  induction as with
  | nil =>
    intro i bs
    constructor
    · intro hb
      cases hb
      exact ⟨[], rfl, rfl⟩
    · rintro ⟨cs, hc, hm⟩
      cases hc
      rw [List.map_eq_nil_iff.1 hm.symm]
      rfl
  | cons a as ih =>
    intro i bs
    unfold traverseFrom
    simp only [Except.bind_eq_ok_iff, ih]
    constructor
    · rintro ⟨b, hb, bs, ⟨cs, hcs, hm⟩, e⟩
      cases e
      obtain ⟨c, hc, hp⟩ := (h i a b).1 hb
      refine ⟨c :: cs, ⟨c, hc, cs, hcs, rfl⟩, ?_⟩
      rw [List.map_cons, List.map_cons, hp, hm]
    · rintro ⟨cs, ⟨c, hc, cs, hcs, e⟩, hm⟩
      cases e
      obtain ⟨b, bs, rfl, hp, hms⟩ := List.map_eq_cons_iff.1 hm.symm
      exact ⟨b, (h i a b).2 ⟨c, hc, hp.symm⟩, bs, ⟨cs, hcs, hms.symm⟩, rfl⟩

theorem traverse_map_eq {f : Nat → β → Except ε γ} {f' : Nat → α → Except ε γ} {g : α → β}
    {as : List α} (h : ∀ i, ∀ a ∈ as, f i (g a) = f' i a) :
    traverse f (as.map g) = traverse f' as := by
  suffices ht : ∀ i, traverseFrom f i (as.map g) = traverseFrom f' i as from ht 0
  induction as with
  | nil => exact fun _ => rfl
  | cons a as ih =>
    intro i
    have hrest := ih fun i b hb => h i b (List.mem_cons_of_mem a hb)
    rw [List.map_cons, traverseFrom, traverseFrom, h i a List.mem_cons_self, hrest]

theorem traverse_ok (as : List α) : traverse (ε := ε) (fun _ a => .ok a) as = .ok as := by
  suffices ht : ∀ i, traverseFrom (ε := ε) (fun _ a => .ok a) i as = .ok as from ht 0
  induction as with
  | nil => exact fun _ => rfl
  | cons a as ih =>
    intro i
    unfold traverseFrom
    rw [ih (i + 1)]
    rfl

theorem traverse_eq_ok_iff {f : Nat → α → Except ε β} {p : α → γ} {q : β → γ}
    (h : ∀ i a b, f i a = .ok b ↔ p a = q b) (as : List α) (bs : List β) :
    traverse f as = .ok bs ↔ as.map p = bs.map q := by
  rw [traverse_eq_ok_iff_exists (g := fun _ a => Except.ok (ε := ε) a) (p := p) (q := q)]
  · simp only [traverse_ok, Except.ok.injEq, exists_eq_left']
  · simp only [h, Except.ok.injEq, exists_eq_left', implies_true]

theorem failure?_traverse (f : Nat → α → Except ε β) (as : List α) :
    Except.failure? (traverse f as) =
      as.zipIdx.findSome? fun p => Except.failure? (f p.2 p.1) := by
  suffices ht : ∀ i, Except.failure? (traverseFrom f i as) =
      (as.zipIdx i).findSome? fun p => Except.failure? (f p.2 p.1) from ht 0
  induction as with
  | nil => exact fun _ => rfl
  | cons a as ih =>
    intro i
    have hrest (b : β) : Except.failure? (traverseFrom f (i + 1) as >>= fun bs => .ok (b :: bs)) =
        (as.zipIdx (i + 1)).findSome? fun p => Except.failure? (f p.2 p.1) := by
      rw [Except.failure?_bind_ok, ih]
    unfold traverseFrom
    rw [Except.failure?_bind hrest, List.zipIdx_cons, List.findSome?_cons]
    cases Except.failure? (f i a) <;> rfl

/-! ### Steps that do not know their position -/

/-- A pass that tells the failure of a step from its position. -/
def each (w : Nat → ε' → ε) (g : α → Except ε' β) (as : List α) : Except ε (List β) :=
  traverse (fun i a => (g a).mapError (w i)) as

variable {w : Nat → ε' → ε} {g : α → Except ε' β} {as : List α}

theorem each_eq_ok_iff {bs : List β} :
    each w g as = .ok bs ↔ List.Forall₂ (fun a b => g a = .ok b) as bs := by
  suffices ht : ∀ i bs, traverseFrom (fun i a => (g a).mapError (w i)) i as = .ok bs ↔
      List.Forall₂ (fun a b => g a = .ok b) as bs from ht 0 bs
  induction as with
  | nil =>
    intro i bs
    rw [List.forall₂_nil_left_iff]
    unfold traverseFrom
    rw [Except.ok.injEq, eq_comm]
  | cons a as ih =>
    intro i bs
    rw [List.forall₂_cons_left_iff]
    unfold traverseFrom
    simp only [Except.bind_eq_ok_iff, Except.mapError_eq_ok_iff, ih]
    constructor
    · rintro ⟨b, hb, bs, hbs, h⟩
      cases h
      exact ⟨b, bs, hb, hbs, rfl⟩
    · rintro ⟨b, bs, hb, hbs, rfl⟩
      exact ⟨b, hb, bs, hbs, rfl⟩

theorem forall_mem_zipIdx_iff {p : α → Prop} {i : Nat} :
    (∀ x ∈ as.zipIdx i, p x.1) ↔ ∀ a ∈ as, p a := by
  rw [← List.forall_mem_map, List.zipIdx_map_fst]

theorem flatMap_zipIdx_congr {f g : α × Nat → List β}
    (h : ∀ a ∈ as, ∀ i, f (a, i) = g (a, i)) : as.zipIdx.flatMap f = as.zipIdx.flatMap g := by
  apply List.flatMap_congr
  intro x hx
  exact h x.1 (List.fst_mem_of_mem_zipIdx hx) x.2

/-- A pass fails with the first failure, told from its position. -/
theorem each_eq_error_iff {e : ε} :
    each w g as = .error e ↔
      ∃ before a after e', as = before ++ a :: after ∧ (∀ x ∈ before, ∃ b, g x = .ok b) ∧
        g a = .error e' ∧ e = w before.length e' := by
  unfold each
  rw [← Except.failure?_eq_some_iff, failure?_traverse, List.findSome?_eq_some_iff]
  simp only [Except.failure?_mapError, Option.map_eq_some_iff, Option.map_eq_none_iff,
    Except.failure?_eq_some_iff, Except.failure?_eq_none_iff]
  constructor
  · rintro ⟨l, ⟨a, i⟩, r, h, ⟨e', he', rfl⟩, hl⟩
    obtain ⟨before, rest, rfl, rfl, hrest⟩ := List.zipIdx_eq_append_iff.1 h
    obtain ⟨a, after, rfl, ha, rfl⟩ := List.zipIdx_eq_cons_iff.1 hrest.symm
    cases ha
    refine ⟨before, a, after, e', rfl, forall_mem_zipIdx_iff.1 hl, he', ?_⟩
    rw [Nat.zero_add]
  · rintro ⟨before, a, after, e', rfl, hb, ha, rfl⟩
    refine ⟨before.zipIdx, (a, before.length), after.zipIdx (before.length + 1), ?_,
      ⟨e', ha, rfl⟩, ?_⟩
    · rw [List.zipIdx_append, List.zipIdx_cons, Nat.zero_add]
    · exact forall_mem_zipIdx_iff.2 hb

theorem exists_forall₂_iff {R : α → β → Prop} :
    (∃ bs, List.Forall₂ R as bs) ↔ ∀ a ∈ as, ∃ b, R a b := by
  induction as with
  | nil => exact ⟨fun _ => List.forall_mem_nil _, fun _ => ⟨[], .nil⟩⟩
  | cons a as ih =>
    rw [List.forall_mem_cons, ← ih]
    constructor
    · rintro ⟨_, h⟩
      cases h with
      | cons h hs => exact ⟨⟨_, h⟩, _, hs⟩
    · rintro ⟨⟨b, h⟩, bs, hs⟩
      exact ⟨b :: bs, .cons h hs⟩

theorem map_eq_map_iff {f : α → γ} {h : β → γ} {bs : List β} :
    as.map f = bs.map h ↔ List.Forall₂ (fun a b => f a = h b) as bs := by
  rw [← List.forall₂_eq_eq_eq, List.forall₂_map_left_iff, List.forall₂_map_right_iff]

theorem exists_of_mem_forall₂ {R : α → β → Prop} {bs : List β} (h : List.Forall₂ R as bs) {b : β}
    (hb : b ∈ bs) : ∃ a ∈ as, R a b := by
  induction h with
  | nil => cases hb
  | cons r _ ih =>
    rcases List.mem_cons.1 hb with rfl | hb
    · exact ⟨_, List.mem_cons_self, r⟩
    · obtain ⟨a, ha, hr⟩ := ih hb
      exact ⟨a, List.mem_cons_of_mem _ ha, hr⟩

theorem exists_each_iff : (∃ bs, each w g as = .ok bs) ↔ ∀ a ∈ as, ∃ b, g a = .ok b := by
  simp only [each_eq_ok_iff]
  exact exists_forall₂_iff

/-- A step works for every item, or there is a first one for which it fails. -/
theorem forall_ok_or_exists_first (g : α → Except ε β) (as : List α) :
    (∀ a ∈ as, ∃ b, g a = .ok b) ∨
      ∃ before a after e, as = before ++ a :: after ∧ (∀ x ∈ before, ∃ b, g x = .ok b) ∧
        g a = .error e := by
  cases h : each (fun _ e => e) g as with
  | ok bs => exact .inl (exists_each_iff.1 ⟨bs, h⟩)
  | error e =>
    obtain ⟨before, a, after, e', hsplit, hbefore, ha, -⟩ := each_eq_error_iff.1 h
    exact .inr ⟨before, a, after, e', hsplit, hbefore, ha⟩

theorem exists_forall₂_and_forall₂_iff {R : α → β → Prop} {S : β → γ → Prop} {cs : List γ} :
    (∃ bs, List.Forall₂ R as bs ∧ List.Forall₂ S bs cs) ↔
      List.Forall₂ (fun a c => ∃ b, R a b ∧ S b c) as cs := by
  constructor
  · rintro ⟨bs, hr, hs⟩
    induction hr generalizing cs with
    | nil =>
      cases hs
      exact .nil
    | cons r _ ih =>
      cases hs with
      | cons s hs => exact .cons ⟨_, r, s⟩ (ih hs)
  · intro h
    induction h with
    | nil => exact ⟨[], .nil, .nil⟩
    | cons h _ ih =>
      obtain ⟨b, r, s⟩ := h
      obtain ⟨bs, hr, hs⟩ := ih
      exact ⟨b :: bs, .cons r hr, .cons s hs⟩

section

variable {h : β → Except ε' γ}

/-- Two passes, one after the other, give what the two steps give item by item. -/
theorem each_bind_each_eq_ok_iff {cs : List γ} :
    (each w g as >>= each w h) = .ok cs ↔ each w (fun a => g a >>= h) as = .ok cs := by
  simp only [Except.bind_eq_ok_iff, each_eq_ok_iff]
  exact exists_forall₂_and_forall₂_iff

/-- A failure in the second pass is reported only if the first pass has none. -/
theorem each_bind_each_eq_error {before after : List α} {a : α} {b : β} {e : ε'}
    (hbefore : ∀ x ∈ before, ∃ c, (g x >>= h) = .ok c) (ha : g a = .ok b) (hb : h b = .error e)
    (hafter : ∀ x ∈ after, ∃ b, g x = .ok b) :
    (each w g (before ++ a :: after) >>= each w h) = .error (w before.length e) := by
  obtain ⟨cs, hcs⟩ := (exists_each_iff (w := w)).2 hbefore
  obtain ⟨bs, hbs, hcs⟩ := Except.bind_eq_ok_iff.1 (each_bind_each_eq_ok_iff.2 hcs)
  obtain ⟨rest, hrest⟩ := (exists_each_iff (w := w)).2 hafter
  have hbs' := each_eq_ok_iff.1 hbs
  have hfirst : each w g (before ++ a :: after) = .ok (bs ++ b :: rest) :=
    each_eq_ok_iff.2 (List.rel_append hbs' (.cons ha (each_eq_ok_iff.1 hrest)))
  rw [hfirst, Except.ok_bind, hbs'.length_eq, each_eq_error_iff]
  exact ⟨bs, b, rest, e, rfl, exists_each_iff.1 ⟨cs, hcs⟩, hb, rfl⟩

end

end Indexed

end ApiGateway
