import ApiGateway.FieldPath
import ApiGateway.Text.Digits

/-!
# The steps of a path

Below a base, a path adds certain characters to the text (`FieldPath.chars`). They tell the path,
and joining appends them, so joining is associative. A path that was walked from the root can be
walked from any other place, and joining it there gives the same path, exactly if its first step
starts as a step from the root must (`FieldPath.join_walk_iff`). The text tells the steps again
(`FieldPath.steps_walk`), as long as the names in it are plain: only the key of an entry of
`mapping`, which is the last step, may have any characters.
-/

set_option autoImplicit false

namespace ApiGateway.FieldPath

/-- What a step adds to a path that is not the root. -/
def Step.chars : Step → List Char
  | .field name => '.' :: name.toList
  | .index i => '[' :: (Digits.ofNat i ++ [']'])

theorem text_ne_empty_iff {p : FieldPath} : p.text ≠ "" ↔ p.text.toList ≠ [] := by
  rw [Ne, Ne, String.toList_eq_nil_iff]

theorem eq_of_toList_eq {p q : FieldPath} (h : p.text.toList = q.text.toList) : p = q := by
  cases p
  cases q
  exact congrArg FieldPath.mk (String.toList_inj.1 h)

theorem eq_root {p : FieldPath} (h : p.text = "") : p = root := by
  cases p
  exact congrArg FieldPath.mk h

theorem toList_index (p : FieldPath) (i : Nat) :
    (p.index i).text.toList = p.text.toList ++ (Step.index i).chars := by
  unfold index Step.chars
  simp only [String.toList_append, Digits.toList_toString]
  simp

theorem toList_step {p : FieldPath} (h : p.text ≠ "") (s : Step) :
    (p.step s).text.toList = p.text.toList ++ s.chars := by
  cases s with
  | index i => exact toList_index p i
  | field name =>
    unfold step field Step.chars
    simp only [if_neg h, String.toList_append]
    simp

theorem step_text_ne {p : FieldPath} (h : p.text ≠ "") (s : Step) : (p.step s).text ≠ "" := by
  rw [text_ne_empty_iff, toList_step h]
  exact List.append_ne_nil_of_left_ne_nil (text_ne_empty_iff.1 h) _

theorem toList_walk {p : FieldPath} (h : p.text ≠ "") (steps : List Step) :
    (p.walk steps).text.toList = p.text.toList ++ steps.flatMap Step.chars := by
  induction steps generalizing p with
  | nil => exact (List.append_nil _).symm
  | cons s steps ih =>
    rw [List.flatMap_cons, ← List.append_assoc, ← toList_step h]
    exact ih (step_text_ne h s)

/-- What a path adds when it is joined to one that is not the root: a name in front gets a point. -/
def chars (p : FieldPath) : List Char :=
  match p.text.toList with
  | [] => []
  | c :: cs => if c = '[' then c :: cs else '.' :: c :: cs

theorem chars_eq {p : FieldPath} {c : Char} {cs : List Char} (h : p.text.toList = c :: cs) :
    p.chars = if c = '[' then c :: cs else '.' :: c :: cs := by
  unfold chars
  rw [h]

theorem chars_of_toList_append {p q : FieldPath} (h : p.text ≠ "") {cs : List Char}
    (hq : q.text.toList = p.text.toList ++ cs) : q.chars = p.chars ++ cs := by
  obtain ⟨c, ds, hp⟩ := List.exists_cons_of_ne_nil (text_ne_empty_iff.1 h)
  rw [hp, List.cons_append] at hq
  rw [chars_eq hp, chars_eq hq]
  split <;> rfl

theorem toList_text (p : FieldPath) :
    p.text.toList = if p.chars.head? = some '.' then p.chars.tail else p.chars := by
  cases hp : p.text.toList with
  | nil =>
    cases eq_root (String.toList_eq_nil_iff.1 hp)
    rfl
  | cons c cs =>
    rw [chars_eq hp]
    by_cases hc : c = '['
    · cases hc
      rfl
    · rw [if_neg hc]
      rfl

theorem chars_injective {p q : FieldPath} (h : p.chars = q.chars) : p = q := by
  apply eq_of_toList_eq
  rw [toList_text p, toList_text q, h]

/-! ## Walking from the root -/

/-- The point before a name is left out at the root, so the name must tell that it is one. -/
def Step.Starts : Step → Prop
  | .field name => ∃ c cs, name.toList = c :: cs ∧ c ≠ '['
  | .index _ => True

theorem chars_walk {p : FieldPath} (h : p.text ≠ "") (steps : List Step) :
    (p.walk steps).chars = p.chars ++ steps.flatMap Step.chars :=
  chars_of_toList_append h (toList_walk h steps)

theorem chars_field {name : String} {c : Char} {cs : List Char} (h : name.toList = c :: cs) :
    (root.field name).chars = if c = '[' then c :: cs else '.' :: c :: cs :=
  chars_eq h

theorem text_field_ne {name : String} (h : name.toList ≠ []) : (root.field name).text ≠ "" :=
  text_ne_empty_iff.2 h

theorem chars_step_root {s : Step} (h : s.Starts) :
    (root.step s).text ≠ "" ∧ (root.step s).chars = s.chars := by
  cases s with
  | index i =>
    have hi : (root.index i).text.toList = (Step.index i).chars := toList_index root i
    exact ⟨text_ne_empty_iff.2 (hi ▸ List.cons_ne_nil _ _), (chars_eq hi).trans (if_pos rfl)⟩
  | field name =>
    obtain ⟨c, cs, hname, hc⟩ := h
    have hchars : (Step.field name).chars = '.' :: c :: cs := congrArg ('.' :: ·) hname
    exact ⟨text_field_ne (hname ▸ List.cons_ne_nil _ _),
      (chars_field hname).trans ((if_neg hc).trans hchars.symm)⟩

theorem chars_walk_root {s : Step} (h : s.Starts) (steps : List Step) :
    (root.walk (s :: steps)).chars = (s :: steps).flatMap Step.chars := by
  obtain ⟨hne, hs⟩ := chars_step_root h
  rw [List.flatMap_cons, ← hs]
  exact chars_walk hne steps

/-- A name that does not tell that it is one loses its point. -/
theorem chars_walk_root_sublist_of_not_starts {name : String} (h : ¬ (Step.field name).Starts)
    {steps : List Step} (hsteps : (root.walk steps).chars.Sublist (steps.flatMap Step.chars)) :
    (root.walk (.field name :: steps)).chars.Sublist
      (name.toList ++ steps.flatMap Step.chars) := by
  cases hname : name.toList with
  | nil =>
    -- the path is still the root, so the next step loses its point as well
    cases String.toList_eq_nil_iff.1 hname
    exact hsteps
  | cons c cs =>
    have hc : c = '[' := Classical.byContradiction fun hc => h ⟨c, cs, hname, hc⟩
    have hwalk := chars_walk (text_field_ne (hname ▸ List.cons_ne_nil _ _)) steps
    rw [chars_field hname, if_pos hc] at hwalk
    exact hwalk ▸ List.Sublist.refl _

/-- All that a walk from the root can lose is points. -/
theorem chars_walk_root_sublist (steps : List Step) :
    (root.walk steps).chars.Sublist (steps.flatMap Step.chars) := by
  induction steps with
  | nil => exact List.Sublist.refl _
  | cons s steps ih =>
    by_cases h : s.Starts
    · exact chars_walk_root h steps ▸ List.Sublist.refl _
    cases s with
    | index i => exact absurd True.intro h
    | field name => exact (chars_walk_root_sublist_of_not_starts h ih).cons '.'

/-- Only the first step decides whether a walk from the root adds all of its steps. -/
theorem chars_walk_root_iff (s : Step) (steps : List Step) :
    (root.walk (s :: steps)).chars = (s :: steps).flatMap Step.chars ↔ s.Starts := by
  refine ⟨fun he => ?_, fun h => chars_walk_root h steps⟩
  cases s with
  | index i => exact True.intro
  | field name =>
    refine Classical.byContradiction fun h => ?_
    have hle := (chars_walk_root_sublist_of_not_starts h (chars_walk_root_sublist steps)).length_le
    rw [he, List.flatMap_cons] at hle
    simp only [Step.chars, List.cons_append, List.length_cons] at hle
    omega

/-! ## Joining -/

theorem root_join (p : FieldPath) : root.join p = p := by
  unfold join root
  split
  · rename_i h
    exact (eq_root h).symm
  · simp

theorem join_root (p : FieldPath) : p.join root = p := rfl

theorem toList_join {p : FieldPath} (h : p.text ≠ "") (q : FieldPath) :
    (p.join q).text.toList = p.text.toList ++ q.chars := by
  unfold join
  cases hq : q.text.toList with
  | nil =>
    cases eq_root (String.toList_eq_nil_iff.1 hq)
    exact (List.append_nil _).symm
  | cons c cs =>
    have hne : q.text ≠ "" := text_ne_empty_iff.2 (hq ▸ List.cons_ne_nil _ _)
    rw [if_neg hne, List.head?_cons, chars_eq hq]
    by_cases hc : c = '['
    · rw [if_pos (Or.inr (congrArg some hc)), if_pos hc, String.toList_append, hq]
    · rw [if_neg fun hor => hor.elim h fun h' => hc (Option.some.inj h'), if_neg hc,
        String.toList_append, String.toList_append, hq]
      simp

theorem chars_join (p q : FieldPath) : (p.join q).chars = p.chars ++ q.chars := by
  by_cases h : p.text = ""
  · cases eq_root h
    exact congrArg chars (root_join q)
  · exact chars_of_toList_append h (toList_join h q)

theorem join_assoc (p q r : FieldPath) : (p.join q).join r = p.join (q.join r) := by
  apply chars_injective
  simp only [chars_join, List.append_assoc]

theorem join_eq_walk_iff {base : FieldPath} (h : base.text ≠ "") (q : FieldPath)
    (steps : List Step) : base.join q = base.walk steps ↔ q.chars = steps.flatMap Step.chars := by
  constructor
  · intro he
    have htext := congrArg (·.text.toList) he
    rw [toList_join h, toList_walk h] at htext
    exact List.append_cancel_left htext
  · intro he
    apply eq_of_toList_eq
    rw [toList_join h, toList_walk h, he]

theorem join_walk_iff (base : FieldPath) (s : Step) (steps : List Step) :
    base.join (root.walk (s :: steps)) = base.walk (s :: steps) ↔ base = root ∨ s.Starts := by
  by_cases h : base.text = ""
  · cases eq_root h
    exact iff_of_true (root_join _) (Or.inl rfl)
  · have hbase : base ≠ root := fun he => h (congrArg text he)
    rw [join_eq_walk_iff h, chars_walk_root_iff, or_iff_right hbase]

/-- A path keeps its steps wherever it is joined. -/
theorem join_walk (base : FieldPath) {s : Step} (h : s.Starts) (steps : List Step) :
    base.join (root.walk (s :: steps)) = base.walk (s :: steps) :=
  (join_walk_iff base s steps).2 (Or.inr h)

/-- Joining is associative, the root is its unit on both sides, and joining what was walked from the
root is walking on, exactly if the base is the root or the first step starts as it must there. -/
theorem join_assoc_and_walks (p q r base : FieldPath) (s : Step) (steps : List Step) :
    (p.join q).join r = p.join (q.join r) ∧ root.join p = p ∧ p.join root = p ∧
      (base.join (root.walk (s :: steps)) = base.walk (s :: steps) ↔ base = root ∨ s.Starts) :=
  ⟨join_assoc p q r, root_join p, join_root p, join_walk_iff base s steps⟩

example : (root.field "a").join (root.walk [.field "", .index 0]) = ⟨"a[0]"⟩ ∧
    (root.field "a").walk [.field "", .index 0] = ⟨"a.[0]"⟩ := by
  decide

/-! ## Reading -/

/-- What a name consists of: a point or a bracket ends it. -/
def isNameChar (c : Char) : Bool := c != '.' && c != '['

/-- The steps that a text adds to a path. What follows `mapping` is a key to its end. -/
def readSteps : List Char → List Step
  | '[' :: cs => .index (Digits.value (Digits.split cs).1) :: readSteps (Digits.split cs).2.tail
  | '.' :: cs =>
    if cs.takeWhile isNameChar = "mapping".toList then
      .field "mapping" ::
        match cs.dropWhile isNameChar with
        | [] => []
        | _ :: key => [.field (String.ofList key)]
    else .field (String.ofList (cs.takeWhile isNameChar)) :: readSteps (cs.dropWhile isNameChar)
  | _ => []
termination_by cs => cs.length
decreasing_by
  · have hle := (List.dropWhile_sublist Char.isDigit (l := cs)).length_le
    simp only [Digits.split, List.length_tail, List.length_cons]
    omega
  · have hle := (List.dropWhile_sublist isNameChar (l := cs)).length_le
    simp only [List.length_cons]
    omega

/-- The steps that lead from the root to a path. -/
def steps (p : FieldPath) : List Step :=
  match p.text.toList with
  | [] => []
  | '[' :: cs => readSteps ('[' :: cs)
  | cs => readSteps ('.' :: cs)

def IsPlain (name : String) : Prop :=
  name ≠ "" ∧ name ≠ "mapping" ∧ name.toList.all isNameChar

instance (name : String) : Decidable (IsPlain name) := inferInstanceAs (Decidable (_ ∧ _ ∧ _))

/-- Steps that the text of a path tells apart. -/
inductive Legible : List Step → Prop where
  | nil : Legible []
  | index (i : Nat) {steps : List Step} (h : Legible steps) : Legible (.index i :: steps)
  | field {name : String} (plain : IsPlain name) {steps : List Step} (h : Legible steps) :
    Legible (.field name :: steps)
  | mapping : Legible [.field "mapping"]
  | entry (key : String) : Legible [.field "mapping", .field key]

theorem IsPlain.starts {name : String} (h : IsPlain name) : (Step.field name).Starts := by
  obtain ⟨hne, -, hchars⟩ := h
  cases hname : name.toList with
  | nil => exact absurd (String.toList_eq_nil_iff.1 hname) hne
  | cons c cs =>
    refine ⟨c, cs, hname, ?_⟩
    rintro rfl
    rw [hname] at hchars
    exact absurd (List.all_eq_true.1 hchars '[' List.mem_cons_self) (by decide)

theorem Legible.starts {s : Step} {steps : List Step} (h : Legible (s :: steps)) : s.Starts := by
  cases h with
  | index i h => exact True.intro
  | field plain h => exact plain.starts
  | mapping => exact ⟨_, _, rfl, by decide⟩
  | entry key => exact ⟨_, _, rfl, by decide⟩

theorem readSteps_index (i : Nat) (cs : List Char) :
    readSteps ((Step.index i).chars ++ cs) = .index i :: readSteps cs := by
  have hsplit : Digits.split (Digits.ofNat i ++ ']' :: cs) = (Digits.ofNat i, ']' :: cs) :=
    Digits.split_append (fun _ => Digits.isDigit_of_mem_ofNat) (by simp)
  have hchars : (Step.index i).chars ++ cs = '[' :: (Digits.ofNat i ++ ']' :: cs) := by
    simp [Step.chars]
  rw [hchars, readSteps, hsplit, Digits.value_ofNat, List.tail_cons]

/-- What follows a name does not go on with it. -/
theorem span_name {name cs : List Char} (hn : name.all isNameChar)
    (hc : ∀ c, cs.head? = some c → isNameChar c = false) :
    (name ++ cs).takeWhile isNameChar = name ∧ (name ++ cs).dropWhile isNameChar = cs := by
  rw [List.all_eq_true] at hn
  rw [List.takeWhile_append_of_pos hn, List.dropWhile_append_of_pos hn]
  cases cs with
  | nil => simp
  | cons c cs => simp [hc c rfl]

theorem isNameChar_head_chars {steps : List Step} :
    ∀ c, (steps.flatMap Step.chars).head? = some c → isNameChar c = false := by
  intro c h
  cases steps with
  | nil => cases h
  | cons s steps => cases s <;> cases h <;> decide

theorem readSteps_field {name : String} (h : IsPlain name) {cs : List Char}
    (hc : ∀ c, cs.head? = some c → isNameChar c = false) :
    readSteps ((Step.field name).chars ++ cs) = .field name :: readSteps cs := by
  obtain ⟨htake, hdrop⟩ := span_name h.2.2 hc
  have hname : name.toList ≠ "mapping".toList := fun he => h.2.1 (String.toList_inj.1 he)
  unfold Step.chars
  rw [List.cons_append, readSteps, htake, hdrop, if_neg hname, String.ofList_toList]

theorem readSteps_mapping (cs : List Char) (hc : ∀ c, cs.head? = some c → isNameChar c = false) :
    readSteps ((Step.field "mapping").chars ++ cs) = .field "mapping" ::
      match cs with
      | [] => []
      | _ :: key => [.field (String.ofList key)] := by
  have hplain : "mapping".toList.all isNameChar := by decide +kernel
  obtain ⟨htake, hdrop⟩ := span_name hplain hc
  unfold Step.chars
  rw [List.cons_append, readSteps, htake, hdrop, if_pos rfl]

theorem readSteps_chars {steps : List Step} (h : Legible steps) :
    readSteps (steps.flatMap Step.chars) = steps := by
  induction h with
  | nil => unfold List.flatMap readSteps; rfl
  | index i h ih =>
    rw [List.flatMap_cons, readSteps_index, ih]
  | field plain h ih =>
    rw [List.flatMap_cons, readSteps_field plain isNameChar_head_chars, ih]
  | mapping =>
    rw [List.flatMap_cons, readSteps_mapping _ isNameChar_head_chars]
    rfl
  | entry key =>
    rw [List.flatMap_cons, readSteps_mapping _ isNameChar_head_chars]
    simp [Step.chars]

theorem steps_eq (p : FieldPath) : p.steps = readSteps p.chars := by
  unfold steps chars
  split
  · rename_i h
    rw [h]
    exact (readSteps_chars .nil).symm
  · rename_i cs h
    rw [h]
    rfl
  · rename_i cs hnil hindex
    cases hp : p.text.toList with
    | nil => exact absurd hp hnil
    | cons c cs =>
      have hc : c ≠ '[' := fun hc => hindex cs (hc ▸ hp)
      exact congrArg readSteps (if_neg hc).symm

/-- The text of a path from the root tells its steps. -/
theorem steps_walk {steps : List Step} (h : Legible steps) : (root.walk steps).steps = steps := by
  cases steps with
  | nil => rfl
  | cons s rest =>
    rw [steps_eq, chars_walk_root h.starts, readSteps_chars h]

end ApiGateway.FieldPath
