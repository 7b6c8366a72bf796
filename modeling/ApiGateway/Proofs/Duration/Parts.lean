import ApiGateway.Duration.Conversion

/-!
# Phrases, part by part

A part is a run of digits, perhaps a point and another run, and the name of a unit; blanks may
stand anywhere among the digits. The reader takes a whole part and adds it to the sum
(`Phrase.readFrom_starts`), and a text that it does not refuse is blank or starts with a part
(`Phrase.exists_starts`).
-/

set_option autoImplicit false

namespace ApiGateway

/-! ## Characters -/

theorem toNat_of_isDigit {c : Char} (h : c.isDigit) : 48 ≤ c.toNat ∧ c.toNat ≤ 57 :=
  Char.isDigit_iff_toNat.1 h

theorem toNat_of_isUnitLetter {c : Char} (h : Phrase.isUnitLetter c) :
    (65 ≤ c.toNat ∧ c.toNat ≤ 90) ∨ (97 ≤ c.toNat ∧ c.toNat ≤ 122) ∨ c.toNat = 181 := by
  unfold Phrase.isUnitLetter Char.isAlpha Char.isUpper Char.isLower at h
  simp only [Bool.or_eq_true, Bool.and_eq_true, decide_eq_true_eq, ge_iff_le,
    UInt32.le_iff_toNat_le, beq_iff_eq] at h
  rcases h with (⟨h1, h2⟩ | ⟨h1, h2⟩) | h
  · exact Or.inl ⟨h1, h2⟩
  · exact Or.inr (Or.inl ⟨h1, h2⟩)
  · subst h
    exact Or.inr (Or.inr rfl)

theorem Text.isBlank_of_isDigit {c : Char} (h : c.isDigit) : isBlank c = false := by
  have := toNat_of_isDigit h
  apply isBlank_eq_false <;> omega

theorem Text.isBlank_of_isUnitLetter {c : Char} (h : Phrase.isUnitLetter c) :
    isBlank c = false := by
  have := toNat_of_isUnitLetter h
  apply isBlank_eq_false <;> omega

theorem isDigit_of_isUnitLetter {c : Char} (h : Phrase.isUnitLetter c) : c.isDigit = false := by
  have hn := toNat_of_isUnitLetter h
  apply Bool.eq_false_iff.2
  intro hd
  have := toNat_of_isDigit hd
  omega

theorem isDigit_of_isBlank {c : Char} (h : Text.isBlank c) : c.isDigit = false := by
  apply Bool.eq_false_iff.2
  intro hd
  rw [Text.isBlank_of_isDigit hd] at h
  cases h

theorem isUnitLetter_of_isDigit {c : Char} (h : c.isDigit) : Phrase.isUnitLetter c = false := by
  apply Bool.eq_false_iff.2
  intro hl
  rw [isDigit_of_isUnitLetter hl] at h
  cases h

theorem isUnitLetter_of_isBlank {c : Char} (h : Text.isBlank c) :
    Phrase.isUnitLetter c = false := by
  apply Bool.eq_false_iff.2
  intro hl
  rw [Text.isBlank_of_isUnitLetter hl] at h
  cases h

namespace Phrase

/-! ## Parts -/

/-- Digits, with blanks anywhere. -/
def IsRun (cs : List Char) : Prop := ∀ c ∈ cs, c.isDigit ∨ Text.isBlank c

def digits (cs : List Char) : List Char := cs.filter Char.isDigit

def fractionOf (cs : List Char) : Fraction := ⟨Digits.value (digits cs), (digits cs).length⟩

/-- A part as it is written. -/
structure Part where
  whole : List Char
  fraction : Option (List Char)
  name : List Char

/-- What may follow a part: nothing, or something that starts with a digit or a blank. -/
def Ends (rest : List Char) : Prop := ∀ c, rest.head? = some c → c.isDigit ∨ Text.isBlank c

namespace Part

def afterWhole (p : Part) : List Char :=
  match p.fraction with
  | none => p.name
  | some f => '.' :: (f ++ p.name)

def text (p : Part) : List Char := p.whole ++ p.afterWhole

def count (p : Part) : Nat := Digits.value (digits p.whole)

structure WellFormed (p : Part) : Prop where
  whole : IsRun p.whole
  first : ∃ c cs, p.whole = c :: cs ∧ c.isDigit
  fraction : ∀ f, p.fraction = some f → IsRun f ∧ digits f ≠ []
  name : ∃ c cs, p.name = c :: cs
  letters : ∀ c ∈ p.name, isUnitLetter c

/-- The digits stay within 64 bits. -/
structure Fits (p : Part) : Prop where
  count : p.count < UInt64.size
  fraction : ∀ f, p.fraction = some f → Nat.pow 10 (digits f).length < UInt64.size

def addTo (p : Part) (sum : Span) : Except Stop Span :=
  addPart sum p.count (p.fraction.map fractionOf) p.name

end Part

/-- After blanks, the text starts with the part, and the rest may follow it. -/
structure Starts (cs : List Char) (p : Part) (rest : List Char) : Prop where
  split : ∃ gap, (∀ c ∈ gap, Text.isBlank c) ∧ cs = gap ++ (p.text ++ rest)
  wellFormed : p.WellFormed
  ends : Ends rest

theorem Starts.length_lt {cs rest : List Char} {p : Part} (h : Starts cs p rest) :
    rest.length < cs.length := by
  obtain ⟨⟨gap, -, rfl⟩, hp, -⟩ := h
  obtain ⟨c, w, hwhole, -⟩ := hp.first
  unfold Part.text
  rw [hwhole]
  simp only [List.length_append, List.length_cons]
  omega

/-! ## Reading a part -/

theorem valueFrom_cons (n : Nat) (c : Char) (cs : List Char) :
    Digits.valueFrom n (c :: cs) = Digits.valueFrom (10 * n + Digits.digit c) cs := by
  unfold Digits.valueFrom
  rw [List.foldl_cons]

theorem le_valueFrom (n : Nat) (cs : List Char) : n ≤ Digits.valueFrom n cs := by
  induction cs generalizing n with
  | nil => exact Nat.le_refl n
  | cons c cs ih =>
    rw [valueFrom_cons]
    exact Nat.le_trans (by omega) (ih _)

theorem digit_lt_size {c : Char} (h : c.isDigit) : Digits.digit c < UInt64.size := by
  have hn := (toNat_of_isDigit h).2
  exact Nat.lt_of_le_of_lt (Nat.le_trans (Nat.sub_le _ _) hn) (by decide)

theorem pow_le_pow {m n : Nat} (h : m ≤ n) : Nat.pow 10 m ≤ Nat.pow 10 n :=
  Nat.pow_le_pow_right (by decide) h

section

variable {c : Char} {cs : List Char}

theorem digits_cons_of_isDigit (h : c.isDigit) : digits (c :: cs) = c :: digits cs :=
  List.filter_cons_of_pos h

theorem digits_cons_of_isBlank (h : Text.isBlank c) : digits (c :: cs) = digits cs :=
  List.filter_cons_of_neg (by rw [isDigit_of_isBlank h]; exact Bool.false_ne_true)

theorem ends_nil : Ends [] := by
  intro c hc
  cases hc

theorem isRun_nil : IsRun [] := List.forall_mem_nil _

theorem IsRun.tail (h : IsRun (c :: cs)) : IsRun cs := fun x hx => h x (List.mem_cons_of_mem c hx)

end

section

variable (sum : Span) (offset n : Nat) {c : Char} (cs : List Char)

theorem readFrom_between_digit (start : Nat) (isFirst : Bool) (h : c.isDigit) :
    readFrom sum offset (.between start isFirst) (c :: cs) =
      readFrom sum (offset + c.utf8Size) (.whole (Digits.digit c)) cs := by
  simp only [readFrom, step, if_pos h]
  rfl

theorem readFrom_between_blank (start : Nat) (isFirst : Bool) (h : Text.isBlank c) :
    readFrom sum offset (.between start isFirst) (c :: cs) =
      readFrom sum (offset + c.utf8Size) (.between start isFirst) cs := by
  simp only [readFrom, step, isDigit_of_isBlank h, h, if_true, Bool.false_eq_true, if_false]
  rfl

theorem readFrom_whole_digit (h : c.isDigit) :
    readFrom sum offset (.whole n) (c :: cs) =
      if 10 * n + Digits.digit c < UInt64.size then
        readFrom sum (offset + c.utf8Size) (.whole (10 * n + Digits.digit c)) cs
      else fault .overflow := by
  simp only [readFrom, step, if_pos h]
  split <;> rfl

theorem readFrom_whole_blank (h : Text.isBlank c) :
    readFrom sum offset (.whole n) (c :: cs) =
      readFrom sum (offset + c.utf8Size) (.whole n) cs := by
  simp only [readFrom, step, isDigit_of_isBlank h, h, if_true, Bool.false_eq_true, if_false]
  rfl

theorem readFrom_whole_letter (h : isUnitLetter c) :
    readFrom sum offset (.whole n) (c :: cs) =
      readFrom sum (offset + c.utf8Size) (.unit n none [c]) cs := by
  simp only [readFrom, step, isDigit_of_isUnitLetter h, Text.isBlank_of_isUnitLetter h, h,
    if_true, Bool.false_eq_true, if_false]
  rfl

theorem readFrom_whole_point :
    readFrom sum offset (.whole n) ('.' :: cs) =
      readFrom sum (offset + '.'.utf8Size) (.fraction n ⟨0, 0⟩ offset) cs := rfl

variable (f : Fraction) (mark : Nat)

theorem readFrom_fraction_digit (h : c.isDigit) :
    readFrom sum offset (.fraction n f mark) (c :: cs) =
      if Nat.pow 10 (f.places + 1) < UInt64.size then
        readFrom sum (offset + c.utf8Size)
          (.fraction n ⟨10 * f.numerator + Digits.digit c, f.places + 1⟩ (offset + c.utf8Size)) cs
      else fault .overflow := by
  simp only [readFrom, step, if_pos h]
  split <;> rfl

theorem readFrom_fraction_blank (h : Text.isBlank c) :
    readFrom sum offset (.fraction n f mark) (c :: cs) =
      readFrom sum (offset + c.utf8Size) (.fraction n f (offset + c.utf8Size)) cs := by
  simp only [readFrom, step, isDigit_of_isBlank h, h, if_true, Bool.false_eq_true, if_false]
  rfl

theorem readFrom_fraction_letter (h : isUnitLetter c) (hf : f.places ≠ 0) :
    readFrom sum offset (.fraction n f mark) (c :: cs) =
      readFrom sum (offset + c.utf8Size) (.unit n (some f) [c]) cs := by
  simp only [readFrom, step, isDigit_of_isUnitLetter h, Text.isBlank_of_isUnitLetter h, h,
    bne_iff_ne.2 hf, Bool.and_true, if_true, Bool.false_eq_true, if_false]
  rfl

theorem readFrom_unit_letter (f : Option Fraction) (name : List Char) (h : isUnitLetter c) :
    readFrom sum offset (.unit n f name) (c :: cs) =
      readFrom sum (offset + c.utf8Size) (.unit n f (c :: name)) cs := by
  simp only [readFrom, step, if_pos h]
  rfl

end

variable (sum : Span)

theorem readFrom_gap {gap : List Char} (hg : ∀ c ∈ gap, Text.isBlank c) (rest : List Char)
    (offset start : Nat) (isFirst : Bool) :
    ∃ offset', readFrom sum offset (.between start isFirst) (gap ++ rest) =
      readFrom sum offset' (.between start isFirst) rest := by
  induction gap generalizing offset with
  | nil => exact ⟨offset, rfl⟩
  | cons c gap ih =>
    rw [List.cons_append, readFrom_between_blank _ _ _ _ _ (hg c List.mem_cons_self)]
    exact ih (fun x hx => hg x (List.mem_cons_of_mem c hx)) _

/-- A run of digits is read whole, or refused at the digit where it leaves 64 bits. -/
theorem readFrom_whole {w : List Char} (hw : IsRun w) (rest : List Char) (offset n : Nat)
    (hn : n < UInt64.size) :
    ∃ offset', readFrom sum offset (.whole n) (w ++ rest) =
      if Digits.valueFrom n (digits w) < UInt64.size then
        readFrom sum offset' (.whole (Digits.valueFrom n (digits w))) rest
      else fault .overflow := by
  induction w generalizing offset n with
  | nil =>
    refine ⟨offset, ?_⟩
    rw [if_pos (show Digits.valueFrom n (digits []) < UInt64.size from hn)]
    rfl
  | cons c w ih =>
    rcases hw c List.mem_cons_self with hc | hc
    · rw [digits_cons_of_isDigit hc, valueFrom_cons, List.cons_append,
        readFrom_whole_digit _ _ _ _ hc]
      by_cases hlt : 10 * n + Digits.digit c < UInt64.size
      · rw [if_pos hlt]
        exact ih hw.tail _ _ hlt
      -- A count that leaves 64 bits here stays outside: further digits only add to it.
      · have hge := le_valueFrom (10 * n + Digits.digit c) (digits w)
        rw [if_neg hlt]
        exact ⟨offset, (if_neg (by omega)).symm⟩
    · rw [digits_cons_of_isBlank hc, List.cons_append, readFrom_whole_blank _ _ _ _ hc]
      exact ih hw.tail _ _ hn

theorem readFrom_fraction {r : List Char} (hr : IsRun r) (rest : List Char) (offset n : Nat)
    (f : Fraction) (mark : Nat) (hf : Nat.pow 10 f.places < UInt64.size) :
    ∃ offset' mark', readFrom sum offset (.fraction n f mark) (r ++ rest) =
      if Nat.pow 10 (f.places + (digits r).length) < UInt64.size then
        readFrom sum offset' (.fraction n ⟨Digits.valueFrom f.numerator (digits r),
          f.places + (digits r).length⟩ mark') rest
      else fault .overflow := by
  induction r generalizing offset f mark with
  | nil => exact ⟨offset, mark, (if_pos hf).symm⟩
  | cons c r ih =>
    rcases hr c List.mem_cons_self with hc | hc
    · have hlen : f.places + ((digits r).length + 1) = f.places + 1 + (digits r).length := by
        omega
      rw [digits_cons_of_isDigit hc, valueFrom_cons, List.length_cons, hlen, List.cons_append,
        readFrom_fraction_digit _ _ _ _ _ _ hc]
      by_cases hlt : Nat.pow 10 (f.places + 1) < UInt64.size
      · rw [if_pos hlt]
        exact ih hr.tail _ ⟨10 * f.numerator + Digits.digit c, f.places + 1⟩ _ hlt
      · have hge := pow_le_pow (Nat.le_add_right (f.places + 1) (digits r).length)
        rw [if_neg hlt]
        exact ⟨offset, mark, (if_neg (by omega)).symm⟩
    · rw [digits_cons_of_isBlank hc, List.cons_append, readFrom_fraction_blank _ _ _ _ _ _ hc]
      exact ih hr.tail _ f _ hf

theorem readFrom_unit {cs : List Char} (hc : ∀ c ∈ cs, isUnitLetter c) (rest : List Char)
    (offset n : Nat) (f : Option Fraction) (name : List Char) :
    ∃ offset', readFrom sum offset (.unit n f name) (cs ++ rest) =
      readFrom sum offset' (.unit n f (cs.reverse ++ name)) rest := by
  induction cs generalizing offset name with
  | nil => exact ⟨offset, rfl⟩
  | cons c cs ih =>
    rw [List.cons_append, List.reverse_cons, List.append_assoc, List.singleton_append,
      readFrom_unit_letter _ _ _ _ _ _ (hc c List.mem_cons_self)]
    exact ih (fun x hx => hc x (List.mem_cons_of_mem c hx)) _ _

/-- Where a part ends it is added to the sum, and the next one is looked for. -/
theorem readFrom_ends {rest : List Char} (h : Ends rest) (offset n : Nat) (f : Option Fraction)
    (name : List Char) :
    ∃ start, readFrom sum offset (.unit n f name) rest =
      addPart sum n f name.reverse >>= fun sum =>
        readFrom sum offset (.between start false) rest := by
  cases rest with
  | nil =>
    refine ⟨offset, ?_⟩
    show addPart sum n f name.reverse = _
    cases addPart sum n f name.reverse <;> rfl
  | cons c rest =>
    refine ⟨offset + c.utf8Size, ?_⟩
    rcases h c rfl with hc | hc
    · simp only [readFrom, step, hc, isUnitLetter_of_isDigit hc, if_true, if_false,
        Bool.false_eq_true]
      cases addPart sum n f name.reverse <;> rfl
    · simp only [readFrom, step, hc, isUnitLetter_of_isBlank hc, isDigit_of_isBlank hc, if_true,
        if_false, Bool.false_eq_true]
      cases addPart sum n f name.reverse <;> rfl

theorem readFrom_name {c : Char} {cs rest : List Char} (hc : ∀ x ∈ c :: cs, isUnitLetter x)
    (he : Ends rest) (offset n : Nat) (f : Option Fraction) :
    ∃ offset' start, readFrom sum offset (.unit n f [c]) (cs ++ rest) =
      addPart sum n f (c :: cs) >>= fun sum =>
        readFrom sum offset' (.between start false) rest := by
  obtain ⟨offset', h⟩ := readFrom_unit sum (fun x hx => hc x (List.mem_cons_of_mem c hx)) rest
    offset n f [c]
  obtain ⟨start, h'⟩ := readFrom_ends sum he offset' n f (cs.reverse ++ [c])
  refine ⟨offset', start, ?_⟩
  rw [h, h', List.reverse_append, List.reverse_reverse, List.reverse_singleton,
    List.singleton_append]

theorem readFrom_afterWhole {p : Part} {rest : List Char} (hp : p.WellFormed) (he : Ends rest)
    (offset : Nat) :
    ∃ offset' start, ((∀ f, p.fraction = some f → Nat.pow 10 (digits f).length < UInt64.size) →
        readFrom sum offset (.whole p.count) (p.afterWhole ++ rest) =
          p.addTo sum >>= fun sum => readFrom sum offset' (.between start false) rest) ∧
      (¬ (∀ f, p.fraction = some f → Nat.pow 10 (digits f).length < UInt64.size) →
        readFrom sum offset (.whole p.count) (p.afterWhole ++ rest) = fault .overflow) := by
  obtain ⟨c, cs, hname⟩ := hp.name
  have hletters := hp.letters
  rw [hname] at hletters
  have hc := hletters c List.mem_cons_self
  unfold Part.afterWhole Part.addTo
  rw [hname]
  cases hf : p.fraction with
  | none =>
    obtain ⟨offset', start, h⟩ := readFrom_name sum hletters he (offset + c.utf8Size) p.count none
    refine ⟨offset', start, ?_, ?_⟩
    · intro _
      show readFrom sum offset (.whole p.count) (c :: (cs ++ rest)) = _
      rw [readFrom_whole_letter _ _ _ _ hc, h]
      rfl
    · intro hnot
      exact absurd (fun f hnone => nomatch hnone) hnot
  | some f =>
    obtain ⟨hrun, hne⟩ := hp.fraction f hf
    obtain ⟨offset₁, mark, h₁⟩ := readFrom_fraction sum hrun (c :: cs ++ rest)
      (offset + '.'.utf8Size) p.count ⟨0, 0⟩ offset (by decide)
    dsimp only at h₁
    rw [Nat.zero_add] at h₁
    have hplaces : (digits f).length ≠ 0 := fun h => hne (List.length_eq_zero_iff.1 h)
    obtain ⟨offset₂, start, h₂⟩ := readFrom_name sum hletters he (offset₁ + c.utf8Size) p.count
      (some (fractionOf f))
    refine ⟨offset₂, start, ?_, ?_⟩
    · intro hfits
      show readFrom sum offset (.whole p.count) ('.' :: (f ++ c :: cs) ++ rest) = _
      rw [List.cons_append, List.append_assoc, readFrom_whole_point, h₁, if_pos (hfits f rfl),
        List.cons_append, readFrom_fraction_letter _ _ _ _ _ _ hc hplaces]
      exact h₂
    · intro hnot
      have hfits : ¬ Nat.pow 10 (digits f).length < UInt64.size := by
        intro hlt
        apply hnot
        rintro _ ⟨⟩
        exact hlt
      show readFrom sum offset (.whole p.count) ('.' :: (f ++ c :: cs) ++ rest) = _
      rw [List.cons_append, List.append_assoc, readFrom_whole_point, h₁, if_neg hfits]

/-- The reader adds the part that a text starts with, or refuses its digits. -/
theorem readFrom_starts {cs rest : List Char} {p : Part} (h : Starts cs p rest)
    (offset start : Nat) (isFirst : Bool) :
    ∃ offset' start', (p.Fits → readFrom sum offset (.between start isFirst) cs =
        p.addTo sum >>= fun sum => readFrom sum offset' (.between start' false) rest) ∧
      (¬ p.Fits → readFrom sum offset (.between start isFirst) cs = fault .overflow) := by
  obtain ⟨⟨gap, hgap, rfl⟩, hp, he⟩ := h
  obtain ⟨c, w, hwhole, hc⟩ := hp.first
  have hrun := hp.whole
  rw [hwhole] at hrun
  have hcount : p.count = Digits.valueFrom (Digits.digit c) (digits w) := by
    unfold Part.count Digits.value
    rw [hwhole, digits_cons_of_isDigit hc, valueFrom_cons, Nat.mul_zero, Nat.zero_add]
  obtain ⟨offset₁, h₁⟩ := readFrom_gap sum hgap (p.text ++ rest) offset start isFirst
  obtain ⟨offset₂, h₂⟩ := readFrom_whole sum hrun.tail (p.afterWhole ++ rest)
    (offset₁ + c.utf8Size) _ (digit_lt_size hc)
  have h : readFrom sum offset (.between start isFirst) (gap ++ (p.text ++ rest)) =
      if p.count < UInt64.size then readFrom sum offset₂ (.whole p.count) (p.afterWhole ++ rest)
      else fault .overflow := by
    rw [h₁, hcount, ← h₂]
    unfold Part.text
    rw [hwhole, List.append_assoc, List.cons_append, readFrom_between_digit _ _ _ _ _ hc]
  obtain ⟨offset₃, start', hfits, hnot⟩ := readFrom_afterWhole sum hp he offset₂
  refine ⟨offset₃, start', ?_, ?_⟩
  · intro hf
    rw [h, if_pos hf.count, hfits hf.fraction]
  · intro hf
    rw [h]
    split
    · rename_i hlt
      exact hnot fun hfraction => hf ⟨hlt, hfraction⟩
    · rfl

/-! ## What is not refused

By induction on the text, with one case for each kind of character that the state takes. -/

def Refused (r : Except Stop Span) : Prop := ∃ e, r = fault e

theorem addPart_nil (n : Nat) (f : Option Fraction) :
    addPart sum n f [] = fault (.missingUnit n) := rfl

/-- The name of a unit and what follows it. -/
structure IsNamed (cs name rest : List Char) : Prop where
  split : cs = name ++ rest
  ne_nil : ∃ c cs, name = c :: cs
  letters : ∀ c ∈ name, isUnitLetter c
  ends : Ends rest

variable {sum}

theorem exists_isNamed {c : Char} {cs name : List Char} {offset n : Nat} {f : Option Fraction}
    (hc : isUnitLetter c) (h : ¬ Refused (readFrom sum offset (.unit n f name) cs)) :
    ∃ name rest, IsNamed (c :: cs) name rest := by
  induction cs generalizing c offset name with
  | nil => exact ⟨[c], [], rfl, ⟨c, [], rfl⟩, by simpa using hc, ends_nil⟩
  | cons x cs ih =>
    by_cases hx : isUnitLetter x
    · rw [readFrom_unit_letter _ _ _ _ _ _ hx] at h
      obtain ⟨name', rest, hsplit, -, hletters, hends⟩ := ih hx h
      refine ⟨c :: name', rest, congrArg (c :: ·) hsplit, ⟨c, name', rfl⟩, ?_, hends⟩
      exact List.forall_mem_cons.2 ⟨hc, hletters⟩
    · refine ⟨[c], x :: cs, rfl, ⟨c, [], rfl⟩, by simpa using hc, ?_⟩
      rintro _ ⟨⟩
      apply Decidable.of_not_not
      intro hn
      obtain ⟨hd, hb⟩ := not_or.1 hn
      apply h
      refine ⟨.invalidCharacter offset, ?_⟩
      simp only [readFrom, step, if_neg hx, if_neg hd, if_neg hb]
      rfl

theorem exists_fraction {cs : List Char} {offset n mark : Nat} {f : Fraction}
    (h : ¬ Refused (readFrom sum offset (.fraction n f mark) cs)) :
    ∃ r cs' name rest, cs = r ++ cs' ∧ IsRun r ∧ f.places + (digits r).length ≠ 0 ∧
      IsNamed cs' name rest := by
  induction cs generalizing offset f mark with
  | nil =>
    exfalso
    apply h
    show Refused (if f.places = 0 then _ else addPart sum n (some f) [])
    split
    · exact ⟨_, rfl⟩
    · exact ⟨_, addPart_nil sum n (some f)⟩
  | cons c cs ih =>
    by_cases hd : c.isDigit
    · rw [readFrom_fraction_digit _ _ _ _ _ _ hd] at h
      split at h
      · obtain ⟨r, cs', name, rest, rfl, hr, -, hnamed⟩ := ih h
        refine ⟨c :: r, cs', name, rest, rfl, List.forall_mem_cons.2 ⟨Or.inl hd, hr⟩, ?_, hnamed⟩
        rw [digits_cons_of_isDigit hd, List.length_cons]
        omega
      · exact absurd ⟨_, rfl⟩ h
    by_cases hb : Text.isBlank c
    · rw [readFrom_fraction_blank _ _ _ _ _ _ hb] at h
      obtain ⟨r, cs', name, rest, rfl, hr, hplaces, hnamed⟩ := ih h
      refine ⟨c :: r, cs', name, rest, rfl, List.forall_mem_cons.2 ⟨Or.inr hb, hr⟩, ?_, hnamed⟩
      rwa [digits_cons_of_isBlank hb]
    by_cases hl : isUnitLetter c ∧ f.places ≠ 0
    · rw [readFrom_fraction_letter _ _ _ _ _ _ hl.1 hl.2] at h
      obtain ⟨name, rest, hnamed⟩ := exists_isNamed hl.1 h
      exact ⟨[], c :: cs, name, rest, rfl, isRun_nil, hl.2, hnamed⟩
    · exfalso
      apply h
      refine ⟨.invalidCharacter mark, ?_⟩
      have hl' : ¬ (isUnitLetter c && f.places != 0) = true := by simpa using hl
      simp only [readFrom, step, if_neg hd, if_neg hb, if_neg hl']
      rfl

/-- What a part consists of after its first digit, and the rest of the text. -/
def IsTail (cs : List Char) : Prop :=
  ∃ w cs' name rest, IsRun w ∧ IsNamed cs' name rest ∧ (cs = w ++ cs' ∨
    ∃ r, cs = w ++ '.' :: (r ++ cs') ∧ IsRun r ∧ digits r ≠ [])

theorem IsTail.cons {c : Char} {cs : List Char} (hc : c.isDigit ∨ Text.isBlank c)
    (h : IsTail cs) : IsTail (c :: cs) := by
  obtain ⟨w, cs', name, rest, hw, hnamed, hsplit⟩ := h
  refine ⟨c :: w, cs', name, rest, List.forall_mem_cons.2 ⟨hc, hw⟩, hnamed, ?_⟩
  rcases hsplit with rfl | ⟨r, rfl, hr⟩
  · exact Or.inl rfl
  · exact Or.inr ⟨r, rfl, hr⟩

theorem isTail_of_readFrom {cs : List Char} {offset n : Nat}
    (h : ¬ Refused (readFrom sum offset (.whole n) cs)) : IsTail cs := by
  induction cs generalizing offset n with
  | nil => exact absurd ⟨_, addPart_nil sum n none⟩ h
  | cons c cs ih =>
    by_cases hd : c.isDigit
    · rw [readFrom_whole_digit _ _ _ _ hd] at h
      split at h
      · exact (ih h).cons (Or.inl hd)
      · exact absurd ⟨_, rfl⟩ h
    by_cases hb : Text.isBlank c
    · rw [readFrom_whole_blank _ _ _ _ hb] at h
      exact (ih h).cons (Or.inr hb)
    by_cases hl : isUnitLetter c
    · rw [readFrom_whole_letter _ _ _ _ hl] at h
      obtain ⟨name, rest, hnamed⟩ := exists_isNamed hl h
      exact ⟨[], c :: cs, name, rest, isRun_nil, hnamed, Or.inl rfl⟩
    by_cases hp : c = '.'
    · subst hp
      rw [readFrom_whole_point] at h
      obtain ⟨r, cs', name, rest, rfl, hr, hplaces, hnamed⟩ := exists_fraction h
      refine ⟨[], cs', name, rest, isRun_nil, hnamed, Or.inr ⟨r, rfl, hr, ?_⟩⟩
      intro hempty
      rw [hempty] at hplaces
      exact hplaces rfl
    · exfalso
      apply h
      refine ⟨.invalidCharacter offset, ?_⟩
      simp only [readFrom, step, if_neg hd, if_neg hb, if_neg hl, if_neg hp]
      rfl

theorem exists_starts {cs : List Char} {offset start : Nat} {isFirst : Bool}
    (h : ¬ Refused (readFrom sum offset (.between start isFirst) cs)) :
    (∀ c ∈ cs, Text.isBlank c) ∨ ∃ p rest, Starts cs p rest := by
  induction cs generalizing offset with
  | nil => exact Or.inl (List.forall_mem_nil _)
  | cons c cs ih =>
    by_cases hd : c.isDigit
    · rw [readFrom_between_digit _ _ _ _ _ hd] at h
      obtain ⟨w, cs', name, rest, hw, hnamed, hsplit⟩ := isTail_of_readFrom h
      have hrun : IsRun (c :: w) := List.forall_mem_cons.2 ⟨Or.inl hd, hw⟩
      obtain ⟨rfl, hne, hletters, hends⟩ := hnamed
      right
      rcases hsplit with rfl | ⟨r, rfl, hr, hdigits⟩
      · refine ⟨⟨c :: w, none, name⟩, rest, ⟨[], List.forall_mem_nil _, ?_⟩, ?_, hends⟩
        · show c :: (w ++ (name ++ rest)) = c :: w ++ name ++ rest
          rw [List.append_assoc]
          rfl
        · exact ⟨hrun, ⟨c, w, rfl, hd⟩, fun _ hx => (nomatch hx), hne, hletters⟩
      · refine ⟨⟨c :: w, some r, name⟩, rest, ⟨[], List.forall_mem_nil _, ?_⟩, ?_, hends⟩
        · show c :: (w ++ '.' :: (r ++ (name ++ rest))) = c :: w ++ '.' :: (r ++ name) ++ rest
          simp only [List.cons_append, List.append_assoc]
        · refine ⟨hrun, ⟨c, w, rfl, hd⟩, ?_, hne, hletters⟩
          rintro _ ⟨⟩
          exact ⟨hr, hdigits⟩
    by_cases hb : Text.isBlank c
    · rw [readFrom_between_blank _ _ _ _ _ hb] at h
      rcases ih h with hall | ⟨p, rest, ⟨gap, hgap, rfl⟩, hp, hends⟩
      · exact Or.inl (List.forall_mem_cons.2 ⟨hb, hall⟩)
      · refine Or.inr ⟨p, rest, ⟨c :: gap, List.forall_mem_cons.2 ⟨hb, hgap⟩, rfl⟩, hp, hends⟩
    · exfalso
      apply h
      refine ⟨.expectedNumber start, ?_⟩
      simp only [readFrom, step, if_neg hd, if_neg hb]
      rfl

variable (sum) in
theorem readFrom_blank {cs : List Char} (h : ∀ c ∈ cs, Text.isBlank c) (offset start : Nat)
    (isFirst : Bool) : readFrom sum offset (.between start isFirst) cs =
      if isFirst then fault .empty else .ok sum := by
  obtain ⟨offset', hgap⟩ := readFrom_gap sum h [] offset start isFirst
  rw [List.append_nil] at hgap
  exact hgap

/-- A text that is not refused is blank, or the reader adds the part that it starts with. -/
theorem readFrom_cases {cs : List Char} {offset start : Nat} {isFirst : Bool}
    (h : ¬ Refused (readFrom sum offset (.between start isFirst) cs)) :
    (∀ c ∈ cs, Text.isBlank c) ∨ ∃ p rest offset' start', Starts cs p rest ∧ p.Fits ∧
      readFrom sum offset (.between start isFirst) cs =
        p.addTo sum >>= fun sum => readFrom sum offset' (.between start' false) rest := by
  rcases exists_starts h with hblank | ⟨p, rest, hstarts⟩
  · exact Or.inl hblank
  obtain ⟨offset', start', hfits, hnot⟩ := readFrom_starts sum hstarts offset start isFirst
  have hp : p.Fits := by
    apply Classical.byContradiction
    intro hp
    exact h ⟨_, hnot hp⟩
  exact Or.inr ⟨p, rest, offset', start', hstarts, hp, hfits hp⟩

end Phrase

end ApiGateway
