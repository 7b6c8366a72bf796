import ApiGateway.Proofs.Duration.Exactness

/-!
# What is sent for a phrase

A phrase is read as the sum of its parts (`Phrase.read_eq_ok_iff`). Blanks around it add nothing,
and no phrase is a numeral, so a duration text is read as the phrase it is
(`Duration.read_of_phrase`). Unless it is a wire text, it is sent as the nearest span of a double,
which names the span of the phrase only if a double tells this span from its neighbours
(`Duration.read_normalize_iff`).
-/

set_option autoImplicit false

namespace ApiGateway

open Binary64 Duration

/-! ## Sums of parts -/

namespace Phrase

/-- One part after the other is added to the sum, and only blanks are left at the end. -/
inductive Sums : Span → List Char → Span → Prop where
  | done {sum : Span} {cs : List Char} (blank : ∀ c ∈ cs, Text.isBlank c) : Sums sum cs sum
  | part {sum sum' total : Span} {cs rest : List Char} {p : Part} (starts : Starts cs p rest)
      (fits : p.Fits) (added : p.addTo sum = .ok sum') (later : Sums sum' rest total) :
      Sums sum cs total

variable {sum total : Span} {cs gap rest : List Char} {p : Part}

theorem sums_of_readFrom {offset start : Nat} {isFirst : Bool}
    (h : readFrom sum offset (.between start isFirst) cs = .ok total) : Sums sum cs total := by
  -- The induction is on the length of the text, which each part makes shorter.
  generalize hn : cs.length = n
  induction n using Nat.strongRecOn generalizing sum cs offset start isFirst with
  | _ n ih =>
    have hread : ¬ Refused (readFrom sum offset (.between start isFirst) cs) := by
      rintro ⟨e, he⟩
      rw [h] at he
      cases he
    rcases readFrom_cases hread with hblank | ⟨p, rest, offset', start', hstarts, hp, heq⟩
    · rw [readFrom_blank sum hblank] at h
      split at h
      · cases h
      · cases h
        exact .done hblank
    rw [heq, Except.bind_eq_ok_iff] at h
    obtain ⟨sum', hadd, h⟩ := h
    exact .part hstarts hp hadd (ih _ (hn ▸ hstarts.length_lt) h rfl)

theorem Sums.readFrom_eq (h : Sums sum cs total) (offset start : Nat) {isFirst : Bool}
    (hfirst : isFirst → ¬ ∀ c ∈ cs, Text.isBlank c) :
    readFrom sum offset (.between start isFirst) cs = .ok total := by
  induction h generalizing offset start isFirst with
  | done hblank =>
    rw [readFrom_blank _ hblank, if_neg fun hf => hfirst hf hblank]
  | @part sum _ _ _ _ _ hstarts hp hadd _ ih =>
    obtain ⟨offset', start', hfits, -⟩ := readFrom_starts sum hstarts offset start isFirst
    rw [hfits hp, hadd]
    exact ih offset' start' fun hf => nomatch hf

theorem read_eq_ok_iff :
    Phrase.read cs = .ok total ↔ Sums nothing cs total ∧ ¬ ∀ c ∈ cs, Text.isBlank c := by
  constructor
  · intro h
    refine ⟨sums_of_readFrom h, fun hblank => ?_⟩
    have hread : Phrase.read cs = fault .empty := readFrom_blank nothing hblank 0 0 true
    rw [h] at hread
    cases hread
  · rintro ⟨h, hblank⟩
    exact h.readFrom_eq 0 0 fun _ => hblank

/-! ## Blanks around a phrase -/

theorem Part.WellFormed.exists_last (h : p.WellFormed) :
    ∃ c, p.text.getLast? = some c ∧ isUnitLetter c := by
  obtain ⟨d, ds, hname⟩ := h.name
  obtain ⟨c, hlast⟩ : ∃ c, p.name.getLast? = some c :=
    ⟨_, List.getLast?_eq_some_getLast (hname ▸ List.cons_ne_nil d ds)⟩
  refine ⟨c, ?_, h.letters c (List.mem_of_getLast? hlast)⟩
  unfold text afterWhole
  cases p.fraction with
  | none => simp only [List.getLast?_append, hlast, Option.some_or]
  | some f =>
    rw [show p.whole ++ '.' :: (f ++ p.name) = (p.whole ++ '.' :: f) ++ p.name by simp,
      List.getLast?_append, hlast, Option.some_or]

/-- A part ends with a letter, so blanks at the end of a text come after it. -/
theorem Starts.of_append (hgap : ∀ c ∈ gap, Text.isBlank c) (h : Starts (cs ++ gap) p rest) :
    ∃ rest', rest = rest' ++ gap ∧ Starts cs p rest' := by
  obtain ⟨⟨front, hfront, hsplit⟩, hp, hends⟩ := h
  obtain ⟨c, hc, hletter⟩ := hp.exists_last
  rw [← List.append_assoc] at hsplit
  rcases List.append_eq_append_iff.1 hsplit with ⟨extra, hcs, hrest⟩ | ⟨rest', hcs, hrest⟩
  · have hextra : extra = [] := by
      apply Classical.byContradiction
      intro hne
      have hlast : extra.getLast? = some c := by
        have := congrArg List.getLast? hcs
        rw [List.getLast?_append, hc, Option.some_or, List.getLast?_append,
          List.getLast?_eq_some_getLast hne, Option.some_or] at this
        rw [List.getLast?_eq_some_getLast hne, this]
      have hmem : c ∈ gap := hrest ▸ List.mem_append_left _ (List.mem_of_getLast? hlast)
      have := hgap c hmem
      rw [Text.isBlank_of_isUnitLetter hletter] at this
      cases this
    subst hextra
    rw [List.append_nil] at hcs
    exact ⟨[], hrest.symm, ⟨front, hfront, by rw [← hcs, List.append_nil]⟩, hp, ends_nil⟩
  · refine ⟨rest', hrest, ⟨front, hfront, by rw [hcs, List.append_assoc]⟩, hp, ?_⟩
    intro x hx
    apply hends
    rw [hrest, List.head?_append, hx, Option.some_or]

theorem Sums.of_append (hgap : ∀ c ∈ gap, Text.isBlank c) (h : Sums sum (cs ++ gap) total) :
    Sums sum cs total := by
  generalize hcs : cs ++ gap = cs' at h
  induction h generalizing cs with
  | done hblank =>
    subst hcs
    exact .done fun c hc => hblank c (List.mem_append_left gap hc)
  | part hstarts hp hadd _ ih =>
    subst hcs
    obtain ⟨rest', rfl, hstarts'⟩ := hstarts.of_append hgap
    exact .part hstarts' hp hadd (ih rfl)

theorem read_trim (h : Phrase.read cs = .ok total) : Phrase.read (Text.trim cs) = .ok total := by
  obtain ⟨front, back, hfront, hback, hcs, -⟩ := Text.exists_trim cs
  obtain ⟨offset, hgap⟩ := readFrom_gap nothing hfront (Text.trim cs ++ back) 0 0 true
  rw [← hcs, show readFrom nothing 0 (.between 0 true) cs = .ok total from h] at hgap
  refine read_eq_ok_iff.2 ⟨(sums_of_readFrom hgap.symm).of_append hback, fun hblank => ?_⟩
  apply (read_eq_ok_iff.1 h).2
  rw [hcs]
  simp only [List.mem_append]
  rintro c (hc | hc | hc)
  · exact hfront c hc
  · exact hblank c hc
  · exact hback c hc

end Phrase

/-! ## Phrases are no numerals -/

theorem PhraseUnit.head?_ne_of_ofName? {name : String} {u : PhraseUnit}
    (h : PhraseUnit.ofName? name = some u) :
    name.toList.head? ≠ some 'e' ∧ name.toList.head? ≠ some 'E' := by
  have hnames : ∀ u : PhraseUnit, ∀ name ∈ u.names,
      name.toList.head? ≠ some 'e' ∧ name.toList.head? ≠ some 'E' := by
    intro u
    cases u <;> decide
  have hmem := List.find?_some h
  exact hnames u name (List.contains_iff_mem.1 hmem)

theorem breaks_of_isBlank {c : Char} (cs : List Char) (h : Text.isBlank c) :
    Breaks (c :: cs) := by
  refine ⟨c, cs, rfl, isDigit_of_isBlank h, ?_, ?_, ?_⟩ <;>
  · rintro rfl
    exact absurd h (by decide)

/-- After the digits of a run come blanks, or what follows the run. -/
theorem split_run {w cs : List Char} (hw : Phrase.IsRun w)
    (h : ∀ c, cs.head? = some c → c.isDigit = false) :
    (Digits.split (w ++ cs)).2 = cs ∨ Breaks (Digits.split (w ++ cs)).2 := by
  unfold Digits.split
  dsimp only
  induction w with
  | nil =>
    left
    cases cs with
    | nil => rfl
    | cons c cs => exact List.dropWhile_cons_of_neg (by rw [h c rfl]; exact Bool.false_ne_true)
  | cons c w ih =>
    rw [List.cons_append]
    rcases hw c List.mem_cons_self with hc | hc
    · rw [List.dropWhile_cons_of_pos hc]
      exact ih hw.tail
    · right
      rw [List.dropWhile_cons_of_neg (by rw [isDigit_of_isBlank hc]; exact Bool.false_ne_true)]
      exact breaks_of_isBlank _ hc

namespace Phrase

variable {sum sum' total : Span} {cs rest : List Char} {p : Part}

theorem Part.exists_unit (h : p.addTo sum = .ok sum') :
    ∃ u, PhraseUnit.ofName? (String.ofList p.name) = some u := by
  unfold addTo addPart at h
  split at h
  · split at h <;> cases h
  · rename_i u hu
    exact ⟨u, hu⟩

theorem Part.WellFormed.breaks_name {u : PhraseUnit} (h : p.WellFormed)
    (hu : PhraseUnit.ofName? (String.ofList p.name) = some u) (rest : List Char) :
    Breaks (p.name ++ rest) := by
  obtain ⟨c, cs, hname⟩ := h.name
  have hc : isUnitLetter c := h.letters c (hname ▸ List.mem_cons_self)
  obtain ⟨he, hE⟩ := PhraseUnit.head?_ne_of_ofName? hu
  rw [String.toList_ofList, hname, List.head?_cons] at he hE
  rw [hname]
  refine ⟨c, cs ++ rest, rfl, isDigit_of_isUnitLetter hc, ?_, fun h => he (congrArg some h),
    fun h => hE (congrArg some h)⟩
  rintro rfl
  exact absurd hc (by decide)

theorem head_point (cs : List Char) : ∀ c, ('.' :: cs).head? = some c → c.isDigit = false := by
  rintro _ ⟨⟩
  rfl

theorem Starts.ofText?_eq_none {u : PhraseUnit} (h : Starts cs p rest)
    (hu : PhraseUnit.ofName? (String.ofList p.name) = some u)
    (hhead : ∀ c, cs.head? = some c → Text.isBlank c = false) : ofText? cs = none := by
  obtain ⟨⟨gap, hgap, hcs⟩, hp, -⟩ := h
  have hnil : gap = [] := by
    cases gap with
    | nil => rfl
    | cons c gap =>
      have hc := hgap c List.mem_cons_self
      rw [hhead c (by rw [hcs]; rfl)] at hc
      cases hc
  obtain ⟨c, w, hwhole, hc⟩ := hp.first
  have hname := hp.breaks_name hu rest
  have htext : cs = p.whole ++ (p.afterWhole ++ rest) := by
    rw [hcs, hnil, List.nil_append, Part.text, List.append_assoc]
  have hcons : cs = c :: (w ++ (p.afterWhole ++ rest)) := by
    rw [htext, hwhole, List.cons_append]
  rw [hcons]
  apply Binary64.ofText?_eq_none hc
  rw [← hcons, htext]
  cases hf : p.fraction with
  | none =>
    have hafter : p.afterWhole = p.name := by
      unfold Part.afterWhole
      rw [hf]
    rw [hafter]
    left
    rcases split_run hp.whole (fun _ => hname.isDigit_head) with h | h
    · rwa [h]
    · exact h
  | some f =>
    have hafter : p.afterWhole ++ rest = '.' :: (f ++ (p.name ++ rest)) := by
      unfold Part.afterWhole
      rw [hf, List.cons_append, List.append_assoc]
    rw [hafter]
    rcases split_run hp.whole (head_point (f ++ (p.name ++ rest))) with h | h
    · right
      refine ⟨_, h, ?_⟩
      rcases split_run (hp.fraction f hf).1 (fun _ => hname.isDigit_head) with h | h
      · rwa [h]
      · exact h
    · exact Or.inl h

theorem ofText?_of_read (h : Phrase.read cs = .ok total)
    (hhead : ∀ c, cs.head? = some c → Text.isBlank c = false) : ofText? cs = none := by
  obtain ⟨hsums, hblank⟩ := read_eq_ok_iff.1 h
  generalize nothing = sum at hsums
  cases hsums with
  | done hall => exact absurd hall hblank
  | part hstarts _ hadd _ =>
    obtain ⟨u, hu⟩ := Part.exists_unit hadd
    exact hstarts.ofText?_eq_none hu hhead

end Phrase

/-! ## What is sent -/

/-- The span is the nearest one of a double. -/
def Span.IsNearest (s : Span) : Prop := ∃ x : Seconds, x.toSpan? = some s

theorem Span.isNearest_iff {s : Span} : s.IsNearest ↔ (Seconds.ofSpan s).toSpan? = some s :=
  ⟨fun ⟨_, h⟩ => Seconds.toSpan?_of_toSpan? h, fun h => ⟨_, h⟩⟩

namespace Duration

theorem read_of_phrase {s : String} {d : Span} (h : Phrase.read s.toList = .ok d)
    (unit : TimeUnit) : Duration.read s unit = .ok (.ofSpan d) := by
  obtain ⟨-, -, -, -, -, hhead⟩ := Text.exists_trim s.toList
  have hread := Phrase.read_trim h
  have hne : Text.trim s.toList ≠ [] := by
    intro he
    rw [he] at hread
    cases hread
  unfold Duration.read
  simp only [if_neg hne, Phrase.ofText?_of_read hread hhead, hread]

theorem phrase_text_eq_ok_iff {s d : Span} :
    Phrase.read s.text.toList = .ok d ↔ s.IsReadable ∧ s = d := by
  have hnames (h : s.IsReadable) : Phrase.read s.text.toList = .ok s := by
    obtain ⟨u, n, htext, -, -⟩ := s.toList_text
    obtain ⟨-, hread⟩ := s.names_ofSpan h
    unfold ofSpan at hread
    dsimp only at hread
    have hne : Digits.ofNat n ≠ [] := Nat.toDigits_ne_nil
    rwa [htext, Text.trim_digits_suffix hne (fun _ => Digits.isDigit_of_mem_ofNat)
      u.ofSuffix?_suffix, ← htext] at hread
  constructor
  · intro h
    have hreadable := (exists_read_text_iff .standard).1 ⟨_, read_of_phrase h .standard⟩
    refine ⟨hreadable, ?_⟩
    rw [hnames hreadable] at h
    exact Except.ok.inj h
  · rintro ⟨h, rfl⟩
    exact hnames h

section

variable {s : String} {d : Span} {t : DurationText}

theorem normalize_of_wireShaped (h : Phrase.read s.toList = .ok d) (hs : WireShaped s) :
    normalize s = .ok ⟨s⟩ :=
  RawDuration.send_text_of_wireShaped hs (read_of_phrase h .standard)

theorem normalize_of_not_wireShaped (h : Phrase.read s.toList = .ok d) (hs : ¬ WireShaped s) :
    normalize s = write (Seconds.ofSpan d).value :=
  RawDuration.send_text_of_not_wireShaped hs (read_of_phrase h .standard)

theorem exists_normalize_iff (h : Phrase.read s.toList = .ok d) :
    (∃ t, normalize s = .ok t) ↔ WireShaped s ∨ d.secs < UInt64.size - 1024 := by
  by_cases hs : WireShaped s
  · exact iff_of_true ⟨_, normalize_of_wireShaped h hs⟩ (Or.inl hs)
  · rw [normalize_of_not_wireShaped h hs, or_iff_right hs, ← Seconds.units_ofSpan_lt_iff]
    exact Seconds.exists_send_iff

theorem read_normalize_iff (h : Phrase.read s.toList = .ok d) (ht : normalize s = .ok t) :
    Phrase.read t.text.toList = .ok d ↔ WireShaped s ∨ d.IsReadable ∧ d.IsNearest := by
  by_cases hs : WireShaped s
  · rw [normalize_of_wireShaped h hs] at ht
    cases ht
    exact iff_of_true h (Or.inl hs)
  · rw [normalize_of_not_wireShaped h hs, write_eq_ok_iff, nearestSpan?_value] at ht
    obtain ⟨n, hn, rfl⟩ := ht
    rw [or_iff_right hs, Span.isNearest_iff, hn, Option.some.injEq]
    show Phrase.read n.text.toList = .ok d ↔ _
    rw [phrase_text_eq_ok_iff]
    constructor
    · rintro ⟨hreadable, rfl⟩
      exact ⟨hreadable, rfl⟩
    · rintro ⟨hreadable, rfl⟩
      exact ⟨hreadable, rfl⟩

/-- A double tells a nanosecond below `2²³` seconds, and a second up to `2⁵³`. -/
theorem isReadable_and_isNearest_of_short
    (short : d.secs < 2 ^ 23 ∨ d.subsec = 0 ∧ d.secs ≤ 2 ^ 53) : d.IsReadable ∧ d.IsNearest := by
  rcases short with hlt | ⟨hsub, hle⟩
  · have hlt' : d.secs < 2 ^ 34 := Nat.lt_trans hlt (by decide)
    exact ⟨Span.isReadable_of_lt hlt', _, Seconds.toSpan?_ofSpan hlt⟩
  · exact ⟨Or.inl hsub, _, Seconds.toSpan?_ofSpan_of_whole hsub hle⟩

/-! ### Zero

The reader of phrases takes `0` without a unit, but the gateway takes it as a number before. -/

/-- The span that the reader of phrases answers with. -/
def Phrased (s : String) (d : Span) : Prop :=
  Phrase.read s.toList = .ok d ∨ s = "0" ∧ d = Phrase.nothing

theorem normalize_zero : normalize "0" = .ok ⟨"0s"⟩ := by decide +kernel

theorem phrased_zero : Phrased "0s" Phrase.nothing := Or.inl (by decide +kernel)

theorem wireShaped_of_normalize (h : normalize s = .ok t) : WireShaped t.text := by
  obtain ⟨x, -, h⟩ := Except.bind_eq_ok_iff.1 h
  split at h
  · rename_i hs
    cases h
    exact isWireText_iff.1 hs
  · obtain ⟨n, -, rfl⟩ := write_eq_ok_iff.1 h
    exact n.wireShaped_text

theorem phrased_iff_of_wireShaped (h : WireShaped s) :
    Phrased s d ↔ Phrase.read s.toList = .ok d := by
  apply or_iff_left
  rintro ⟨rfl, -⟩
  exact absurd (isWireText_iff.2 h) (by decide)

theorem exists_normalize_iff_of_phrased (h : Phrased s d) :
    (∃ t, normalize s = .ok t) ↔ WireShaped s ∨ d.secs < UInt64.size - 1024 := by
  rcases h with h | ⟨rfl, rfl⟩
  · exact exists_normalize_iff h
  · exact iff_of_true ⟨_, normalize_zero⟩ (Or.inr (by decide))

theorem phrased_normalize_iff (h : Phrased s d) (ht : normalize s = .ok t) :
    Phrased t.text d ↔ WireShaped s ∨ d.IsReadable ∧ d.IsNearest := by
  rcases h with h | ⟨rfl, rfl⟩
  · rw [phrased_iff_of_wireShaped (wireShaped_of_normalize ht)]
    exact read_normalize_iff h ht
  · rw [normalize_zero] at ht
    cases ht
    exact iff_of_true phrased_zero (Or.inr (isReadable_and_isNearest_of_short (Or.inl (by decide))))

theorem exists_normalize_of_short (h : Phrased s d)
    (short : d.secs < 2 ^ 23 ∨ d.subsec = 0 ∧ d.secs ≤ 2 ^ 53) :
    ∃ t, normalize s = .ok t ∧ Phrased t.text d := by
  have hsecs : d.secs < UInt64.size - 1024 := by
    simp only [UInt64.size]
    omega
  obtain ⟨t, ht⟩ := (exists_normalize_iff_of_phrased h).2 (Or.inr hsecs)
  exact ⟨t, ht, (phrased_normalize_iff h ht).2 (Or.inr (isReadable_and_isNearest_of_short short))⟩

theorem normalize_phrase_iff (h : Phrased s d) :
    ((∃ t, normalize s = .ok t) ↔ WireShaped s ∨ d.secs < UInt64.size - 1024) ∧
    (∀ t, normalize s = .ok t →
      (Phrased t.text d ↔ WireShaped s ∨ d.IsReadable ∧ d.IsNearest)) ∧
    (d.secs < 2 ^ 23 ∨ d.subsec = 0 ∧ d.secs ≤ 2 ^ 53 →
      ∃ t, normalize s = .ok t ∧ Phrased t.text d) :=
  ⟨exists_normalize_iff_of_phrased h, fun _ => phrased_normalize_iff h,
    exists_normalize_of_short h⟩

end

/-- A year, and a nanosecond that no double tells from it. -/
def year : Span := .ofSeconds 31557600 (by decide)

def overYear : Span := ⟨31557600 * nanosPerSecond + 1, by decide⟩

theorem normalize_phrase_iff_overYear :
    Phrased "1year 1ns" overYear ∧
      ((∃ t, normalize "1year 1ns" = .ok t) ↔
        WireShaped "1year 1ns" ∨ overYear.secs < UInt64.size - 1024) ∧
      (∀ t, normalize "1year 1ns" = .ok t → (Phrased t.text overYear ↔
        WireShaped "1year 1ns" ∨ overYear.IsReadable ∧ overYear.IsNearest)) ∧
      (overYear.secs < 2 ^ 23 ∨ overYear.subsec = 0 ∧ overYear.secs ≤ 2 ^ 53 →
        ∃ t, normalize "1year 1ns" = .ok t ∧ Phrased t.text overYear) := by
  have hread : Phrased "1year 1ns" overYear := Or.inl (by decide +kernel)
  exact ⟨hread, normalize_phrase_iff hread⟩

/-- The nanosecond is lost. -/
theorem normalize_overYear :
    Phrased "1year 1ns" overYear ∧ normalize "1year 1ns" = .ok ⟨"8766h"⟩ ∧
      Phrased "8766h" year ∧ ¬ Phrased "8766h" overYear := by
  have hyear : Phrase.read "8766h".toList = .ok year := by decide +kernel
  refine ⟨Or.inl (by decide +kernel), by decide +kernel, Or.inl hyear, ?_⟩
  rintro (h | ⟨h, -⟩)
  · rw [hyear] at h
    exact absurd (Except.ok.inj h) (by decide)
  · exact absurd h (by decide)

end Duration

end ApiGateway
