import ApiGateway.Proofs.Duration.Parts

/-!
# Reading wire texts

A wire text is a run of digits and the suffix of a unit: a single part, whose count has to fit 64
bits in what its unit counts in (`Phrase.read_digits_suffix`). The text of a span therefore reads
back as its number of seconds (`Duration.read_text`), unless it has too many nanoseconds
(`Duration.exists_read_text_iff`).
-/

set_option autoImplicit false

namespace ApiGateway

theorem Text.trim_eq_self {cs : List Char} (first : ∀ c, cs.head? = some c → isBlank c = false)
    (last : ∀ c, cs.getLast? = some c → isBlank c = false) : trim cs = cs := by
  have drop (xs : List Char) (h : ∀ c, xs.head? = some c → isBlank c = false) :
      xs.dropWhile isBlank = xs := by
    cases xs with
    | nil => rfl
    | cons x xs => simp [h x rfl]
  unfold trim
  rw [drop cs first, drop cs.reverse, List.reverse_reverse]
  rwa [List.head?_reverse]

namespace TimeUnit

/-- The unit of phrases of the same name. -/
def phraseUnit : TimeUnit → PhraseUnit
  | nanoseconds => .nanosecond
  | microseconds => .microsecond
  | milliseconds => .millisecond
  | seconds => .second
  | minutes => .minute
  | hours => .hour

/-- The length of a unit in what a phrase counts it in: nanoseconds below the second, else
seconds. -/
def grains (u : TimeUnit) : Nat := Phrase.grains u.phraseUnit u.phraseUnit.isSubsecond

theorem nanos_eq_grains (u : TimeUnit) :
    u.nanos = u.grains * if u.phraseUnit.isSubsecond then 1 else nanosPerSecond := by
  cases u <;> rfl

theorem grains_pos (u : TimeUnit) : 0 < u.grains := by cases u <;> decide

theorem ofName?_of_ofSuffix? {s : String} {u : TimeUnit} (h : ofSuffix? s = some u) :
    PhraseUnit.ofName? s = some u.phraseUnit := by
  unfold ofSuffix? at h
  split at h <;> cases h <;> rfl

theorem isUnitLetter_of_ofSuffix? {s : String} {u : TimeUnit} (h : ofSuffix? s = some u) :
    ∃ c cs, s.toList = c :: cs ∧ (∀ x ∈ c :: cs, Phrase.isUnitLetter x) ∧
      c ≠ '.' ∧ c ≠ 'e' ∧ c ≠ 'E' := by
  unfold ofSuffix? at h
  split at h <;> cases h <;>
    exact ⟨_, _, rfl, List.all_eq_true.1 (by rfl), by decide, by decide, by decide⟩

theorem split_suffix {ds : List Char} {s : String} {u : TimeUnit} (hd : ∀ c ∈ ds, c.isDigit)
    (h : ofSuffix? s = some u) : Digits.split (ds ++ s.toList) = (ds, s.toList) := by
  obtain ⟨c, cs, hl, hc, -⟩ := isUnitLetter_of_ofSuffix? h
  have hletter := isDigit_of_isUnitLetter (hc c List.mem_cons_self)
  apply Digits.split_append hd
  intro x hx
  rw [hl] at hx
  cases hx
  rw [hletter]
  exact Bool.false_ne_true

theorem mul_nanos_lt {u : TimeUnit} {n : Nat} (h : n * u.grains < UInt64.size) :
    n * u.nanos < UInt64.size * nanosPerSecond := by
  rw [nanos_eq_grains, ← Nat.mul_assoc]
  cases u.phraseUnit.isSubsecond with
  | true =>
    rw [if_pos rfl, Nat.mul_one]
    exact Nat.lt_of_lt_of_le h (by decide)
  | false =>
    rw [if_neg Bool.false_ne_true]
    exact Nat.mul_lt_mul_of_pos_right h (by decide)

def span (u : TimeUnit) (n : Nat) (h : n * u.grains < UInt64.size) : Span :=
  ⟨n * u.nanos, mul_nanos_lt h⟩

end TimeUnit

namespace Phrase

abbrev nothing : Span := .ofSeconds 0 (Nat.two_pow_pos 64)

theorem nanos_nothing : nothing.nanos = 0 := Nat.zero_mul _

theorem subsec_nothing : nothing.subsec = 0 := by
  unfold Span.subsec
  rw [nanos_nothing, Nat.zero_mod]

theorem add_nothing {seconds nanos : Nat} {s : Span} (hn : nanos < UInt64.size)
    (h : s.nanos = seconds * nanosPerSecond + nanos) : add nothing seconds nanos = .ok s := by
  unfold add
  simp only [nanos_nothing, subsec_nothing, Nat.zero_add, ← h, if_neg (Nat.not_le_of_lt hn),
    dif_pos s.nanos_lt]

/-- A number of units is refused where it leaves 64 bits in what the unit counts in. -/
theorem addWhole_nothing (u : TimeUnit) (n : Nat) :
    addWhole nothing u.phraseUnit n =
      if h : n * u.grains < UInt64.size then .ok (u.span n h) else fault .overflow := by
  unfold addWhole addCount
  rw [show grains u.phraseUnit u.phraseUnit.isSubsecond = u.grains from rfl]
  by_cases h : n * u.grains < UInt64.size
  · have hspan : (u.span n h).nanos = n * u.nanos := rfl
    have e := u.nanos_eq_grains
    rw [if_neg (Nat.not_le_of_lt h), dif_pos h]
    cases hs : u.phraseUnit.isSubsecond with
    | true =>
      rw [hs, if_pos rfl, Nat.mul_one] at e
      rw [if_pos rfl]
      apply add_nothing h
      rw [hspan, e, Nat.zero_mul, Nat.zero_add]
    | false =>
      rw [hs, if_neg Bool.false_ne_true] at e
      rw [if_neg Bool.false_ne_true]
      apply add_nothing (by decide)
      rw [hspan, e, Nat.add_zero, Nat.mul_assoc]
  · rw [if_pos (Nat.le_of_not_lt h), dif_neg h]
    rfl

/-- Digits and the suffix of a unit, as a part. -/
theorem starts_digits_suffix {ds : List Char} {suffix : String} {u : TimeUnit} (hne : ds ≠ [])
    (hd : ∀ c ∈ ds, c.isDigit) (hs : TimeUnit.ofSuffix? suffix = some u) :
    Starts (ds ++ suffix.toList) ⟨ds, none, suffix.toList⟩ [] := by
  obtain ⟨c, cs, hl, hc, -⟩ := TimeUnit.isUnitLetter_of_ofSuffix? hs
  obtain ⟨d, ds, rfl⟩ := List.exists_cons_of_ne_nil hne
  refine ⟨⟨[], List.forall_mem_nil _, ?_⟩, ?_, ends_nil⟩
  · rw [List.append_nil]
    rfl
  · constructor
    · exact fun x hx => Or.inl (hd x hx)
    · exact ⟨d, ds, rfl, hd d List.mem_cons_self⟩
    · exact fun _ h => nomatch h
    · exact ⟨c, cs, hl⟩
    · rw [hl]
      exact hc

/-- Digits and the suffix of a unit, read as a phrase: any number of digits, zeros in front
included. -/
theorem read_digits_suffix {ds : List Char} {suffix : String} {u : TimeUnit} (hne : ds ≠ [])
    (hd : ∀ c ∈ ds, c.isDigit) (hs : TimeUnit.ofSuffix? suffix = some u) :
    Phrase.read (ds ++ suffix.toList) =
      if h : Digits.value ds * u.grains < UInt64.size then .ok (u.span (Digits.value ds) h)
      else fault .overflow := by
  obtain ⟨offset, start, hfits, hnot⟩ :=
    readFrom_starts nothing (starts_digits_suffix hne hd hs) 0 0 true
  have hcount : Part.count ⟨ds, none, suffix.toList⟩ = Digits.value ds :=
    congrArg Digits.value (List.filter_eq_self.2 hd)
  have hadd : Part.addTo ⟨ds, none, suffix.toList⟩ nothing =
      addWhole nothing u.phraseUnit (Digits.value ds) := by
    unfold Part.addTo addPart
    rw [hcount, String.ofList_toList, TimeUnit.ofName?_of_ofSuffix? hs]
    dsimp only [Option.map_none]
    cases addWhole nothing u.phraseUnit (Digits.value ds) <;> rfl
  show readFrom nothing 0 (.between 0 true) (ds ++ suffix.toList) = _
  by_cases hn : Digits.value ds < UInt64.size
  · rw [hfits ⟨hcount ▸ hn, fun _ h => nomatch h⟩, hadd, addWhole_nothing]
    split <;> rfl
  · have hle : Digits.value ds ≤ Digits.value ds * u.grains :=
      Nat.le_mul_of_pos_right _ u.grains_pos
    rw [hnot fun h => hn (hcount ▸ h.count), dif_neg (by omega)]

end Phrase

namespace Binary64

theorem exponent?_of_letter {c : Char} (cs : List Char) (h : c ≠ 'e') (h' : c ≠ 'E') :
    exponent? (c :: cs) = none := by
  simp [exponent?, h, h']

theorem toLower_of_isDigit {c : Char} (h : c.isDigit) : c.toLower = c := by
  have hn := toNat_of_isDigit h
  unfold Char.toLower
  apply dif_neg
  rintro ⟨h1, -⟩
  have : 65 ≤ c.toNat := h1
  omega

theorem ofText?_of_isDigit {c : Char} (cs : List Char) (h : c.isDigit) :
    ofText? (c :: cs) = magnitudeOfText? false (c :: cs) := by
  unfold ofText?
  split
  · rename_i heq
    cases heq
    exact absurd h (by decide)
  · rename_i heq
    cases heq
    exact absurd h (by decide)
  · rfl

theorem ofList_ne_of_isDigit {c : Char} (cs : List Char) (h : c.isDigit) {word : String}
    (hw : word.toList.head?.any Char.isDigit = false) :
    String.ofList ((c :: cs).map Char.toLower) ≠ word := by
  rintro rfl
  rw [String.toList_ofList, List.map_cons, toLower_of_isDigit h, List.head?_cons, Option.any_some,
    h] at hw
  cases hw

/-- The text starts with a character that goes on no numeral. -/
def Breaks (cs : List Char) : Prop :=
  ∃ c rest, cs = c :: rest ∧ c.isDigit = false ∧ c ≠ '.' ∧ c ≠ 'e' ∧ c ≠ 'E'

theorem Breaks.isDigit_head {cs : List Char} (h : Breaks cs) {c : Char}
    (hc : cs.head? = some c) : c.isDigit = false := by
  obtain ⟨d, rest, rfl, hd, -⟩ := h
  cases hc
  exact hd

/-- A text is no numeral if its digits, perhaps with a point and more digits, are followed by
something else. -/
theorem ofText?_eq_none {c : Char} {cs : List Char} (h : c.isDigit)
    (hbreaks : Breaks (Digits.split (c :: cs)).2 ∨
      ∃ rest, (Digits.split (c :: cs)).2 = '.' :: rest ∧ Breaks (Digits.split rest).2) :
    ofText? (c :: cs) = none := by
  have hword (word : String) (hw : word.toList.head?.any Char.isDigit = false) :=
    ofList_ne_of_isDigit cs h hw
  rw [ofText?_of_isDigit _ h]
  unfold magnitudeOfText?
  simp only [if_neg (not_or.2 ⟨hword "inf" (by decide),
    hword "infinity" (by decide)⟩), if_neg (hword "nan" (by decide))]
  generalize Digits.split (c :: cs) = p at hbreaks ⊢
  obtain ⟨whole, after⟩ := p
  dsimp only at hbreaks ⊢
  rcases hbreaks with ⟨x, rest, rfl, -, hpoint, he, hE⟩ | ⟨rest, rfl, x, rest', hrest, -, -, he, hE⟩
  · split
    · rfl
    split
    · rename_i heq
      cases heq
      contradiction
    · rw [exponent?_of_letter rest he hE]
      rfl
  · split
    · rfl
    · show Option.map _ (exponent? (Digits.split rest).2) = none
      rw [hrest, exponent?_of_letter rest' he hE]
      rfl

theorem ofText?_digits_suffix {ds : List Char} {suffix : String} {u : TimeUnit}
    (hne : ds ≠ []) (hd : ∀ c ∈ ds, c.isDigit) (hs : TimeUnit.ofSuffix? suffix = some u) :
    ofText? (ds ++ suffix.toList) = none := by
  obtain ⟨c, cs, hl, hc, hpoint, he, hE⟩ := TimeUnit.isUnitLetter_of_ofSuffix? hs
  have hsplit := TimeUnit.split_suffix hd hs
  obtain ⟨d, ds, rfl⟩ := List.exists_cons_of_ne_nil hne
  apply ofText?_eq_none (hd d List.mem_cons_self)
  left
  show Breaks (Digits.split (d :: ds ++ suffix.toList)).2
  rw [hsplit]
  exact ⟨c, cs, hl, isDigit_of_isUnitLetter (hc c List.mem_cons_self), hpoint, he, hE⟩

end Binary64

/-- There are no blanks around digits and the suffix of a unit. -/
theorem Text.trim_digits_suffix {ds : List Char} {suffix : String} {u : TimeUnit} (hne : ds ≠ [])
    (hd : ∀ c ∈ ds, c.isDigit) (hs : TimeUnit.ofSuffix? suffix = some u) :
    trim (ds ++ suffix.toList) = ds ++ suffix.toList := by
  apply trim_eq_self
  · intro x hx
    rw [List.head?_append, Option.or_of_isSome (List.isSome_head?.2 hne)] at hx
    exact isBlank_of_isDigit (hd x (List.mem_of_head? hx))
  · intro x hx
    obtain ⟨c, cs, hl, hc, -⟩ := TimeUnit.isUnitLetter_of_ofSuffix? hs
    rw [hl, List.getLast?_append, List.getLast?_eq_some_getLast (List.cons_ne_nil c cs)] at hx
    cases hx
    exact isBlank_of_isUnitLetter (hc _ (List.getLast_mem _))

namespace Duration

theorem read_wireText {input suffix : String} {ds : List Char} {u : TimeUnit} (unit : TimeUnit)
    (hi : input.toList = ds ++ suffix.toList) (hne : ds ≠ []) (hd : ∀ c ∈ ds, c.isDigit)
    (hs : TimeUnit.ofSuffix? suffix = some u) :
    Duration.read input unit =
      if h : Digits.value ds * u.grains < UInt64.size then
        .ok (Seconds.ofSpan (u.span (Digits.value ds) h))
      else .error (.malformed input .overflow) := by
  have htrim : Text.trim input.toList = ds ++ suffix.toList := by
    rw [hi, Text.trim_digits_suffix hne hd hs]
  have hphrase := Phrase.read_digits_suffix hne hd hs
  unfold Duration.read
  simp only [htrim, if_neg (List.append_ne_nil_of_left_ne_nil hne _),
    Binary64.ofText?_digits_suffix hne hd hs, hphrase]
  by_cases h : Digits.value ds * u.grains < UInt64.size
  · rw [dif_pos h, dif_pos h]
  · rw [dif_neg h, dif_neg h]
    rfl

end Duration

namespace Span

theorem longestUnit_dvd (nanos : Nat) : nanos % (longestUnit nanos).nanos = 0 := by
  unfold longestUnit
  cases h : TimeUnit.all.find? fun u => nanos % u.nanos = 0 with
  | none => exact Nat.mod_one nanos
  | some u => simpa using List.find?_some h

/-- A whole number of seconds is never written in a unit below the second. -/
theorem isSubsecond_longestUnit {nanos : Nat} (h : nanos % nanosPerSecond = 0) :
    (longestUnit nanos).phraseUnit.isSubsecond = false := by
  unfold longestUnit TimeUnit.all
  simp only [List.find?_cons]
  split
  · rfl
  split
  · rfl
  · rw [show decide (nanos % TimeUnit.seconds.nanos = 0) = true from decide_eq_true h]
    rfl

/-- The text of a span is a number and a suffix, zero included. -/
theorem toList_text (s : Span) :
    ∃ u n, s.text.toList = Digits.ofNat n ++ (TimeUnit.suffix u).toList ∧
      n * u.nanos = s.nanos ∧ (s.subsec = 0 → u.phraseUnit.isSubsecond = false) := by
  unfold text
  by_cases hz : s.nanos = 0
  · rw [if_pos hz]
    exact ⟨.seconds, 0, rfl, by rw [hz, Nat.zero_mul], fun _ => rfl⟩
  · rw [if_neg hz]
    refine ⟨longestUnit s.nanos, s.nanos / (longestUnit s.nanos).nanos, ?_, ?_, ?_⟩
    · rw [String.toList_append, Digits.toList_toString]
    · exact Nat.div_mul_cancel (Nat.dvd_of_mod_eq_zero (longestUnit_dvd s.nanos))
    · exact isSubsecond_longestUnit

theorem text_injective {s t : Span} (h : s.text = t.text) : s = t := by
  obtain ⟨u, n, hs, hn, -⟩ := s.toList_text
  obtain ⟨v, m, ht, hm, -⟩ := t.toList_text
  have hsplit (u : TimeUnit) (n : Nat) :
      Digits.split (Digits.ofNat n ++ u.suffix.toList) = (Digits.ofNat n, u.suffix.toList) :=
    TimeUnit.split_suffix (fun _ => Digits.isDigit_of_mem_ofNat) u.ofSuffix?_suffix
  have hu := hsplit u n
  rw [← hs, h, ht, hsplit v m] at hu
  obtain ⟨hdigits, hsuffix⟩ := Prod.mk.inj hu
  have hnm : m = n := by
    rw [← Digits.value_ofNat m, hdigits, Digits.value_ofNat]
  have huv : v = u := by
    have hv' := v.ofSuffix?_suffix
    rw [String.toList_inj.1 hsuffix, u.ofSuffix?_suffix] at hv'
    exact (Option.some.inj hv').symm
  cases s
  cases t
  congr 1
  dsimp only at hn hm
  rw [← hn, ← hm, hnm, huv]

/-- What the reader can count: nanoseconds of 64 bits, or whole seconds. -/
def IsReadable (s : Span) : Prop := s.subsec = 0 ∨ s.nanos < UInt64.size

theorem IsReadable.mul_grains_lt {s : Span} {u : TimeUnit} {n : Nat} (h : s.IsReadable)
    (hnanos : n * u.nanos = s.nanos)
    (hsub : s.subsec = 0 → u.phraseUnit.isSubsecond = false) : n * u.grains < UInt64.size := by
  have he := u.nanos_eq_grains
  rcases h with h | h
  · rw [hsub h, if_neg Bool.false_ne_true] at he
    rw [he, ← Nat.mul_assoc] at hnanos
    have hlt := s.nanos_lt
    rw [← hnanos] at hlt
    exact Nat.lt_of_mul_lt_mul_right hlt
  · have hle : n * u.grains ≤ n * u.nanos := by
      rw [he, ← Nat.mul_assoc]
      apply Nat.le_mul_of_pos_right
      split <;> decide
    exact Nat.lt_of_le_of_lt hle (hnanos ▸ h)

theorem eq_span {s : Span} {u : TimeUnit} {n : Nat} (hnanos : n * u.nanos = s.nanos)
    (h : n * u.grains < UInt64.size) : u.span n h = s := by
  cases s
  unfold TimeUnit.span
  congr 1

end Span

namespace Duration

theorem read_text_eq (s : Span) (unit : TimeUnit) : ∃ (u : TimeUnit) (n : Nat),
    n * u.nanos = s.nanos ∧ (s.subsec = 0 → u.phraseUnit.isSubsecond = false) ∧
      Duration.read s.text unit =
        if h : n * u.grains < UInt64.size then .ok (Seconds.ofSpan (u.span n h))
        else .error (.malformed s.text .overflow) := by
  obtain ⟨u, n, htext, hnanos, hsub⟩ := s.toList_text
  have hread := read_wireText unit htext (Nat.toDigits_ne_nil) (fun _ => Digits.isDigit_of_mem_ofNat)
    u.ofSuffix?_suffix
  have hvalue : Digits.value (Digits.ofNat n) = n := Digits.value_ofNat n
  rw [hvalue] at hread
  exact ⟨u, n, hnanos, hsub, hread⟩

theorem read_text {s : Span} (unit : TimeUnit) (h : s.IsReadable) :
    Duration.read s.text unit = .ok (Seconds.ofSpan s) := by
  obtain ⟨u, n, hnanos, hsub, hread⟩ := read_text_eq s unit
  have hgrains := h.mul_grains_lt hnanos hsub
  rw [hread, dif_pos hgrains, Span.eq_span hnanos hgrains]

/-- A fraction of a second is written in a unit that is counted in nanoseconds, and then there
must not be too many of them. -/
theorem exists_read_text_iff {s : Span} (unit : TimeUnit) :
    (∃ x, Duration.read s.text unit = .ok x) ↔ s.IsReadable := by
  constructor
  · rintro ⟨x, hx⟩
    obtain ⟨u, n, hnanos, -, hread⟩ := read_text_eq s unit
    have hgrains : n * u.grains < UInt64.size := by
      apply Decidable.of_not_not
      intro h
      rw [hread, dif_neg h] at hx
      cases hx
    have he := u.nanos_eq_grains
    cases hs : u.phraseUnit.isSubsecond with
    | true =>
      rw [hs, if_pos rfl, Nat.mul_one] at he
      right
      rwa [← hnanos, he]
    | false =>
      rw [hs, if_neg Bool.false_ne_true] at he
      left
      unfold Span.subsec
      rw [← hnanos, he, ← Nat.mul_assoc]
      exact Nat.mul_mod_left _ _
  · exact fun h => ⟨_, read_text unit h⟩

/-- What is read is a bare number or else a phrase. -/
theorem read_cases {s : String} {unit : TimeUnit} {x : Seconds}
    (h : Duration.read s unit = .ok x) :
    (∃ v, Binary64.ofText? (Text.trim s.toList) = some v ∧ ofNumber v unit = .ok x) ∨
      Binary64.ofText? (Text.trim s.toList) = none ∧
        ∃ span, Phrase.read (Text.trim s.toList) = .ok span ∧ Seconds.ofSpan span = x := by
  unfold Duration.read at h
  dsimp only at h
  split at h
  · cases h
  split at h
  · rename_i v hv
    exact Or.inl ⟨v, hv, h⟩
  · rename_i hv
    split at h
    · rename_i span hspan
      exact Or.inr ⟨hv, span, hspan, Except.ok.inj h⟩
    · cases h
    · cases h

end Duration

end ApiGateway
