/-!
# Blank text

The White_Space property, trimming, and texts without visible content.
-/

set_option autoImplicit false

namespace ApiGateway.Text

/-- White_Space: the ASCII and Latin-1 controls and spaces, and the separators. -/
def isBlank (c : Char) : Bool :=
  let n := c.toNat
  (9 ≤ n && n ≤ 13) || n == 0x20 || n == 0x85 || n == 0xa0 || n == 0x1680 ||
    (0x2000 ≤ n && n ≤ 0x200a) || n == 0x2028 || n == 0x2029 || n == 0x202f || n == 0x205f ||
    n == 0x3000

/-- A text without blanks at either end. -/
def trim (cs : List Char) : List Char :=
  ((cs.dropWhile isBlank).reverse.dropWhile isBlank).reverse

/-- Nothing but blanks, or nothing at all. -/
def allBlank (s : String) : Bool := s.toList.all isBlank

theorem isBlank_eq_false {c : Char} (lo : 0x20 < c.toNat) (hi : c.toNat < 0x1680)
    (h : c.toNat ≠ 0x85) (h' : c.toNat ≠ 0xa0) : isBlank c = false := by
  unfold isBlank
  generalize c.toNat = n at lo hi h h' ⊢
  simp
  omega

theorem dropWhile_eq_nil_iff {p : Char → Bool} {cs : List Char} :
    cs.dropWhile p = [] ↔ cs.all p := by
  induction cs with
  | nil => simp
  | cons c cs ih => by_cases h : p c <;> simp [h, ih]

/-- A text is what is trimmed of it, between blanks. -/
theorem exists_trim (cs : List Char) :
    ∃ front back, (∀ c ∈ front, isBlank c) ∧ (∀ c ∈ back, isBlank c) ∧
      cs = front ++ (trim cs ++ back) ∧ ∀ c, (trim cs).head? = some c → isBlank c = false := by
  have hback : cs.dropWhile isBlank =
      trim cs ++ ((cs.dropWhile isBlank).reverse.takeWhile isBlank).reverse := by
    unfold trim
    rw [← List.reverse_append, List.takeWhile_append_dropWhile, List.reverse_reverse]
  refine ⟨cs.takeWhile isBlank, ((cs.dropWhile isBlank).reverse.takeWhile isBlank).reverse,
    fun c => List.all_eq_true.1 List.all_takeWhile c, ?_, ?_, ?_⟩
  · intro c hc
    exact List.all_eq_true.1 List.all_takeWhile c (List.mem_reverse.1 hc)
  · rw [← hback, List.takeWhile_append_dropWhile]
  · intro c hc
    have hhead : (cs.dropWhile isBlank).head? = some c := by
      rw [hback, List.head?_append, hc]
      rfl
    have hnot := List.head?_dropWhile_not isBlank cs
    rw [hhead] at hnot
    simpa using hnot

theorem allBlank_iff {s : String} : allBlank s ↔ trim s.toList = [] := by
  unfold allBlank trim
  rw [List.reverse_eq_nil_iff, dropWhile_eq_nil_iff, List.all_reverse]
  induction s.toList with
  | nil => simp
  | cons c cs ih =>
    by_cases h : isBlank c
    · simpa [h, List.dropWhile_cons] using ih
    · simp [h]

end ApiGateway.Text
