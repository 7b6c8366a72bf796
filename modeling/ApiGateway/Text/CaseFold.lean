/-!
# Names without regard to case

ASCII letters of either case are equal; every other character is equal to itself only.
-/

set_option autoImplicit false

namespace ApiGateway.Text

def fold (s : String) : List Char := s.toList.map Char.toLower

def same (a b : String) : Bool := fold a == fold b

theorem same_iff {a b : String} : same a b ↔ fold a = fold b := by simp [same]

@[simp] theorem same_refl (a : String) : same a a := by simp [same]

theorem same_comm (a b : String) : same a b = same b a := by
  simp only [same]; exact Bool.beq_comm

theorem same_trans {a b c : String} (h : same a b) (k : same b c) : same a c :=
  same_iff.2 ((same_iff.1 h).trans (same_iff.1 k))

theorem same_eq_false_of_same {a b c : String} (h : same a b = false) (k : same b c) :
    same a c = false := by
  rw [Bool.eq_false_iff]
  intro hc
  rw [same_comm] at k
  rw [same_trans hc k] at h
  cases h

end ApiGateway.Text
