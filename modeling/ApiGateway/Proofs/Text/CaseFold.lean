import ApiGateway.Text.Blank
import ApiGateway.Text.CaseFold
import Mathlib.Data.List.Forall2

/-!
# Texts in another casing

Two texts are the same without regard to case exactly if one becomes the other when some of its
letters are put in lower or upper case (`recased_iff`). Whether a text is blank does not depend on
its casing.
-/

set_option autoImplicit false

namespace ApiGateway.Text

theorem toNat_toLower (c : Char) :
    c.toLower.toNat = if 65 ≤ c.toNat ∧ c.toNat ≤ 90 then c.toNat + 32 else c.toNat := by
  have hgap : ('a'.val - 'A'.val).toNat = 32 := rfl
  unfold Char.toLower
  split
  · rename_i h
    have lo : 65 ≤ c.toNat := UInt32.le_iff_toNat_le.1 h.1
    have hi : c.toNat ≤ 90 := UInt32.le_iff_toNat_le.1 h.2
    rw [if_pos ⟨lo, hi⟩]
    show (c.val + ('a'.val - 'A'.val)).toNat = c.toNat + 32
    rw [UInt32.toNat_add, hgap, Char.toNat_val]
    omega
  · rename_i h
    rw [if_neg]
    rintro ⟨lo, hi⟩
    exact h ⟨UInt32.le_iff_toNat_le.2 lo, UInt32.le_iff_toNat_le.2 hi⟩

theorem toNat_toUpper (c : Char) :
    c.toUpper.toNat = if 97 ≤ c.toNat ∧ c.toNat ≤ 122 then c.toNat - 32 else c.toNat := by
  -- Words wrap, so that the way up is the gap below `2³²`.
  have hgap : ('A'.val - 'a'.val).toNat = 2 ^ 32 - 32 := rfl
  unfold Char.toUpper
  split
  · rename_i h
    have lo : 97 ≤ c.toNat := UInt32.le_iff_toNat_le.1 h.1
    have hi : c.toNat ≤ 122 := UInt32.le_iff_toNat_le.1 h.2
    rw [if_pos ⟨lo, hi⟩]
    show (c.val + ('A'.val - 'a'.val)).toNat = c.toNat - 32
    rw [UInt32.toNat_add, hgap, Char.toNat_val]
    omega
  · rename_i h
    rw [if_neg]
    rintro ⟨lo, hi⟩
    exact h ⟨UInt32.le_iff_toNat_le.2 lo, UInt32.le_iff_toNat_le.2 hi⟩

theorem toLower_eq_toLower_iff {x y : Char} :
    x.toLower = y.toLower ↔ y = x ∨ y = x.toLower ∨ y = x.toUpper := by
  simp only [← Char.toNat_inj, toNat_toLower, toNat_toUpper]
  generalize x.toNat = m, y.toNat = n
  split <;> split <;> split <;> omega

/-- The second text is the first with some of its ASCII letters in lower or upper case. -/
def Recased (a b : String) : Prop :=
  List.Forall₂ (fun x y : Char => y = x ∨ y = x.toLower ∨ y = x.toUpper) a.toList b.toList

theorem recased_iff {a b : String} : Recased a b ↔ same a b := by
  unfold Recased
  simp only [← toLower_eq_toLower_iff]
  rw [same_iff, fold, fold, ← List.forall₂_eq_eq_eq, List.forall₂_map_left_iff,
    List.forall₂_map_right_iff]

theorem isBlank_toLower (c : Char) : isBlank c.toLower = isBlank c := by
  have e := toNat_toLower c
  split at e
  · rw [isBlank_eq_false (c := c) (by omega) (by omega) (by omega) (by omega)]
    apply isBlank_eq_false <;> omega
  · rw [Char.toNat_inj.1 e]

theorem allBlank_eq_of_same {a b : String} (h : same a b = true) : allBlank a = allBlank b := by
  have hfold (s : String) : allBlank s = (fold s).all isBlank := by
    unfold allBlank fold
    rw [List.all_map]
    congr 1
    exact funext fun c => (isBlank_toLower c).symm
  rw [hfold, hfold, same_iff.1 h]

end ApiGateway.Text
