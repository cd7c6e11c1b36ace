import HotSchema.Healing.Shape
import Mathlib.Data.List.Forall2
import Mathlib.Tactic.SplitIfs
/-!
# The forms of a letter

The patterns are written in small letters and signs. A character counts as one of these exactly if it is the same, or its
capital, or one of the two further letters that fold to a small letter of ASCII.
-/

namespace HotSchema

/-- The letter itself, its capital, and for two letters one form more: the sign of the kelvin and the long s. -/
def FormOf (c x : Char) : Prop := x = c ∨ x = c.toUpper ∨ (c = 'k' ∧ x = '\u212A') ∨ (c = 's' ∧ x = '\u017F')

theorem toNat_toLower (c : Char) : c.toLower.toNat = if 65 ≤ c.toNat ∧ c.toNat ≤ 90 then c.toNat + 32 else c.toNat := by
  have hrange : (c.val ≥ 'A'.val ∧ c.val ≤ 'Z'.val) ↔ 65 ≤ c.toNat ∧ c.toNat ≤ 90 := by
    simp only [ge_iff_le, UInt32.le_iff_toNat_le]
    rfl
  unfold Char.toLower
  split
  · next h =>
    have hbounds := hrange.1 h
    rw [if_pos hbounds]
    show (c.val + ('a'.val - 'A'.val)).toNat = c.val.toNat + 32
    rw [UInt32.toNat_add, show ('a'.val - 'A'.val).toNat = 32 from rfl]
    exact Nat.mod_eq_of_lt (show c.toNat + 32 < _ by omega)
  · next h => rw [if_neg fun hbounds => h (hrange.2 hbounds)]

theorem toNat_toUpper (c : Char) : c.toUpper.toNat = if 97 ≤ c.toNat ∧ c.toNat ≤ 122 then c.toNat - 32 else c.toNat := by
  have hrange : ('a'.val ≤ c.val ∧ c.val ≤ 'z'.val) ↔ 97 ≤ c.toNat ∧ c.toNat ≤ 122 := by
    simp only [UInt32.le_iff_toNat_le]
    rfl
  unfold Char.toUpper
  split
  · next h =>
    have hbounds := hrange.1 h
    rw [if_pos hbounds]
    show (c.val + ('A'.val - 'a'.val)).toNat = c.val.toNat - 32
    -- The sum runs over the word, which takes thirty-two off.
    have hover : c.val.toNat + 4294967264 = c.toNat - 32 + 4294967296 := by
      show c.toNat + 4294967264 = _
      omega
    rw [UInt32.toNat_add, show ('A'.val - 'a'.val).toNat = 4294967264 from rfl, hover, Nat.add_mod_right]
    exact Nat.mod_eq_of_lt (by omega)
  · next h => rw [if_neg fun hbounds => h (hrange.2 hbounds)]

theorem toLower_eq_iff {c x : Char} (hc : c.toLower = c) : x.toLower = c ↔ x = c ∨ x = c.toUpper := by
  simp only [← Char.toNat_inj, toNat_toLower, toNat_toUpper] at hc ⊢
  split_ifs at hc ⊢ <;> omega

/-- No capital is beyond ASCII but of a letter beyond it. -/
theorem toUpper_ne {c d : Char} (hne : c ≠ d) (hd : 122 < d.toNat) : c.toUpper ≠ d := by
  intro heq
  have hnat := (toNat_toUpper c).symm.trans (congrArg Char.toNat heq)
  split_ifs at hnat
  · omega
  · exact hne (Char.toNat_inj.1 hnat)

/-- A character counts as a small letter or sign exactly if it is one of its forms. -/
theorem foldCase_eq_iff {c x : Char} (hc : foldCase c = c) : foldCase x = c ↔ FormOf c x := by
  have hkelvin : c ≠ '\u212A' := by
    rintro rfl
    exact absurd hc (by decide)
  have hlong : c ≠ '\u017F' := by
    rintro rfl
    exact absurd hc (by decide)
  have hlower : c.toLower = c := by simpa [foldCase, hkelvin, hlong] using hc
  unfold foldCase FormOf
  split_ifs with hk hs
  · subst hk
    simp [Ne.symm hkelvin, Ne.symm (toUpper_ne hkelvin (by decide)), eq_comm]
  · subst hs
    simp [Ne.symm hlong, Ne.symm (toUpper_ne hlong (by decide)), eq_comm]
  · rw [toLower_eq_iff hlower]
    simp [hk, hs]

/-- The text spells the word, each letter in one of its forms. -/
def Spells (word : String) (s : List Char) : Prop := List.Forall₂ FormOf word.toList s

def SpellsOne (words : List String) (s : List Char) : Prop := ∃ word ∈ words, Spells word s

theorem forall₂_formOf_iff {letters s : List Char} (h : letters.map foldCase = letters) :
    List.Forall₂ FormOf letters s ↔ s.map foldCase = letters := by
  induction letters generalizing s with
  | nil => rw [List.forall₂_nil_left_iff, List.map_eq_nil_iff]
  | cons c letters ih =>
    obtain ⟨hc, hletters⟩ := List.cons.inj h
    rcases s with _ | ⟨x, s⟩
    · exact iff_of_false (by rintro ⟨⟩) (by simp)
    · rw [List.forall₂_cons, ih hletters, List.map_cons, List.cons.injEq, foldCase_eq_iff hc]

end HotSchema
