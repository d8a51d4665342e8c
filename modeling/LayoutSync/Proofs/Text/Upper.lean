import Mathlib.Data.String.Basic
import LayoutSync.Text.Upper

namespace LayoutSync.Text

lemma isUpper_iff {c : Char} : c.isUpper = true ↔ 65 ≤ c.toNat ∧ c.toNat ≤ 90 := by
  change decide ('A'.val ≤ c.val ∧ c.val ≤ 'Z'.val) = true ↔ _
  rw [decide_eq_true_eq, UInt32.le_iff_toNat_le, UInt32.le_iff_toNat_le]
  rfl

lemma isLower_iff {c : Char} : c.isLower = true ↔ 97 ≤ c.toNat ∧ c.toNat ≤ 122 := by
  change (decide ('a'.val ≤ c.val) && decide (c.val ≤ 'z'.val)) = true ↔ _
  rw [Bool.and_eq_true, decide_eq_true_eq, decide_eq_true_eq, UInt32.le_iff_toNat_le,
    UInt32.le_iff_toNat_le]
  rfl

lemma isAlphanum_eq (c : Char) : c.isAlphanum = (c.isUpper || c.isLower || c.isDigit) := rfl

lemma toUpper_cases (c : Char) : c.toUpper = c ∨
    97 ≤ c.toNat ∧ c.toNat ≤ 122 ∧ c.toUpper.toNat = c.toNat - 32 := by
  by_cases hc : 'a'.val ≤ c.val ∧ c.val ≤ 'z'.val
  · have h1 : 97 ≤ c.toNat := UInt32.le_iff_toNat_le.mp hc.1
    have h2 : c.toNat ≤ 122 := UInt32.le_iff_toNat_le.mp hc.2
    have hu : c.toUpper.val = c.val + ('A'.val - 'a'.val) := by
      delta Char.toUpper
      rw [dif_pos hc]
    have hn := congrArg UInt32.toNat hu
    rw [UInt32.toNat_add] at hn
    change c.toUpper.toNat = (c.toNat + 4294967264) % 4294967296 at hn
    exact .inr ⟨h1, h2, by omega⟩
  · exact .inl (dif_neg hc)

lemma isAlphanum_toUpper (c : Char) : c.toUpper.isAlphanum = c.isAlphanum := by
  rcases toUpper_cases c with h | ⟨h1, h2, h3⟩
  · rw [h]
  · have hl : c.isLower = true := isLower_iff.mpr ⟨h1, h2⟩
    have hu : c.toUpper.isUpper = true := isUpper_iff.mpr (by omega)
    simp [isAlphanum_eq, hl, hu]

lemma toUpper_toUpper (c : Char) : c.toUpper.toUpper = c.toUpper := by
  rcases toUpper_cases c with h | ⟨h1, h2, h3⟩
  · rw [h, h]
  · rcases toUpper_cases c.toUpper with h | ⟨h4, h5, h6⟩
    · exact h
    · omega

lemma toLower_cases (c : Char) : (c.toNat < 65 ∨ 90 < c.toNat) ∧ c.toLower = c ∨
    65 ≤ c.toNat ∧ c.toNat ≤ 90 ∧ c.toLower.toNat = c.toNat + 32 := by
  by_cases hc : c.val ≥ 'A'.val ∧ c.val ≤ 'Z'.val
  · have h1 : 65 ≤ c.toNat := UInt32.le_iff_toNat_le.mp hc.1
    have h2 : c.toNat ≤ 90 := UInt32.le_iff_toNat_le.mp hc.2
    have hl : c.toLower.val = c.val + ('a'.val - 'A'.val) := by
      delta Char.toLower
      rw [dif_pos hc]
    have hn := congrArg UInt32.toNat hl
    rw [UInt32.toNat_add] at hn
    change c.toLower.toNat = (c.toNat + 32) % 4294967296 at hn
    exact .inr ⟨h1, h2, by omega⟩
  · have hu : ¬ (65 ≤ c.toNat ∧ c.toNat ≤ 90) := fun h =>
      hc (of_decide_eq_true (isUpper_iff.mpr h))
    exact .inl ⟨by omega, dif_neg hc⟩

lemma isAlphanum_toLower (c : Char) : c.toLower.isAlphanum = c.isAlphanum := by
  rcases toLower_cases c with ⟨-, h⟩ | ⟨h1, h2, h3⟩
  · rw [h]
  · have hu : c.isUpper = true := isUpper_iff.mpr ⟨h1, h2⟩
    have hl : c.toLower.isLower = true := isLower_iff.mpr (by omega)
    simp [isAlphanum_eq, hl, hu]

lemma toLower_toLower (c : Char) : c.toLower.toLower = c.toLower := by
  rcases toLower_cases c with ⟨-, h⟩ | ⟨h1, h2, h3⟩
  · rw [h, h]
  · rcases toLower_cases c.toLower with ⟨-, h⟩ | ⟨h4, h5, h6⟩
    · exact h
    · omega

lemma toLower_toUpper (c : Char) : c.toUpper.toLower = c.toLower := by
  rcases toUpper_cases c with h | ⟨h1, h2, h3⟩
  · rw [h]
  · rcases toLower_cases c.toUpper with ⟨h4, -⟩ | ⟨h4, h5, h6⟩
    · omega
    · rcases toLower_cases c with ⟨-, h⟩ | ⟨h7, h8, h9⟩
      · rw [h, ← Char.toNat_inj]
        omega
      · omega

lemma upper_of_isAlphanum {c : Char} (h : c.isAlphanum = true) : upper c = [c.toUpper] := by
  apply upper_of_lt
  rw [isAlphanum_eq, Bool.or_eq_true, Bool.or_eq_true, isUpper_iff, isLower_iff,
    Char.isDigit_iff_toNat] at h
  change (_ ∨ _) ∨ 48 ≤ c.toNat ∧ c.toNat ≤ 57 at h
  omega

lemma slash_not_mem_expansions : ∀ e ∈ upperExpansions, '/' ∉ e.2.map Char.ofNat := by
  decide +kernel

lemma slash_before_shifts : ∀ s ∈ upperShifts, 47 < s.first + s.distance := by
  decide +kernel

lemma toNat_of_ofNat {n : Nat} (h : Char.ofNat n = '/') : n = 47 := by
  have hn : (Char.ofNat n).toNat = 47 := by
    rw [h]
    rfl
  by_cases hv : n.isValidChar
  · have ht : (Char.ofNat n).toNat = n := by
      rw [Char.ofNat, dif_pos hv]
      rfl
    exact ht.symm.trans hn
  · rw [Char.ofNat, dif_neg hv] at hn
    cases hn

lemma shift?_ne_slash {c d : Char} (h : CaseShift.shift? upperShifts c = some d) : d ≠ '/' := by
  obtain ⟨s, hs, rfl⟩ := Option.map_eq_some_iff.mp h
  have hc := List.find?_some hs
  have hm := slash_before_shifts s (List.mem_of_find?_eq_some hs)
  have hf : (s.first : Int) ≤ c.toNat := by
    simp only [CaseShift.covers, Bool.and_eq_true, decide_eq_true_eq] at hc
    exact hc.1.1
  intro he
  have hn := toNat_of_ofNat he
  omega

lemma toUpper_ne_slash {c : Char} (h : c ≠ '/') : c.toUpper ≠ '/' := by
  rcases toUpper_cases c with hc | ⟨h1, h2, hc⟩
  · rwa [hc]
  · intro he
    rw [he] at hc
    change 47 = c.toNat - 32 at hc
    omega

lemma slash_not_mem_upper {c : Char} (h : c ≠ '/') : '/' ∉ upper c := by
  unfold upper
  split
  · exact mt List.mem_singleton.mp (toUpper_ne_slash h).symm
  · split
    next e he => exact slash_not_mem_expansions _ (List.mem_of_find?_eq_some he)
    · cases hs : CaseShift.shift? upperShifts c with
      | none => simpa using h.symm
      | some d => simpa using (shift?_ne_slash hs).symm

lemma slash_not_mem_capitalize {cs : List Char} (h : '/' ∉ cs) : '/' ∉ capitalize cs := by
  cases cs with
  | nil => exact h
  | cons c cs =>
    rw [List.mem_cons, not_or] at h
    rw [capitalize, List.mem_append, not_or]
    exact ⟨slash_not_mem_upper (Ne.symm h.1), h.2⟩

end LayoutSync.Text
