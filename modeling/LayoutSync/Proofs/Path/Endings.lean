import LayoutSync.Proofs.Path.Siblings

namespace LayoutSync.Path

open Text

lemma join_end (p q : String) : ∃ l, (join p q).toList = l ++ q.toList := by
  unfold join
  split
  · exact ⟨[], rfl⟩
  · split
    · exact ⟨_, String.toList_append⟩
    · exact ⟨_, String.toList_append⟩

lemma setExtension_end (p extension : String) :
    fileName? p = none ∧ setExtension p extension = p ∨
      ∃ l, (setExtension p extension).toList = l ++ extension.toList := by
  unfold setExtension stem?
  cases hf : fileName? p with
  | none => exact .inl ⟨rfl, rfl⟩
  | some n => exact .inr ⟨_, String.toList_append⟩

lemma withExtension_end {p extension : String}
    (h : fileName? (withExtension p extension) ≠ none) :
    ∃ l, (withExtension p extension).toList = l ++ extension.toList := by
  unfold withExtension at h ⊢
  split at h <;>
    (rcases setExtension_end _ extension with ⟨hn, he⟩ | hl
     · rw [he] at h
       exact absurd hn h
     · exact hl)

lemma dropNames_end (k : Nat) (ns : List (List Char)) : dropNames k ns <:+ ns := by
  induction ns generalizing k with
  | nil => cases k <;> exact List.suffix_refl _
  | cons n ns ih =>
    cases k with
    | zero => exact List.suffix_refl _
    | succ k =>
      rw [dropNames]
      split
      · exact (ih (k + 1)).trans (List.suffix_cons n ns)
      · exact (ih k).trans (List.suffix_cons n ns)

lemma trimEnd_of_last {n : List Char} (hn : isIdle n = false) (ks : List (List Char)) :
    trimEnd (ks ++ [n]) = ks ++ [n] := by
  rw [trimEnd_eq, List.rdropWhile_concat_neg _ _ _ (by simp [hn])]

lemma getLast?_dropComponents {cs n : List Char} {ks : List (List Char)} (hn : names cs = ks ++ [n])
    (hi : isIdle n = false) (k : Nat) (h : dropComponents cs k ≠ []) :
    (dropComponents cs k).getLast? = cs.getLast? := by
  have hne := ne_nil_of_not_isIdle hi
  cases k with
  | zero => rw [dropComponents, hn, trimEnd_of_last hi, ← hn, lead_append_names]
  | succ k =>
    rw [dropComponents] at h ⊢
    have hs := (List.dropWhile_suffix isIdle).trans
      (dropNames_end (if lead cs = [] then k + 1 else k) (names cs))
    generalize (dropNames _ (names cs)).dropWhile isIdle = ms at h hs
    rcases List.eq_nil_or_concat' ms with rfl | ⟨ls, z, rfl⟩
    · exact absurd rfl h
    · obtain ⟨as, ha⟩ := hs
      rw [hn, ← List.append_assoc] at ha
      obtain rfl := List.singleton_inj.mp (List.append_inj' ha rfl).2
      rw [trimEnd_of_last hi, getLast?_ofNames_concat ls hne,
        getLast?_of_names hn hne]

end LayoutSync.Path
