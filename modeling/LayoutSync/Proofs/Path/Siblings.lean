import LayoutSync.Proofs.Path.Steps

namespace LayoutSync.Path

open Text

def IsAround (d : List Char) : Prop := d = [] ∨ d.getLast? = some '/'

section Split

variable {d e m n : List Char}

lemma eq_nil_of_around_append {r : List Char} (h : IsAround (d ++ r)) (hr : '/' ∉ r) : r = [] := by
  cases hl : r.getLast? with
  | none => exact List.getLast?_eq_none_iff.mp hl
  | some c =>
    rcases h with h | h
    · exact (List.append_eq_nil_iff.mp h).2
    · rw [List.getLast?_append, hl, Option.some_or] at h
      obtain rfl := Option.some.inj h
      exact absurd (List.mem_of_getLast? hl) hr

lemma around_unique (hd : IsAround d) (he : IsAround e) (hm : '/' ∉ m) (hn : '/' ∉ n)
    (h : d ++ m = e ++ n) : d = e ∧ m = n := by
  rcases List.append_eq_append_iff.mp h with ⟨r, rfl, rfl⟩ | ⟨r, rfl, rfl⟩
  · obtain rfl := eq_nil_of_around_append he fun hr => hm (by simp [hr])
    exact ⟨(List.append_nil d).symm, rfl⟩
  · obtain rfl := eq_nil_of_around_append hd fun hr => hn (by simp [hr])
    exact ⟨List.append_nil e, rfl⟩

lemma pieces_around (hd : IsAround d) :
    ∃ ks, ∀ m, '/' ∉ m → pieces '/' (d ++ m) = ks ++ [m] := by
  rcases hd with rfl | hd
  · exact ⟨[], fun m hm => pieces_of_not_mem hm⟩
  · obtain ⟨ds, rfl⟩ := List.getLast?_eq_some_iff.mp hd
    refine ⟨pieces '/' ds, fun m hm => ?_⟩
    rw [List.append_assoc, List.singleton_append, pieces_append_sep, pieces_of_not_mem hm]

lemma head?_around (hd : IsAround d) (hm : '/' ∉ m) :
    (d ++ m).head? = some '/' ↔ d.head? = some '/' := by
  rcases hd with rfl | hd
  · refine ⟨fun h => absurd (List.mem_of_head? h) hm, fun h => by cases h⟩
  · cases d with
    | nil => cases hd
    | cons c d => rfl

lemma isAround_ofNames (ks : List (List Char)) : IsAround (ofNames (ks ++ [[]])) := by
  cases ks with
  | nil => exact .inl rfl
  | cons k ks => exact .inr (getLast?_ofNames (List.cons_ne_nil k ks))

lemma names_around (hd : IsAround d) (hm : '/' ∉ m) (hi : isIdle m = false) :
    ∃ ks, names (d ++ m) = ks ++ [m] ∧ lead (d ++ m) ++ ofNames (ks ++ [[]]) = d := by
  obtain ⟨ks, z, hk⟩ := (List.eq_nil_or_concat' (names (d ++ m))).resolve_left (pieces_ne_nil _ _)
  have hz : '/' ∉ z := by
    have hm : z ∈ names (d ++ m) := by simp [hk]
    exact not_mem_of_mem_pieces hm
  have hc := lead_append_names (d ++ m)
  rw [hk, ofNames_concat, ← List.append_assoc] at hc
  have ha : IsAround (lead (d ++ m) ++ ofNames (ks ++ [[]])) := by
    rcases isAround_ofNames ks with ho | ho
    · -- Without a name before it, the last name is behind the root or at the start.
      rw [ho, List.append_nil] at hc ⊢
      rcases lead_cases (d ++ m) with ⟨r, _, hl⟩ | ⟨hp, hl⟩ | ⟨r, hp, hl⟩ | ⟨hl, _⟩
      · exact .inr (by rw [hl]; rfl)
      · rcases List.append_eq_singleton_iff.mp hp with ⟨_, rfl⟩ | ⟨_, rfl⟩ <;> cases hi
      · rw [hl, hp] at hc
        obtain rfl := (List.cons.inj hc).2
        simp at hz
      · exact .inl hl
    · refine .inr ?_
      rw [List.getLast?_append, ho]
      rfl
  obtain ⟨he, rfl⟩ := around_unique ha hd hz hm hc
  exact ⟨ks, hk, he⟩

end Split

lemma splitExtension_start (n : List Char) : (splitExtension n).1 <+: n := by
  unfold splitExtension
  dsimp only
  split
  · exact List.prefix_refl n
  · exact List.take_prefix _ _

lemma splitExtension_some {n s e : List Char} (h : splitExtension n = (s, some e)) :
    s ≠ [] ∧ s = n.take (n.length - e.length - 1) := by
  unfold splitExtension at h
  dsimp only at h
  split at h
  · cases (Prod.mk.inj h).2
  next hn =>
    obtain ⟨rfl, he⟩ := Prod.mk.inj h
    obtain rfl := Option.some.inj he
    simp only [Bool.or_eq_true, not_or] at hn
    exact ⟨by simpa using hn.1, rfl⟩

lemma splitExtension_ne_nil {n : List Char} (h : n ≠ []) : (splitExtension n).1 ≠ [] := by
  cases he : splitExtension n with
  | mk s e =>
    cases e with
    | some e => exact (splitExtension_some he).1
    | none =>
      unfold splitExtension at he
      dsimp only at he
      split at he
      · rwa [← (Prod.mk.inj he).1]
      · cases (Prod.mk.inj he).2

lemma stem?_ne_empty {p s : String} (h : stem? p = some s) : s ≠ "" := by
  obtain ⟨n, hf, rfl⟩ := Option.map_eq_some_iff.mp h
  have hn : n.toList ≠ [] := by
    rw [fileName?] at hf
    cases hl : (trimEnd (names p.toList)).getLast? with
    | none =>
      rw [hl] at hf
      cases hf
    | some m =>
      rw [hl] at hf
      dsimp only at hf
      split at hf
      · cases hf
      · obtain rfl := Option.some.inj hf
        have hne : trimEnd (names p.toList) ≠ [] := by
          intro he
          rw [he] at hl
          cases hl
        obtain ⟨ms, k, hk, hi⟩ := trimEnd_concat hne
        rw [hk, List.getLast?_concat] at hl
        obtain rfl := Option.some.inj hl
        rw [String.toList_ofList]
        rintro rfl
        cases hi
  rw [Ne, ← String.toList_inj, String.toList_ofList]
  exact splitExtension_ne_nil hn

lemma isIdle_of_length {n : List Char} (h : 2 ≤ n.length) : isIdle n = false := by
  rcases n with _ | ⟨a, _ | ⟨b, n⟩⟩
  · cases h
  · exact absurd h (by simp)
  · simp [isIdle]

section Extension

variable {p : String} {d m : List Char}

lemma fileName?_around (h : p.toList = d ++ m) (hd : IsAround d) (hm : '/' ∉ m)
    (hi : isIdle m = false) :
    fileName? p = if m = ['.', '.'] then none else some (String.ofList m) := by
  obtain ⟨ks, hk, _⟩ := names_around hd hm hi
  rw [fileName?, h, hk, trimEnd_eq, List.rdropWhile_concat_neg _ _ _ (by simp [hi]),
    List.getLast?_concat]

lemma setExtension_around (h : p.toList = d ++ m) (hd : IsAround d) (hm : '/' ∉ m)
    (hi : isIdle m = false) (extension : String) :
    m = ['.', '.'] ∧ setExtension p extension = p ∨
      (setExtension p extension).toList =
        d ++ ((splitExtension m).1 ++ '.' :: extension.toList) := by
  have hf := fileName?_around h hd hm hi
  unfold setExtension stem?
  rw [hf]
  split
  next hn =>
    left
    split at hn
    next hu => exact ⟨hu, rfl⟩
    · cases hn
  next stem hs =>
    right
    split at hs
    · cases hs
    · obtain rfl := Option.some.inj hs
      obtain ⟨ks, hk, hl⟩ := names_around hd hm hi
      dsimp only
      rw [h, hk, trimEnd_eq, List.rdropWhile_concat_neg _ _ _ (by simp [hi]), List.dropLast_concat,
        ofNames_concat, ← List.append_assoc, hl]
      simp

lemma exists_setExtension (h : p.toList = d ++ m) (hd : IsAround d) (hm : '/' ∉ m)
    (hi : isIdle m = false) (extension : String) :
    ∃ n, (setExtension p extension).toList = d ++ n ∧
      (n = ['.', '.'] ∨ ∃ s, '/' ∉ s ∧ n = s ++ '.' :: extension.toList) := by
  rcases setExtension_around h hd hm hi extension with ⟨hu, he⟩ | he
  · exact ⟨m, by rw [he, h], .inl hu⟩
  · exact ⟨_, he, .inr ⟨_, fun hs => hm ((splitExtension_start m).subset hs), rfl⟩⟩

lemma withExtension_around (h : p.toList = d ++ m) (hd : IsAround d) (hm : '/' ∉ m)
    (hi : isIdle m = false) (extension : String) :
    ∃ n, (withExtension p extension).toList = d ++ n ∧
      (n = ['.', '.'] ∨ ∃ s, '/' ∉ s ∧ n = s ++ '.' :: extension.toList) := by
  unfold withExtension extension?
  rw [fileName?_around h hd hm hi]
  split
  · exact exists_setExtension h hd hm hi extension
  next e he =>
    split at he
    · cases he
    · obtain ⟨e, hs, rfl⟩ := Option.map_eq_some_iff.mp he
      rw [String.toList_ofList] at hs
      obtain ⟨hne, hs⟩ := splitExtension_some (Prod.ext rfl hs)
      have hlen : 2 ≤ m.length - e.length := by
        have hl := List.length_pos_iff.mpr hne
        rw [hs, List.length_take] at hl
        omega
      have ht : (m.take (m.length - e.length)).length = m.length - e.length := by
        rw [List.length_take]
        omega
      refine exists_setExtension ?_ hd (fun hn => hm (List.mem_of_mem_take hn))
        (isIdle_of_length (ht ▸ hlen)) extension
      rw [String.toList_ofList, h, String.length_ofList, List.length_append, List.take_append,
        List.take_of_length_le (by omega)]
      congr 2
      omega

end Extension

end LayoutSync.Path
