import LayoutSync.Proofs.FileTree.WellFormed
import Mathlib.Data.String.Basic
import Mathlib.Data.List.Nodup

namespace LayoutSync.FileTree

variable {t : FileTree} {l : Location} {n : String} {e : Entry}

lemma find?_concat (t : FileTree) (l : Location) (n : String) :
    t.find? (l ++ [n]) = Assoc.get? (l ++ [n]) t.entries := by
  rw [find?, if_neg (by simp)]

lemma mem_children (h : (Assoc.keys t.entries).Nodup) :
    (n, e) ∈ t.children l ↔ t.find? (l ++ [n]) = some e := by
  rw [children, List.mem_mergeSort, List.mem_filterMap, find?_concat, Assoc.get?_eq_some_iff h]
  constructor
  · rintro ⟨⟨m, e'⟩, hm, he⟩
    dsimp only at he
    split at he
    next hd =>
      obtain ⟨n', hn, he⟩ := Option.map_eq_some_iff.mp he
      obtain ⟨rfl, rfl⟩ := Prod.mk.inj he
      have hc : m = l ++ [n'] := by
        rw [← hd, List.dropLast_append_getLast?]
        exact hn
      rwa [← hc]
    · cases he
  · intro hm
    exact ⟨_, hm, by simp⟩

lemma children_eq {es : List (String × Entry)}
    (h : (t.entries.filterMap fun (m, e) =>
      if m.dropLast = l then m.getLast?.map (·, e) else none) = es)
    (hs : es.Pairwise fun a b => a.1 ≤ b.1) : t.children l = es := by
  rw [children, h]
  exact List.mergeSort_of_pairwise (hs.imp (by simp))

lemma sorted_children (t : FileTree) (l : Location) :
    (t.children l).Pairwise fun a b => a.1 ≤ b.1 := by
  have hs : (t.children l).Pairwise fun a b => decide (a.1 ≤ b.1) = true := by
    refine List.pairwise_mergeSort (fun a b c hab hbc => ?_) (fun a b => ?_) _
    · rw [decide_eq_true_eq] at hab hbc ⊢
      exact hab.trans hbc
    · simpa using le_total a.1 b.1
  exact hs.imp of_decide_eq_true

lemma sublist_keys_children (es : List (Location × Entry)) (l : Location) :
    ((es.filterMap fun (m, e) => if m.dropLast = l then m.getLast?.map (·, e) else none).map
      fun c => l ++ [c.1]).Sublist (Assoc.keys es) := by
  induction es with
  | nil => exact List.Sublist.slnil
  | cons a es ih =>
    obtain ⟨m, e⟩ := a
    rcases List.eq_nil_or_concat' m with rfl | ⟨k, n, rfl⟩
    · simpa using ih.trans (List.sublist_cons_self _ _)
    · by_cases hk : k = l
      · subst hk
        simpa using ih
      · simpa [hk] using ih.trans (List.sublist_cons_self _ _)

lemma nodup_children (h : (Assoc.keys t.entries).Nodup) (l : Location) :
    ((t.children l).map Prod.fst).Nodup := by
  have hn := h.sublist (sublist_keys_children t.entries l)
  refine ((List.mergeSort_perm _ _).map Prod.fst).nodup_iff.mpr ?_
  apply List.Nodup.of_map fun n => l ++ [n]
  rwa [List.map_map]

lemma children_lt (h : (Assoc.keys t.entries).Nodup) (l : Location) :
    (t.children l).Pairwise fun a b => a.1 < b.1 := by
  have hne := List.pairwise_map.mp (nodup_children h l)
  exact (sorted_children t l).imp₂ (fun _ _ => lt_of_le_of_ne) hne

lemma WellFormed.above (h : t.WellFormed) {ns : List String} (hn : ns ≠ [])
    (hf : t.find? (l ++ ns) ≠ none) : t.find? l = some .directory := by
  induction ns using List.reverseRecOn with
  | nil => exact absurd rfl hn
  | append_singleton ns n ih =>
    rw [← List.append_assoc] at hf
    have hd := h.around _ _ hf
    rcases List.eq_nil_or_concat' ns with rfl | ⟨ms, m, rfl⟩
    · rwa [List.append_nil] at hd
    · exact ih (by simp) (by rw [hd]; simp)

end LayoutSync.FileTree
