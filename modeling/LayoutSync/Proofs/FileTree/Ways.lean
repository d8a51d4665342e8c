import LayoutSync.Proofs.FileTree.Clear
import LayoutSync.Proofs.FileTree.Housed

namespace LayoutSync.FileTree

variable {t s : FileTree} {p : String}

lemma Near.trans {u : FileTree} (h : Near p t s) (h' : Near p s u) : Near p t u := by
  have hc := h.keeps.current
  have hk := h'.keeps
  have hsame := h'.same
  rw [trailOf, start_congr hc] at hk
  rw [location, start_congr hc] at hsame
  exact ⟨h.keeps.trans hk, hsame.trans h.same⟩

namespace HasWay

variable (h : t.HasWay p)

include h

lemma walk_near (hn : Near p t s) :
    s.walk (s.start p) (stepsOf p).dropLast = t.walk (t.start p) (stepsOf p).dropLast := by
  obtain ⟨d, hd⟩ := h
  have hk := hn.keeps.mono fun l hl => mem_trailOf_of_mem_wayTo hl
  rw [hn.keeps.start, hk.walk (by rw [hd]; simp)]

lemma lookup (hn : Near p t s) : s.lookup p = t.lookup p := by
  have hw := h.walk_near hn
  have hst := start_congr hn.keeps.current (p := p)
  have hsame := hn.same
  obtain ⟨d, hd⟩ := h
  obtain rfl := eq_of_walk hd
  rcases shape_cases p with ⟨f, hf⟩ | hp | ⟨ns, n, hp⟩
  · rw [lookup_of_fault hf, lookup_of_fault hf]
  · rw [hp.lookup, hp.lookup]
    rcases List.eq_nil_or_concat' (stepsOf p) with hs | ⟨ns, n, hs⟩
    · rw [hs, hst]
      rfl
    · rw [location, hs, List.foldl_concat] at hsame
      rw [hs, List.dropLast_concat] at hw hd
      rw [hs, walk_concat, walk_concat, hw, hd]
      simp only [ok_bind, enter_congr hsame]
  · rw [hp.steps, List.dropLast_concat] at hw hd
    rw [hp.location_eq] at hsame
    rw [hp.lookup, hp.lookup, hw, hd]
    simp only [ok_bind, hsame]

lemma read (hn : Near p t s) : s.read p = t.read p := by
  unfold FileTree.read
  rw [h.lookup hn]

lemma find?_of_missing (hf : pathFault? p = none) (hm : t.read p = .error .missing) :
    t.find? (t.location p) = none := by
  obtain ⟨d, hd⟩ := h
  have hw := (read_missing_iff_walk hf).mp hm
  rcases List.eq_nil_or_concat' (stepsOf p) with hs | ⟨ns, n, hs⟩
  · rw [hs] at hw
    cases hw
  · rw [hs, List.dropLast_concat] at hd
    rw [hs, walk_concat, hd] at hw
    obtain rfl := eq_of_walk hd
    obtain ⟨hn, _, he⟩ := enter_missing_iff.mp hw
    rw [location, hs, List.foldl_concat, descend_plain hn, he]

end HasWay

end LayoutSync.FileTree
