import LayoutSync.Proofs.FileTree.Access
import LayoutSync.Proofs.Path.Siblings

namespace LayoutSync.FileTree

def HasWay (t : FileTree) (p : String) : Prop :=
  ∃ d, t.walk (t.start p) (stepsOf p).dropLast = .ok d

def Housed (t : FileTree) (p : String) : Prop :=
  ∀ ns n, FilePath p ns n → ∃ d, t.walk (t.start p) ns = .ok d

namespace FilePath

variable {p n : String} {ns : List String}

lemma isIdle (h : FilePath p ns n) : Path.isIdle n.toList = false := by
  have hm : n ∈ stepsOf p := by simp [h.steps]
  obtain ⟨m, hf, rfl⟩ := List.mem_map.mp hm
  rw [String.toList_ofList]
  simpa using (List.mem_filter.mp hf).2

lemma around (h : FilePath p ns n) :
    ∃ d, p.toList = d ++ n.toList ∧ Path.IsAround d ∧ '/' ∉ n.toList := by
  obtain ⟨ks, hk⟩ := h.spelled
  refine ⟨Path.ofNames (ks ++ [[]]), ?_, Path.isAround_ofNames ks, ?_⟩
  · rw [← Path.ofNames_concat, ← hk, Path.ofNames_pieces]
  · have hn : n.toList ∈ Text.pieces '/' p.toList := by simp [hk]
    exact Text.not_mem_of_mem_pieces hn

end FilePath

variable {t v : FileTree} {p : String}

lemma walk_of_read {c : ByteArray} (h : t.read p = .ok c) :
    ∃ ns n d, FilePath p ns n ∧ t.walk (t.start p) ns = .ok d := by
  obtain ⟨ns, n, hp⟩ := filePath_of_read h
  exact ⟨ns, n, _, hp, (hp.read_eq_ok_iff.mp h).1⟩

section Beside

variable {extension : String} {c : ByteArray}

lemma steps_withExtension {a n : List Char} (hp : p.toList = a ++ n) (ha : Path.IsAround a)
    (hn : '/' ∉ n) (hi : Path.isIdle n = false) (he : '/' ∉ extension.toList)
    (hne : extension.toList ≠ []) :
    Path.isAbsolute (Path.withExtension p extension) = Path.isAbsolute p ∧
      ∃ ns m, stepsOf p = ns ++ [String.ofList n] ∧
        stepsOf (Path.withExtension p extension) = ns ++ [m] ∧
        (m = ".." ∨ '/' ∉ m.toList ∧ ∃ s, m.toList = s ++ '.' :: extension.toList) := by
  obtain ⟨m, hq, hm⟩ := Path.withExtension_around hp ha hn hi extension
  obtain ⟨ks, hk⟩ := Path.pieces_around ha
  have hms : '/' ∉ m ∧ Path.isIdle m = false := by
    rcases hm with rfl | ⟨s, hs, rfl⟩
    · decide
    · refine ⟨by simp [hs, he], Path.isIdle_of_length ?_⟩
      have hl := List.length_pos_iff.mpr hne
      simp only [List.length_append, List.length_cons]
      omega
  refine ⟨?_, (ks.filter (!Path.isIdle ·)).map String.ofList, String.ofList m, ?_, ?_, ?_⟩
  · unfold Path.isAbsolute
    rw [hp, hq, decide_eq_decide, Path.head?_around ha hn, Path.head?_around ha hms.1]
  · rw [stepsOf, Path.steps, hp, hk _ hn, List.filter_append, List.map_append]
    simp [hi]
  · rw [stepsOf, Path.steps, hq, hk _ hms.1, List.filter_append, List.map_append]
    simp [hms.2]
  · rw [String.toList_ofList]
    rcases hm with rfl | ⟨s, _, rfl⟩
    · exact .inl rfl
    · exact .inr ⟨hms.1, s, rfl⟩

lemma hasWay_withExtension (h : t.read p = .ok c) (he : '/' ∉ extension.toList)
    (hne : extension.toList ≠ []) : t.HasWay (Path.withExtension p extension) := by
  obtain ⟨ns, n, d, hp, hd⟩ := walk_of_read h
  obtain ⟨a, hpa, ha, hn⟩ := hp.around
  obtain ⟨hs, ms, m, hms, hst, _⟩ := steps_withExtension hpa ha hn hp.isIdle he hne
  obtain ⟨rfl, _⟩ := List.append_inj' (hp.steps.symm.trans hms) rfl
  exact ⟨d, by rw [start, hs, hst, List.dropLast_concat, ← start, hd]⟩

end Beside

lemma Housed.keeps (h : t.Housed p) (hk : Keeps (t.trailOf p) t v)
    (hm : t.read p = .error .missing) : ∃ f, v.read p = .error f := by
  cases hv : v.read p with
  | error f => exact ⟨f, rfl⟩
  | ok c =>
    obtain ⟨ns, n, hp⟩ := filePath_of_read hv
    obtain ⟨_, hc, hf⟩ := hp.read_eq_ok_iff.mp hv
    rw [location_congr hk.current] at hf
    have ht : t.find? (t.location p) = some (.file c) := by
      rcases hk.find? _ (hp.location_mem_trailOf t) with he | ⟨_, he⟩
      · exact he.symm.trans hf
      · cases he.symm.trans hf
    obtain ⟨d, hd⟩ := h ns n hp
    rw [hp.read_eq_ok_iff.mpr ⟨eq_of_walk hd ▸ hd, hc, ht⟩] at hm
    cases hm

end LayoutSync.FileTree
