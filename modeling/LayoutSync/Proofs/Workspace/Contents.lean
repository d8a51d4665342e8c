import LayoutSync.Proofs.Workspace.Stages

/-!
What becomes of a file that can be read while other files are written. It stays where it is, and
only what is written to its own place changes what it holds.
-/

namespace LayoutSync

open FileTree Workspace

def FileTree.Holds (P : ByteArray → Prop) (t : FileTree) (p : String) : Prop :=
  ∃ c, t.read p = .ok c ∧ P c

structure FileTree.Later (t u : FileTree) : Prop where
  current : u.current = t.current
  directory : ∀ l, t.find? l = some .directory → u.find? l = some .directory

section Read

variable {t u : FileTree} {p q : String} {c : ByteArray}

lemma FileTree.Later.refl (t : FileTree) : Later t t := ⟨rfl, fun _ h => h⟩

lemma FileTree.Later.trans {v : FileTree} (h : Later t u) (h' : Later u v) : Later t v :=
  ⟨h'.current.trans h.current, fun l hl => h'.directory l (h.directory l hl)⟩

lemma FileTree.Later.start (h : Later t u) (p : String) : u.start p = t.start p := by
  unfold FileTree.start
  rw [h.current]

lemma FileTree.Touched.later (h : Touched q t u) : Later t u := by
  refine ⟨h.current, fun l hl => ?_⟩
  rcases h.find? l with he | ⟨hn, _⟩ | ⟨_, _, hn, _⟩
  · exact he.trans hl
  · rw [hl] at hn
    cases hn
  · exact absurd hl hn

lemma FileTree.Touched.read (h : Touched q t u) (hr : t.read p = .ok c) :
    u.read p = .ok c ∨ t.location q = t.location p ∧ (∃ ns n, FilePath q ns n) ∧
      ∃ d, u.find? (t.location p) = some (.file d) ∧ u.read p = .ok d := by
  obtain ⟨ns, n, hp⟩ := filePath_of_read hr
  obtain ⟨hw, hc, hf⟩ := hp.read_eq_ok_iff.mp hr
  have hu : ∀ d, u.find? (t.location p) = some (.file d) → u.read p = .ok d := by
    intro d hd
    refine hp.read_eq_ok_iff.mpr ⟨?_, hc, ?_⟩
    · rw [h.later.start]
      exact walk_mono h.later.directory hw
    · rwa [location_congr h.current]
  rcases h.find? (t.location p) with he | ⟨hn, _⟩ | ⟨hl, hq, _, d, hd⟩
  · exact .inl (hu c (he.trans hf))
  · rw [hf] at hn
    cases hn
  · exact .inr ⟨hl.symm, hq, d, hd, hu d hd⟩

lemma FileTree.Housed.later (h : t.Housed p) (hu : Later t u) : u.Housed p := by
  intro ns n hp
  obtain ⟨d, hd⟩ := h ns n hp
  refine ⟨d, ?_⟩
  rw [hu.start]
  exact walk_mono hu.directory hd

lemma FileTree.Housed.read (h : t.Housed q) (hl : t.location q = t.location p)
    (hr : t.read p = .ok c) {ns : List String} {n : String} (hq : FilePath q ns n) :
    t.read q = .ok c := by
  obtain ⟨ms, m, hp⟩ := filePath_of_read hr
  obtain ⟨_, hc, hf⟩ := hp.read_eq_ok_iff.mp hr
  obtain ⟨d, hd⟩ := h ns n hq
  obtain rfl := eq_of_walk hd
  have hnm : n = m := by
    rw [hq.location_eq, hp.location_eq] at hl
    exact List.singleton_inj.mp (List.append_inj' hl rfl).2
  refine hq.read_eq_ok_iff.mpr ⟨hd, hnm ▸ hc, ?_⟩
  rw [hl, hf]

end Read

section Holds

variable {P : ByteArray → Prop} {t u : FileTree} {p q : String}
  {update : Option String → Except Fault (Option String)}

lemma FileTree.Holds.updateFile (h : t.Holds P p)
    (hq : ∀ c ns n, t.location q = t.location p → t.read p = .ok c → FilePath q ns n →
      t.read q = .ok c)
    (hP : ∀ source text, P source.toUTF8 → update (some source) = .ok (some text) → P text.toUTF8) :
    (updateFile t q update).1.Holds P p := by
  obtain ⟨c, hr, hc⟩ := h
  rcases (touched_updateFile t q update).read hr with hr' | ⟨hl, ⟨ns, n, hfp⟩, d, hd, hrd⟩
  · exact ⟨c, hr', hc⟩
  have hrq := hq c ns n hl hr hfp
  rcases updateFile_cases t q update with ⟨existing, text, hre, hu, he⟩ | ⟨_, he, _⟩
  · cases existing with
    | none =>
      rw [read_missing_of_readText? hre] at hrq
      cases hrq
    | some source =>
      rw [read_of_readText? hre] at hrq
      obtain rfl := Except.ok.inj hrq
      obtain ⟨u, b, hw, _⟩ := writeIfChanged_of_ok (read_of_readText? hre) text
      have hcur := (touched_writeIfChanged t q text).current
      rw [hw] at hcur
      have hf := (hfp.read_eq_ok_iff.mp (read_of_writeIfChanged hw)).2.2
      rw [location_congr hcur, hl] at hf
      rw [he, writeStage, hw] at hd hrd ⊢
      -- What is in the file now is what was just written, and that was made from the old content.
      obtain rfl := Entry.file.inj (Option.some.inj (hf.symm.trans hd))
      exact ⟨_, hrd, hP source text hc hu⟩
  · rw [he]
    exact ⟨c, hr, hc⟩

lemma FileTree.Holds.run {stages : List (String × Stage)} (hw : Later t u) (h : u.Holds P p)
    (ht : ∀ s ∈ stages, ∀ w, Touched s.1 w (s.2 w).1)
    (hs : ∀ s ∈ stages, ∀ w, Later t w → w.Holds P p → (s.2 w).1.Holds P p) :
    (runStages stages u).1.Holds P p ∧ Later t (runStages stages u).1 := by
  induction stages generalizing u with
  | nil => exact ⟨h, hw⟩
  | cons s stages ih =>
    exact ih (hw.trans (ht s (by simp) u).later) (hs s (by simp) u hw h)
      (fun r hr => ht r (by simp [hr])) fun r hr => hs r (by simp [hr])

end Holds

end LayoutSync
