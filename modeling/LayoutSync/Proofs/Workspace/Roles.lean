import LayoutSync.Proofs.FileTree.Housed
import LayoutSync.Proofs.Path.Joining
import LayoutSync.Proofs.Workspace.Contents
import LayoutSync.Proofs.Workspace.Processing

/-!
The parts that files play in a workspace. Layouts, parameter files and generated modules are told
apart by how their names end; what is a theme depends on the settings.
-/

namespace LayoutSync

open FileTree Workspace Text

section Endings

variable {t : FileTree} {p q n m : String} {ns ms : List String}

lemma FileTree.FilePath.getLast? (h : FilePath p ns n) : p.toList.getLast? = n.toList.getLast? := by
  obtain ⟨d, hd, _⟩ := h.around
  have hi := h.isIdle
  rw [hd, List.getLast?_append]
  cases hl : n.toList.getLast? with
  | none =>
    rw [List.getLast?_eq_none_iff.mp hl] at hi
    cases hi
  | some c => rfl

lemma getLast?_of_location (hp : FilePath p ns n) (hq : FilePath q ms m)
    (hl : t.location p = t.location q) : p.toList.getLast? = q.toList.getLast? := by
  rw [hp.location_eq, hq.location_eq] at hl
  rw [hp.getLast?, hq.getLast?, List.singleton_inj.mp (List.append_inj' hl rfl).2]

lemma getLast?_of_isLayoutName {cs : List Char} (h : isLayoutName cs = true) :
    cs.getLast? = some 'l' := by
  unfold isLayoutName at h
  split at h
  next r a l f hp =>
    simp only [Bool.and_eq_true] at h
    obtain ⟨e, he⟩ := List.isSuffixOf_iff_suffix.mp h.2
    have hf : f.getLast? = some 'l' := by
      rw [← he, List.getLast?_append]
      rfl
    have hne : f ≠ [] := by
      rintro rfl
      cases hf
    have hc : pieces '/' cs = [r, a, l] ++ [f] := hp
    rw [Path.getLast?_of_pieces hc hne, hf]
  · cases h

lemma FileTree.FilePath.endsInName (h : FilePath p ns n) : Path.EndsInName p := by
  obtain ⟨d, hd, ha, hn⟩ := h.around
  obtain ⟨ks, hk, _⟩ := Path.names_around ha hn h.isIdle
  exact ⟨ks, n.toList, hd ▸ hk, h.isIdle⟩

lemma getLast?_of_isLayoutFile {workspace : String} (h : isLayoutFile workspace p = true)
    (hp : Path.EndsInName p) : p.toList.getLast? = some 'l' := by
  unfold isLayoutFile Path.relativeTo? at h
  split at h
  · cases h
  next relative hr =>
    split at hr
    · obtain rfl := Option.some.inj hr
      have hl := getLast?_of_isLayoutName h
      rw [ImportTable.withSlashes, String.toList_map, String.toList_ofList, List.getLast?_map] at hl
      obtain ⟨c, hc, hcl⟩ := Option.map_eq_some_iff.mp hl
      obtain rfl : c = 'l' := by
        split at hcl
        · exact absurd hcl (by decide)
        · exact hcl
      obtain ⟨ks, m, hk, hm⟩ := hp
      rw [← Path.getLast?_dropComponents hk hm _ ?_, hc]
      intro he
      rw [he] at hc
      cases hc
    · cases hr

lemma FileTree.FilePath.fileName? (h : FilePath p ns n) : Path.fileName? p = some n := by
  obtain ⟨d, hd, ha, hn⟩ := h.around
  have hne : n.toList ≠ ['.', '.'] := by
    intro he
    have hp := h.plain
    rw [show n = ".." from String.toList_inj.mp he] at hp
    cases hp
  rw [Path.fileName?_around hd ha hn h.isIdle, if_neg hne, String.ofList_toList]

end Endings

namespace Generator

variable (g : Generator) (layouts : List String)

def Owns (paths : LayoutPaths) : Prop :=
  ∃ layout ∈ layouts, LayoutPaths.derive? g.workspace layout g.settings = some paths

def IsParameterFile (p : String) : Prop := ∃ paths, g.Owns layouts paths ∧ p = paths.parameters

def IsSource (p : String) : Prop := ∃ paths, g.Owns layouts paths ∧ p ∈ g.sourcePaths paths

variable {g layouts} {t : FileTree} {p q n : String} {ns : List String}

lemma IsParameterFile.getLast? (h : g.IsParameterFile layouts p) (hp : FilePath p ns n) :
    p.toList.getLast? = some 'n' := by
  obtain ⟨paths, ⟨layout, _, hd⟩, rfl⟩ := h
  rw [(derive?_eq hd).2] at hp ⊢
  obtain ⟨l, hl⟩ := Path.withExtension_end (by rw [hp.fileName?]; simp)
  rw [hl, List.getLast?_append]
  rfl

lemma IsSource.getLast? (h : g.IsSource layouts p) : p.toList.getLast? = some 's' := by
  have hts : ∀ dir name : String, (Path.join dir (name ++ ".ts")).toList.getLast? = some 's' := by
    intro dir name
    obtain ⟨l, hl⟩ := Path.join_end dir (name ++ ".ts")
    rw [hl, String.toList_append, List.getLast?_append, List.getLast?_append]
    rfl
  obtain ⟨paths, _, hp⟩ := h
  rcases List.mem_append.mp hp with hp | hp
  · obtain ⟨name, _, rfl⟩ := List.mem_map.mp hp
    exact hts _ name
  · split at hp
    · obtain rfl := List.mem_singleton.mp hp
      exact hts _ _
    · cases hp

end Generator

end LayoutSync
