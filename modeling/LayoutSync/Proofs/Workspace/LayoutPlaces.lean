import LayoutSync.Proofs.Workspace.Commuting
import LayoutSync.Proofs.Workspace.Modules

namespace LayoutSync

open FileTree Workspace

namespace FileTree

variable {t u : FileTree} {ps : List String}

lemma Interim.named (h : Interim ps t u) (ht : t.WellFormed) (hn : t.Named) : u.Named := by
  intro e he n hm
  have hf : u.find? e.1 = some e.2 := by
    have hne : e.1.isEmpty = false := List.isEmpty_eq_false_iff.mpr (List.ne_nil_of_mem hm)
    rw [find?, hne]
    exact (Assoc.get?_eq_some_iff h.wellFormed.nodup).mpr he
  have hnew : ∀ p, e.1 ∈ t.start p :: t.trailOf p → Path.IsProper n := fun p hp =>
    hn.proper_of_mem_trailOf ht p _ hp n hm
  rcases h.within.find? e.1 with hs | ⟨_, _, p, _, hw⟩ | ⟨_, _, p, _, hl⟩
  · exact hn.proper_of_find? ht (l := []) (hs.symm.trans hf) n hm
  · exact hnew p (List.mem_cons_of_mem _ (mem_trailOf_of_mem_wayTo hw))
  · exact hnew p (hl ▸ foldl_mem_trail (t.start p) (stepsOf p))

end FileTree

namespace Workspace

def themePaths (workspace : String) (s : Settings) : List String :=
  s.themeVariants.map (Path.join (Path.join (resources workspace) "theme"))

variable {t u : FileTree} {workspace p a b n : String} {l : Location}

lemma endsInName_resources (workspace : String) : Path.EndsInName (resources workspace) :=
  Path.endsInName_join workspace (by decide)

lemma location_resourcePath (ha : Path.IsProper a) (hb : Path.IsProper b) (hn : Path.IsProper n)
    (t : FileTree) : t.location (resourcePath workspace a b n) =
      t.location (resources workspace) ++ [a] ++ [b] ++ [n] := by
  rw [resourcePath, location_join _ hn, location_join _ hb, location_join _ ha]

lemma derive?_resourcePath (ha : Path.IsProper a) (hb : Path.IsProper b) (hn : Path.IsProper n)
    (hl : isLayoutFile workspace (resourcePath workspace a b n) = true) (s : Settings) :
    ∃ paths, LayoutPaths.derive? workspace (resourcePath workspace a b n) s = some paths ∧
      paths.themes = themePaths workspace s := by
  have hr := endsInName_resources workspace
  have hd : themeDirectory? (resourcePath workspace a b n) =
      some (Path.join (resources workspace) "theme") := by
    rw [themeDirectory?, resourcePath, (Path.endsInName_join _ hb).parent?_join hn]
    simp only [Option.bind_eq_bind, Option.bind_some]
    rw [(Path.endsInName_join _ ha).parent?_join hb]
    simp only [Option.bind_some]
    rw [hr.parent?_join ha]
    rfl
  have hf : Path.fileName? (resourcePath workspace a b n) = some n :=
    (Path.endsInName_join _ hb).fileName?_join hn
  simp [LayoutPaths.derive?, hl, hd, Path.stem?, hf, themePaths]

structure IsPlaced (t : FileTree) (workspace p : String) : Prop where
  isLayoutFile : isLayoutFile workspace p = true
  place : ∃ a b n, p = resourcePath workspace a b n ∧ Path.IsProper a ∧ Path.IsProper b ∧
    Path.IsProper n
  file : ∃ c, t.find? (t.location p) = some (.file c)

lemma isPlaced_of_mem (ht : t.WellFormed) (hn : t.Named) (h : p ∈ layoutFiles t workspace) :
    IsPlaced t workspace p := by
  obtain ⟨hl, l, a, b, n, c, hr, ha, hb, hf, rfl⟩ := (mem_layoutFiles ht hn).mp h
  obtain ⟨rfl, _⟩ := lookup_directory ht hr
  have ha := hn.proper ht (lookup_directory ht ha).2
  have hb := hn.proper ht (lookup_directory ht hb).2
  have hn := hn.proper ht hf
  exact ⟨hl, ⟨a, b, n, rfl, ha, hb, hn⟩, c, by rw [location_resourcePath ha hb hn, hf]⟩

lemma IsPlaced.derive? (h : IsPlaced t workspace p) (s : Settings) :
    ∃ paths, LayoutPaths.derive? workspace p s = some paths ∧
      paths.themes = themePaths workspace s := by
  obtain ⟨a, b, n, rfl, ha, hb, hn⟩ := h.place
  exact derive?_resourcePath ha hb hn h.isLayoutFile s

end Workspace

end LayoutSync
