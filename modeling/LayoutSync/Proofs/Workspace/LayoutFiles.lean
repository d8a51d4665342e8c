import LayoutSync.Proofs.FileTree.Places
import LayoutSync.Workspace.LayoutPaths

namespace LayoutSync.Workspace

open FileTree

def resources (workspace : String) : String := Path.join workspace "res"

def resourcePath (workspace a b n : String) : String :=
  Path.join (Path.join (Path.join (resources workspace) a) b) n

variable {t : FileTree} {workspace path p : String} {l : Location}

lemma mem_filesAtDepth_zero (ht : t.WellFormed) : p ∈ filesAtDepth t 0 path ↔
    ∃ l n c, t.lookup path = .ok (l, .directory) ∧ t.find? (l ++ [n]) = some (.file c) ∧
      p = Path.join path n := by
  rw [filesAtDepth, List.mem_flatMap]
  constructor
  · rintro ⟨⟨n, e⟩, hc, hp⟩
    obtain ⟨l, hl, hf⟩ := (mem_listed_iff ht).mp hc
    cases e with
    | file c => exact ⟨l, n, c, hl, hf, List.mem_singleton.mp hp⟩
    | directory => cases hp
  · rintro ⟨l, n, c, hl, hf, rfl⟩
    exact ⟨(n, .file c), (mem_listed_iff ht).mpr ⟨l, hl, hf⟩, List.mem_singleton_self _⟩

lemma mem_filesAtDepth_succ (ht : t.WellFormed) (depth : Nat) :
    p ∈ filesAtDepth t (depth + 1) path ↔
      ∃ l n, t.lookup path = .ok (l, .directory) ∧ t.find? (l ++ [n]) = some .directory ∧
        p ∈ filesAtDepth t depth (Path.join path n) := by
  rw [filesAtDepth, List.mem_flatMap]
  constructor
  · rintro ⟨⟨n, e⟩, hc, hp⟩
    obtain ⟨l, hl, hf⟩ := (mem_listed_iff ht).mp hc
    cases e with
    | file c => cases hp
    | directory => exact ⟨l, n, hl, hf, hp⟩
  · rintro ⟨l, n, hl, hf, hp⟩
    exact ⟨(n, .directory), (mem_listed_iff ht).mpr ⟨l, hl, hf⟩, hp⟩

lemma lookup_join_directory (ht : t.WellFormed) (hn : t.Named) {n : String} {k : Location}
    (hl : t.lookup path = .ok (l, .directory)) (hf : t.find? (l ++ [n]) = some .directory)
    (hk : t.lookup (Path.join path n) = .ok (k, .directory)) : k = l ++ [n] := by
  obtain ⟨rfl, _⟩ := lookup_directory ht hl
  rw [(lookup_directory ht hk).1, location_join path (hn.proper ht hf)]

lemma mem_layoutFiles (ht : t.WellFormed) (hn : t.Named) : p ∈ layoutFiles t workspace ↔
    isLayoutFile workspace p = true ∧ ∃ l a b n c,
      t.lookup (resources workspace) = .ok (l, .directory) ∧
      t.lookup (Path.join (resources workspace) a) = .ok (l ++ [a], .directory) ∧
      t.lookup (Path.join (Path.join (resources workspace) a) b) = .ok (l ++ [a] ++ [b], .directory) ∧
      t.find? (l ++ [a] ++ [b] ++ [n]) = some (.file c) ∧
      p = resourcePath workspace a b n := by
  rw [layoutFiles, List.mem_filter, and_comm]
  refine and_congr_right fun _ => ?_
  change p ∈ filesAtDepth t 2 (resources workspace) ↔ _
  simp only [mem_filesAtDepth_succ ht, mem_filesAtDepth_zero ht]
  constructor
  · rintro ⟨l, a, hl, ha, la, b, hla, hb, lb, n, c, hlb, hf, rfl⟩
    obtain rfl := lookup_join_directory ht hn hl ha hla
    obtain rfl := lookup_join_directory ht hn hla hb hlb
    exact ⟨l, a, b, n, c, hl, hla, hlb, hf, rfl⟩
  · rintro ⟨l, a, b, n, c, hl, hla, hlb, hf, rfl⟩
    exact ⟨l, a, hl, (lookup_directory ht hla).2, _, b, hla, (lookup_directory ht hlb).2, _, n, c, hlb,
      hf, rfl⟩

end LayoutSync.Workspace
