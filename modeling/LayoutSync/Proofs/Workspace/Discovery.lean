import LayoutSync.Proofs.Workspace.LayoutFilter
import LayoutSync.Proofs.Workspace.LayoutPlaces
import LayoutSync.Proofs.Workspace.Runs

namespace LayoutSync

open FileTree LayoutSync.Path

namespace Workspace

/-- The path of a file at any depth below the workspace, as a walk spells it. -/
def IsFileBelow (t : FileTree) (workspace p : String) : Prop :=
  ∃ ns c, ns ≠ [] ∧ t.find? (t.location workspace ++ ns) = some (.file c) ∧ p = pathBelow workspace ns

/-- Below the workspace, no name has a backslash and every directory can be read. -/
structure Walkable (t : FileTree) (workspace : String) : Prop where
  plain : ∀ ns, t.find? (t.location workspace ++ ns) ≠ none → ∀ n ∈ ns, '\\' ∉ n.toList
  readable : ∀ ns, ns ≠ [] → t.find? (t.location workspace ++ ns) = some .directory →
    t.isDirectory (pathBelow workspace ns) = true

variable {t : FileTree} {workspace p : String} {l : Location} {ns : List String}

lemma walkable_of_entries (ht : t.WellFormed)
    (h : ∀ e ∈ t.entries, (∀ n ∈ e.1, '\\' ∉ n.toList) ∧ (e.2 = .directory →
      t.isDirectory (pathBelow workspace (e.1.drop (t.location workspace).length)) = true)) :
    Walkable t workspace := by
  constructor
  · intro ns hf n hn
    obtain ⟨e, hf⟩ := Option.ne_none_iff_exists'.mp hf
    have hm := mem_entries_of_find? ht (List.ne_nil_of_mem hn) hf
    exact (h _ hm).1 n (List.mem_append_right _ hn)
  · intro ns hne hf
    have hd := (h _ (mem_entries_of_find? ht hne hf)).2 rfl
    rwa [List.drop_left] at hd

section Order

lemma components_join (path : String) {n : String} (hn : IsProper n) :
    components (join path n) = components path ++ [n.toList] := by
  have hc := components_pathBelow path (List.forall_mem_singleton.mpr hn)
  exact hc

lemma components_lt {path q m n : String} (hm : IsProper m) (hn : IsProper n) (h : m < n)
    (hp : components (join path m) <+: components p) (hq : components (join path n) <+: components q) :
    components p < components q := by
  obtain ⟨ms, hp⟩ := hp
  obtain ⟨ns, hq⟩ := hq
  rw [← hp, ← hq, components_join path hm, components_join path hn, List.append_assoc,
    List.append_assoc]
  apply List.append_left_lt
  exact List.cons_lt_cons_iff.mpr (.inl (String.lt_iff.mp h))

def SortedBelow (path : String) (ps : List String) : Prop :=
  ps.Pairwise (components · < components ·) ∧ ∀ p ∈ ps, components path <+: components p

lemma sortedBelow_flatMap {f : String × Entry → List String} {path : String} (ht : t.WellFormed)
    (hn : t.Named) (hf : ∀ c ∈ t.children l, SortedBelow (join path c.1) (f c)) :
    SortedBelow path ((t.children l).flatMap f) := by
  have hproper : ∀ c ∈ t.children l, IsProper c.1 := fun c hc =>
    hn.proper ht ((mem_children ht.nodup).mp hc)
  constructor
  · apply List.pairwise_flatMap.mpr
    refine ⟨fun c hc => (hf c hc).1, ?_⟩
    apply (children_lt ht.nodup l).imp_of_mem
    intro a b ha hb hlt p hp q hq
    exact components_lt (hproper a ha) (hproper b hb) hlt ((hf a ha).2 p hp) ((hf b hb).2 q hq)
  · intro p hp
    obtain ⟨c, hc, hp⟩ := List.mem_flatMap.mp hp
    have hbelow := (hf c hc).2 p hp
    rw [components_join path (hproper c hc)] at hbelow
    exact (List.prefix_append _ _).trans hbelow

lemma sortedBelow_listed {f : String × Entry → List String} {path : String} (ht : t.WellFormed)
    (hn : t.Named) (hf : ∀ c ∈ t.listed path, SortedBelow (join path c.1) (f c)) :
    SortedBelow path ((t.listed path).flatMap f) := by
  unfold listed at hf ⊢
  cases hes : t.list path with
  | error e => exact ⟨List.Pairwise.nil, List.forall_mem_nil _⟩
  | ok es =>
    obtain ⟨l, _, rfl⟩ := list_eq_ok_iff.mp hes
    rw [hes] at hf
    exact sortedBelow_flatMap ht hn hf

lemma sortedBelow_filesAtDepth (ht : t.WellFormed) (hn : t.Named) (depth : Nat) (path : String) :
    SortedBelow path (filesAtDepth t depth path) := by
  induction depth generalizing path with
  | zero =>
    apply sortedBelow_listed ht hn
    rintro ⟨n, e⟩ _
    cases e with
    | file c => exact ⟨List.pairwise_singleton _ _, List.forall_mem_singleton.mpr List.prefix_rfl⟩
    | directory => exact ⟨List.Pairwise.nil, List.forall_mem_nil _⟩
  | succ depth ih =>
    apply sortedBelow_listed ht hn
    rintro ⟨n, e⟩ _
    cases e with
    | file c => exact ⟨List.Pairwise.nil, List.forall_mem_nil _⟩
    | directory => exact ih (join path n)

lemma sorted_layoutFiles (ht : t.WellFormed) (hn : t.Named) (workspace : String) :
    (layoutFiles t workspace).Pairwise (components · < components ·) :=
  (sortedBelow_filesAtDepth ht hn 2 _).1.filter _

end Order

section Found

lemma isLayoutFile_pathBelow (hns : ∀ n ∈ ns, IsProper n) (hne : ns ≠ [])
    (hb : ∀ n ∈ ns, '\\' ∉ n.toList) : isLayoutFile workspace (pathBelow workspace ns) = true ↔
    ∃ a stem, a ≠ [] ∧ stem ≠ [] ∧ ns.map String.toList = layoutNames a stem := by
  have hback : ∀ n ∈ ns.map String.toList, '\\' ∉ n := List.forall_mem_map.mpr hb
  have hslash : ∀ n ∈ ns.map String.toList, '/' ∉ n :=
    List.forall_mem_map.mpr fun n hn => (hns n hn).whole
  rw [isLayoutFile, relativeTo?_pathBelow workspace hns hne]
  dsimp only
  rw [isLayoutName_iff]
  simp only [pieces_withSlashes_iff hback hslash]

lemma mem_layoutFiles_of_below (ht : t.WellFormed) (hn : t.Named) (hw : Walkable t workspace)
    (hp : IsFileBelow t workspace p) (hl : isLayoutFile workspace p = true) :
    p ∈ layoutFiles t workspace := by
  obtain ⟨ns, c, hne, hf, rfl⟩ := hp
  have hproper := hn.proper_of_find? ht hf
  obtain ⟨a, stem, _, _, hmap⟩ :=
    (isLayoutFile_pathBelow hproper hne (hw.plain ns (by simp [hf]))).mp hl
  have hns : ns = ["res", String.ofList a, "layout", String.ofList (stem ++ ".xml".toList)] := by
    have h := congrArg (List.map String.ofList) hmap
    simpa [layoutNames, Function.comp_def, String.ofList_toList] using h
  subst hns
  set n := String.ofList (stem ++ ".xml".toList)
  have hres : IsProper "res" := by decide
  have hloc : t.location (resources workspace) = t.location workspace ++ ["res"] :=
    location_join workspace hres t
  -- The directories on the way to the file.
  have hfile : t.find? (t.location (resources workspace) ++ [String.ofList a] ++ ["layout"] ++ [n]) =
      some (.file c) := by
    rw [hloc]
    simpa using hf
  have hlayout := ht.around _ _ (by rw [hfile]; simp)
  have hdir := ht.around _ _ (by rw [hlayout]; simp)
  have htop := ht.around _ _ (by rw [hdir]; simp)
  obtain ⟨l, hlookup⟩ := isDirectory_iff_lookup.mp (hw.readable ["res"] (by simp) (hloc ▸ htop))
  obtain ⟨la, hla⟩ := isDirectory_iff_lookup.mp
    (hw.readable ["res", String.ofList a] (by simp) (by simpa [hloc] using hdir))
  obtain ⟨lb, hlb⟩ := isDirectory_iff_lookup.mp
    (hw.readable ["res", String.ofList a, "layout"] (by simp) (by simpa [hloc] using hlayout))
  obtain ⟨rfl, _⟩ := lookup_directory ht hlookup
  obtain rfl := lookup_join_directory ht hn hlookup hdir hla
  obtain rfl := lookup_join_directory ht hn hla hlayout hlb
  exact (mem_layoutFiles ht hn).mpr ⟨hl, _, String.ofList a, "layout", n, c, hlookup, hla, hlb, hfile,
    rfl⟩

lemma isFileBelow_of_mem (ht : t.WellFormed) (hn : t.Named) (h : p ∈ layoutFiles t workspace) :
    IsFileBelow t workspace p := by
  obtain ⟨_, l, a, b, n, c, hlookup, _, _, hf, rfl⟩ := (mem_layoutFiles ht hn).mp h
  obtain ⟨rfl, _⟩ := lookup_directory ht hlookup
  have hloc : t.location (resources workspace) = t.location workspace ++ ["res"] :=
    location_join workspace (by decide) t
  refine ⟨["res", a, b, n], c, by simp, ?_, rfl⟩
  rw [hloc] at hf
  simpa using hf

end Found

section Handled

variable {g : Generator}

lemma notApplicable_processLayout (g : Generator) (t : FileTree) (layout : String) :
    (g.processLayout t layout).2.2.layout = layout ∧
      ((g.processLayout t layout).2.2.notApplicable = true ↔
        LayoutPaths.derive? g.workspace layout g.settings = none) := by
  cases hp : LayoutPaths.derive? g.workspace layout g.settings with
  | none => simp [g.processLayout_of_none hp]
  | some paths =>
    cases hd : Generator.readLayout t layout with
    | error f => simp [g.processLayout_of_error hp hd]
    | ok d =>
      rw [g.processLayout_steps hp hd]
      simp

lemma reports_processAll {layouts : List String}
    (hl : ∀ p ∈ layouts, LayoutPaths.derive? g.workspace p g.settings ≠ none) (t : FileTree) :
    (g.processAll t layouts).2.2.map (·.layout) = layouts ∧
      ∀ r ∈ (g.processAll t layouts).2.2, r.notApplicable = false := by
  induction layouts generalizing g t with
  | nil => exact ⟨rfl, List.forall_mem_nil _⟩
  | cons layout layouts ih =>
    obtain ⟨hfirst, hnot⟩ := notApplicable_processLayout g t layout
    obtain ⟨c, hg⟩ := g.settings_processLayout t layout
    have hrest : ∀ p ∈ layouts, LayoutPaths.derive? (g.processLayout t layout).2.1.workspace p
        (g.processLayout t layout).2.1.settings ≠ none := by
      rw [hg]
      exact fun p hp => hl p (List.mem_cons_of_mem _ hp)
    obtain ⟨hmap, hall⟩ := ih hrest (g.processLayout t layout).1
    have happ : (g.processLayout t layout).2.2.notApplicable = false := by
      rw [Bool.eq_false_iff, Ne, hnot]
      exact hl layout List.mem_cons_self
    rw [Generator.processAll]
    exact ⟨congrArg₂ List.cons hfirst hmap, List.forall_mem_cons.mpr ⟨happ, hall⟩⟩

end Handled

/-- In a workspace that can be walked, the layouts that are found stand in the order of their
components, none twice, and are the files below the workspace that the filter lets through. Each has a
name for its modules. So those that are handled together are the same as those that are handled when
they are saved. -/
theorem layoutFiles_agree (t : FileTree) (workspace : String) (ht : t.WellFormed) (hn : t.Named)
    (hw : Walkable t workspace) :
    (layoutFiles t workspace).Pairwise (components · < components ·) ∧
    (∀ p, p ∈ layoutFiles t workspace ↔ IsFileBelow t workspace p ∧ isLayoutFile workspace p = true) ∧
    (∀ p ∈ layoutFiles t workspace, ∀ s, ∃ paths,
      LayoutPaths.derive? workspace p s = some paths ∧ paths.baseName ≠ "") ∧
    ∀ g : Generator, g.workspace = workspace →
      (g.processWorkspace t).2.2.map (·.layout) = layoutFiles t workspace ∧
      (∀ r ∈ (g.processWorkspace t).2.2, r.notApplicable = false) ∧
      ∀ p, IsFileBelow t workspace p → ∀ u,
        ((g.processLayout u p).2.2.notApplicable = false ↔ p ∈ layoutFiles t workspace) := by
  have hmem : ∀ p, p ∈ layoutFiles t workspace ↔
      IsFileBelow t workspace p ∧ isLayoutFile workspace p = true := fun p =>
    ⟨fun h => ⟨isFileBelow_of_mem ht hn h, ((mem_layoutFiles ht hn).mp h).1⟩,
      fun h => mem_layoutFiles_of_below ht hn hw h.1 h.2⟩
  have hderive : ∀ p ∈ layoutFiles t workspace, ∀ s, ∃ paths,
      LayoutPaths.derive? workspace p s = some paths ∧ paths.baseName ≠ "" := by
    intro p hp s
    obtain ⟨paths, hpaths, _⟩ := (isPlaced_of_mem ht hn hp).derive? s
    exact ⟨paths, hpaths, Generator.baseName_ne_empty hpaths⟩
  refine ⟨sorted_layoutFiles ht hn workspace, hmem, hderive, ?_⟩
  rintro g rfl
  have hsome : ∀ p ∈ layoutFiles t g.workspace,
      LayoutPaths.derive? g.workspace p g.settings ≠ none := by
    intro p hp
    obtain ⟨paths, hpaths, _⟩ := hderive p hp g.settings
    simp [hpaths]
  obtain ⟨hlayouts, hreports⟩ := reports_processAll hsome t
  refine ⟨hlayouts, hreports, fun p hp u => ?_⟩
  rw [Bool.eq_false_iff, Ne, (notApplicable_processLayout g u p).2]
  constructor
  · intro h
    obtain ⟨paths, hpaths⟩ := Option.ne_none_iff_exists'.mp h
    exact (hmem p).mpr ⟨hp, Generator.isLayoutFile_of_derive? hpaths⟩
  · exact hsome p

def crowdedTree : FileTree where
  entries := [
    (["w"], .directory), (["w", "res"], .directory), (["w", "res", "a"], .directory),
    (["w", "res", "a", "layout"], .directory),
    (["w", "res", "a", "layout", ".b.xml"], .file "".toUTF8),
    (["w", "res", "a", "layout", "c.xml"], .directory),
    (["w", "res", "a", "layout", "c.xml", "d.xml"], .file "".toUTF8),
    (["w", "res", "layout"], .directory),
    (["w", "res", "layout", "e.xml"], .file "".toUTF8)]

theorem layoutFiles_agree_sample :
    crowdedTree.WellFormed ∧ crowdedTree.Named ∧ Walkable crowdedTree "/w" ∧
      "/w/res/a/layout/.b.xml" ∈ layoutFiles crowdedTree "/w" ∧
      "/w/res/a/layout/c.xml/d.xml" ∉ layoutFiles crowdedTree "/w" ∧
      "/w/res/layout/e.xml" ∉ layoutFiles crowdedTree "/w" := by
  have ht : crowdedTree.WellFormed := by decide +kernel
  have hn : crowdedTree.Named := by decide +kernel
  have hw : Walkable crowdedTree "/w" := walkable_of_entries ht (by decide +kernel)
  obtain ⟨_, hmem, _⟩ := layoutFiles_agree crowdedTree "/w" ht hn hw
  have hnot : ∀ p, isLayoutFile "/w" p = false → p ∉ layoutFiles crowdedTree "/w" := by
    intro p hp h
    exact absurd ((hmem p).mp h).2 (by simp [hp])
  have hbelow : IsFileBelow crowdedTree "/w" "/w/res/a/layout/.b.xml" :=
    ⟨["res", "a", "layout", ".b.xml"], "".toUTF8, by decide, rfl, by decide⟩
  exact ⟨ht, hn, hw, (hmem _).mpr ⟨hbelow, by decide +kernel⟩, hnot _ (by decide +kernel),
    hnot _ (by decide +kernel)⟩

end Workspace

end LayoutSync
