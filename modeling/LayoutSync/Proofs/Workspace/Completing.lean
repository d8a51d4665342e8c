import LayoutSync.Proofs.FileTree.Ways
import LayoutSync.Proofs.ImportTable.Repository
import LayoutSync.Proofs.Layout.Provision
import LayoutSync.Proofs.Workspace.Sequence
import LayoutSync.Proofs.Workspace.SharedThemes

/-!
What the handling of one layout leaves behind when nothing fails. Its files are up to date, and they
stay so while other files are handled that lie apart.
-/

namespace LayoutSync

open FileTree Markup Layout Workspace Theme

section Files

variable {t s u : FileTree} {p : String}

namespace FileTree

lemma HasWay.readText? (h : t.HasWay p) (hn : Near p t s) : s.readText? p = t.readText? p := by
  rw [readText?_eq, readText?_eq, h.read hn]

lemma HasWay.textAt? (h : t.HasWay p) (ht : t.WellFormed) {existing : Option String}
    (hr : t.readText? p = .ok existing) : t.textAt? p = existing := by
  cases existing with
  | some text => exact textAt?_of_holds hr
  | none =>
    have hm := read_missing_of_readText? hr
    rw [FileTree.textAt?]
    rcases sound_of_read (.inl hm) with rfl | hf
    · have hd : t.find? (t.location "") = some .directory := ht.start ""
      rw [hd]
    · rw [h.find?_of_missing hf hm]

end FileTree

end Files

namespace Generator

variable {g : Generator} {t u v w : FileTree} {ps qs : List String} {layout : String}
  {paths : LayoutPaths} {x : ViewIndex} {table : ImportTable} {ws : List (ViewIndex × String)}

def ownFiles (g : Generator) (paths : LayoutPaths) : List String :=
  paths.layout :: paths.parameters :: g.sourcePaths paths

section Steps

end Steps

structure UpToDate (g : Generator) (table : ImportTable) (t u : FileTree) (paths : LayoutPaths)
    (x : ViewIndex) : Prop where
  layout : ∃ d, readLayout u paths.layout = .ok d ∧
    normalize d.root paths.baseName = (d.root, false) ∧
    x = ViewIndex.ofLayout d.root g.settings.parentPolicy
  parameters : ∃ before after, Parameters.parse (t.textAt? paths.parameters) = .ok before ∧
    u.readText? paths.parameters = .ok after ∧
    Parameters.parse after = .ok (ParametersUpdate.ofParameters x
      g.settings.defaultContainerType before).parameters
  sources : ∀ s ∈ g.sources paths (g.request paths x table), u.read s.1 = .ok s.2.render.toUTF8

lemma hasWay_parameters {d : Document}
    (hp : LayoutPaths.derive? g.workspace layout g.settings = some paths)
    (hd : readLayout u layout = .ok d) : u.HasWay paths.parameters := by
  obtain ⟨source, hr, _⟩ := readLayout_ok_iff.mp hd
  rw [(derive?_eq hp).2]
  exact hasWay_withExtension hr (by decide) (by decide)

lemma UpToDate.near (h : g.UpToDate table t u paths x)
    (hp : LayoutPaths.derive? g.workspace layout g.settings = some paths)
    (hn : ∀ p ∈ g.ownFiles paths, Near p u v) : g.UpToDate table t v paths x := by
  simp only [ownFiles, List.forall_mem_cons] at hn
  obtain ⟨hl, hpar, hs⟩ := hn
  obtain ⟨d, hd, hc, hx⟩ := h.layout
  obtain ⟨before, after, hb, hr, ha⟩ := h.parameters
  have hw := hasWay_parameters hp ((derive?_eq hp).1 ▸ hd)
  refine ⟨⟨d, readLayout_keeps hl.keeps hd, hc, hx⟩, ⟨before, after, hb, ?_, ha⟩, fun s hm => ?_⟩
  · rw [hw.readText? hpar, hr]
  · have hm' : s.1 ∈ g.sourcePaths paths := by
      rw [← modules, ← g.map_fst_sourceStages paths x (.ok table), sourceStages, List.map_map]
      exact List.mem_map_of_mem (f := Prod.fst) hm
    have hread := h.sources s hm
    rw [(hs s.1 hm').keeps.read (by rw [hread]; simp), hread]

section Again

lemma updateFile_unchanged {update : Option String → Except Fault (Option String)} {path : String}
    {existing : Option String} (hr : u.readText? path = .ok existing)
    (hu : update existing = .ok none) : updateFile u path update = (u, .unchanged) := by
  unfold updateFile
  simp only [hr, hu]
  rfl

namespace UpToDate

variable (h : g.UpToDate table t u paths x)

include h

lemma syncParameterFile_again : g.syncParameterFile paths x u = (u, .unchanged) := by
  obtain ⟨before, after, _, hr, ha⟩ := h.parameters
  refine updateFile_unchanged hr ?_
  rw [updateParameters, syncParameters, ha, ok_bind, pure_eq_ok,
    ParametersUpdate.ofParameters_again]
  rfl

lemma syncThemeFiles_again
    (hp : LayoutPaths.derive? g.workspace paths.layout g.settings = some paths)
    (hm : ThemesMeet paths.themes ws u) (hx : (x, paths.baseName) ∈ ws) :
    g.syncThemeFiles paths x u = (u, paths.themes.map (⟨·, .unchanged⟩)) := by
  obtain ⟨d, _, hc, hxd⟩ := h.layout
  unfold syncThemeFiles
  rw [hxd, propertySetName_of_normalize hc (baseName_ne_empty hp), ← hxd]
  dsimp only
  rw [eachFile_eq, runStages_of_same, List.map_map]
  · rfl
  · intro s hs
    obtain ⟨path, hpath, rfl⟩ := List.mem_map.mp hs
    obtain rfl | hmeets := hm.meets
    · cases hx
    obtain ⟨text, ht, htext⟩ := hmeets path hpath
    refine updateFile_unchanged ht ?_
    obtain ⟨e, he, _, hcov⟩ := htext.load (themeName path) g.settings.baseTheme
    rw [updateTheme, he]
    dsimp only
    rw [sync_of_covers (hcov _ hx)]
    rfl

lemma writeSources_again : g.writeSources paths x (.ok table) u =
    (u, (g.sourceStages paths x (.ok table)).map fun s => ⟨s.1, .unchanged⟩) := by
  rw [writeSources_eq, runStages_of_same]
  · exact Prod.ext rfl (List.append_nil _)
  · intro s hs
    obtain ⟨f, hf, rfl⟩ := List.mem_map.mp hs
    simp only [writeStage, writeIfChanged_of_read (h.sources f hf)]
    rfl

lemma again (hp : LayoutPaths.derive? g.workspace layout g.settings = some paths)
    (hi : (g.imports.get u).1 = .ok table) (hm : ThemesMeet paths.themes ws u)
    (hx : (x, paths.baseName) ∈ ws) :
    (g.processLayout u layout).1 = u ∧ (g.processLayout u layout).2.1 = g.withImportTable table ∧
      (g.processLayout u layout).2.2.isUnchanged = true := by
  obtain ⟨rfl, _⟩ := derive?_eq hp
  obtain ⟨d, hd, hc, hxd⟩ := h.layout
  have h₄ : g.writeSources paths x (g.imports.get u).1 u =
      (u, (g.sourceStages paths x (.ok table)).map fun s => ⟨s.1, .unchanged⟩) := by
    rw [hi, h.writeSources_again]
  have hrun := processLayout_of_course hp hd hc hxd.symm rfl h.syncParameterFile_again
    (h.syncThemeFiles_again hp hm hx) h₄
  rw [ImportTable.Cache.get_snd, hi] at hrun
  rw [hrun]
  refine ⟨rfl, rfl, ?_⟩
  simp [Report.isUnchanged, Report.statuses, Status.isQuiet]

end UpToDate

end Again

end Generator

end LayoutSync
