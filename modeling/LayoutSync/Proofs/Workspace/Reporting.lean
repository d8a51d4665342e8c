import LayoutSync.Proofs.FileTree.Clear
import LayoutSync.Proofs.Workspace.Effects
import LayoutSync.Proofs.Workspace.Saving

/-!
What the report on a saved layout says. Only files that belong to the layout are written and only
directories on the way to them are made, and the report names those files whose content is another.
-/

namespace LayoutSync

open FileTree Markup Layout Workspace

namespace Generator

variable (g : Generator)

def themeStage (x : ViewIndex) (path : String) (t : FileTree) : Step Status :=
  match x.root?.bind (·.propertySetName) with
  | none => (t, .skipped)
  | some set => updateFile t path (g.updateTheme path x set)

def handling (paths : LayoutPaths) (x : ViewIndex) (root : Element) (changed : Bool) :
    List (String × Stage) :=
  (paths.layout, (writeLayout · paths.layout root changed)) ::
    (paths.parameters, g.syncParameterFile paths x) ::
    paths.themes.map fun path => (path, g.themeStage x path)

def handled (paths : LayoutPaths) (imports : Except Fault ImportTable) : List String :=
  paths.layout :: paths.parameters :: paths.themes ++ g.modules paths imports

/-- A report names all modules, or it says in their place why they are not generated. -/
def ReportsSources (paths : LayoutPaths) (r : Report) : Except Fault ImportTable → Prop
  | .ok _ => r.sources.map (·.path) = g.sourcePaths paths
  | .error f => r.sources = [⟨paths.outputDir, .failed f.message⟩]

structure Course (t u : FileTree) (paths : LayoutPaths) (r : Report)
    (imports : Except Fault ImportTable) (stages : List (String × Stage))
    (written : List FileStatus) : Prop where
  effect : ∀ s ∈ stages, ∀ w, Effect s.1 w (s.2 w)
  run : runStages stages t =
    (u, ⟨paths.layout, r.normalize⟩ :: ⟨paths.parameters, r.parameters⟩ :: r.themes ++ written)
  themes : r.themes.map (·.path) = paths.themes
  modules : written.map (·.path) = g.modules paths imports
  sources : r.sources = written ++ refusal paths imports

section Handling

variable {g : Generator} {paths : LayoutPaths} {x : ViewIndex} {imports : Except Fault ImportTable}
  {root : Element} {changed : Bool} {t u : FileTree} {r : Report} {stages : List (String × Stage)}
  {written : List FileStatus} {layout : String}

lemma handled_sublist (paths : LayoutPaths) (imports : Except Fault ImportTable) :
    (g.handled paths imports).Sublist (g.targets paths) :=
  List.Sublist.append (List.Sublist.refl _) (g.modules_sublist paths imports)

lemma effect_writeLayout (t : FileTree) (layout : String) (root : Element) (changed : Bool) :
    Effect layout t (writeLayout t layout root changed) := by
  unfold writeLayout
  split
  · exact effect_writeStage t layout _
  · exact .kept (by decide)

lemma effect_themeStage (x : ViewIndex) (path : String) (t : FileTree) :
    Effect path t (g.themeStage x path t) := by
  unfold themeStage
  split
  · exact .kept (by decide)
  · exact effect_updateFile t path _

lemma effect_handling : ∀ s ∈ g.handling paths x root changed, ∀ w, Effect s.1 w (s.2 w) := by
  intro s hs w
  simp only [handling, List.mem_cons] at hs
  rcases hs with rfl | rfl | hs
  · exact effect_writeLayout w paths.layout root changed
  · exact effect_updateFile w paths.parameters _
  · obtain ⟨path, _, rfl⟩ := List.mem_map.mp hs
    exact effect_themeStage x path w

lemma effect_sourceStages : ∀ s ∈ g.sourceStages paths x imports, ∀ w, Effect s.1 w (s.2 w) := by
  intro s hs w
  obtain ⟨_, text, h⟩ := g.exists_of_mem_sourceStages hs
  rw [h]
  exact effect_writeStage w s.1 text

lemma syncThemeFiles_run (paths : LayoutPaths) (x : ViewIndex) (t : FileTree) :
    g.syncThemeFiles paths x t =
      runStages (paths.themes.map fun path => (path, g.themeStage x path)) t := by
  unfold syncThemeFiles themeStage
  cases x.root?.bind (·.propertySetName) with
  | some set => exact eachFile_eq _ _ _
  | none =>
    rw [runStages_of_same fun s hs => ?_, List.map_map]
    · rfl
    · obtain ⟨path, _, rfl⟩ := List.mem_map.mp hs
      rfl

lemma exists_course {d : Document}
    (h : LayoutPaths.derive? g.workspace layout g.settings = some paths)
    (hd : readLayout t layout = .ok d) :
    let after := g.processLayout t layout
    ∃ stages written, g.Course t after.1 paths after.2.2 (after.2.1.imports.get after.1).1 stages
      written := by
  have he := g.processLayout_steps h hd
  obtain ⟨rfl, _⟩ := derive?_eq h
  cases hn : normalize d.root paths.baseName with
  | mk root changed =>
  obtain ⟨x, hx⟩ : ∃ x, ViewIndex.ofLayout root g.settings.parentPolicy = x := ⟨_, rfl⟩
  simp only [hn, hx, syncThemeFiles_run, writeSources_eq] at he
  rw [he]
  dsimp only
  have hv : (runStages (g.handling paths x root changed) t).1 = (runStages (paths.themes.map
      fun path => (path, g.themeStage x path)) (g.syncParameterFile paths x
        (writeLayout t paths.layout root changed).1).1).1 := rfl
  rw [← hv]
  generalize hg : g.imports.get (runStages (g.handling paths x root changed) t).1 = c
  have hagain : (c.2.get (runStages (g.sourceStages paths x c.1)
      (runStages (g.handling paths x root changed) t).1).1).1 = c.1 := by
    rw [← hg]
    refine ImportTable.Cache.get_again _ ?_
    rintro ⟨f, hf⟩
    rw [hf]
    rfl
  rw [hagain]
  refine ⟨g.handling paths x root changed ++ g.sourceStages paths x c.1, _,
    List.forall_mem_append.mpr ⟨effect_handling, effect_sourceStages⟩, ?_, ?_, ?_, rfl⟩
  · rw [runStages_append]
    rfl
  · rw [map_path_run, List.map_map]
    exact List.map_id' paths.themes
  · rw [map_path_run, map_fst_sourceStages]

namespace Course

variable (h : g.Course t u paths r imports stages written)

include h

lemma paths_eq : stages.map Prod.fst = g.handled paths imports := by
  rw [← map_path_run stages t, h.run, List.map_append, h.modules, List.map_cons, List.map_cons,
    h.themes]
  rfl

lemma within : Within (g.targets paths) t u := by
  have hw := within_run h.effect t
  rw [h.run, h.paths_eq] at hw
  exact hw.mono (handled_sublist paths imports).subset

lemma tree_of_quiet (hq : r.isUnchanged = true) : u = t := by
  have ht := tree_of_quiet_run (t := t) h.effect
  rw [h.run] at ht
  refine ht ?_
  simp only [Report.isUnchanged, Report.statuses, h.sources, List.all_eq_true,
    List.forall_mem_append, List.forall_mem_cons] at hq
  simp only [List.cons_append, List.forall_mem_append, List.forall_mem_cons]
  exact ⟨hq.1.1.1, hq.1.1.2.1, hq.1.2, hq.2.1⟩

lemma nodup (hl : ((g.targets paths).map t.location).Nodup) :
    (stages.map fun s => t.location s.1).Nodup := by
  have hs := hl.sublist ((handled_sublist paths imports).map t.location)
  rwa [← h.paths_eq, List.map_map] at hs

lemma reportsSources : g.ReportsSources paths r imports := by
  cases imports with
  | ok table =>
    rw [ReportsSources, h.sources, List.map_append, h.modules]
    exact List.append_nil _
  | error f =>
    rw [ReportsSources, h.sources, List.map_eq_nil_iff.mp h.modules]
    rfl

end Course

end Handling

/-- No two files that belong to a layout are at one place, nor is one where the modules' directory is;
and none that is there is missed by its path. -/
structure Distinct (t : FileTree) (paths : LayoutPaths) : Prop where
  locations : ((paths.outputDir :: g.targets paths).map t.location).Nodup
  found : ∀ p ∈ g.targets paths, t.Finds p

lemma finds_of_plain {t : FileTree} {p : String} (ht : t.WellFormed) (hp : Plain p) : t.Finds p := by
  intro hm
  rw [contentAt?, (hp.clear ht hm).free]

/-- The report says of every file that belongs to the layout whether it was written, which it was
just if its content is another than before; and nothing else is. -/
structure Truthful (t u : FileTree) (paths : LayoutPaths) (r : Report) : Prop where
  within : Within (g.targets paths) t u
  layout : r.normalize = .written ↔ u.contentAt? paths.layout ≠ t.contentAt? paths.layout
  parameters : r.parameters = .written ↔
    u.contentAt? paths.parameters ≠ t.contentAt? paths.parameters
  themes : ∀ s ∈ r.themes, s.status = .written ↔ u.contentAt? s.path ≠ t.contentAt? s.path
  sources : ∀ s ∈ r.sources, s.status = .written ↔ u.contentAt? s.path ≠ t.contentAt? s.path

variable {g} {t : FileTree} {layout : String} {paths : LayoutPaths}

lemma Course.truthful {u : FileTree} {r : Report} {imports : Except Fault ImportTable}
    {stages : List (String × Stage)} {written : List FileStatus}
    (h : g.Course t u paths r imports stages written) (hs : g.Distinct t paths) :
    g.Truthful t u paths r := by
  obtain ⟨houtput, hl⟩ := List.nodup_cons.mp hs.locations
  have hfound : ∀ s ∈ stages, t.Finds s.1 := fun s hm =>
    hs.found s.1 ((handled_sublist paths imports).subset (h.paths_eq ▸ List.mem_map_of_mem hm))
  have ht := written_iff_run h.effect (h.nodup hl) hfound
  rw [h.run] at ht
  simp only [List.cons_append, List.forall_mem_cons, List.forall_mem_append] at ht
  obtain ⟨hlayout, hp, hts, hws⟩ := ht
  refine ⟨h.within, hlayout, hp, hts, ?_⟩
  rw [h.sources, List.forall_mem_append]
  refine ⟨hws, fun s hm => ?_⟩
  cases imports with
  | ok table => cases hm
  | error f =>
    obtain rfl := List.mem_singleton.mp hm
    have hc : u.contentAt? paths.outputDir = t.contentAt? paths.outputDir :=
      h.within.contentAt?_eq fun q hq he => houtput (he ▸ List.mem_map_of_mem hq)
    simp [hc]

/-- Only files that belong to the layout are written, and the report names them. Where there are no
imports, by what the generator knows afterwards, no module is written and the report says why. -/
theorem processLayout_reports (g : Generator) (t : FileTree) (layout : String)
    (h : ∀ paths, LayoutPaths.derive? g.workspace layout g.settings = some paths →
      g.Distinct t paths) :
    let u := (g.processLayout t layout).1
    let report := (g.processLayout t layout).2.2
    let imports := ((g.processLayout t layout).2.1.imports.get u).1
    (∀ paths, LayoutPaths.derive? g.workspace layout g.settings = some paths →
      g.Truthful t u paths report ∧
      ∀ d, readLayout t layout = .ok d → report.themes.map (·.path) = paths.themes ∧
        g.ReportsSources paths report imports) ∧
    (report.isUnchanged = true → u = t) ∧
    (LayoutPaths.derive? g.workspace layout g.settings = none → u = t ∧ report.notApplicable) ∧
    ∀ f, readLayout t layout = .error f → u = t := by
  dsimp only
  cases hp : LayoutPaths.derive? g.workspace layout g.settings with
  | none => simp [g.processLayout_of_none hp t]
  | some paths =>
    cases hd : readLayout t layout with
    | error f =>
      rw [g.processLayout_of_error hp hd]
      refine ⟨?_, fun _ => rfl, by simp, fun _ _ => rfl⟩
      intro paths' _
      exact ⟨⟨Within.refl _ t, by simp, by simp, by simp, by simp⟩, by simp⟩
    | ok d =>
      obtain ⟨stages, written, hc⟩ := exists_course hp hd
      refine ⟨?_, hc.tree_of_quiet, by simp, by simp⟩
      intro paths' hp'
      obtain rfl := Option.some.inj hp'
      exact ⟨hc.truthful (h paths hp), fun _ _ => ⟨hc.themes, hc.reportsSources⟩⟩

instance (t : FileTree) (p : String) : Decidable (t.Finds p) :=
  inferInstanceAs (Decidable (t.read p = .error .missing → t.contentAt? p = none))

lemma distinct_sample : sample.Distinct sampleTree samplePaths :=
  ⟨by decide +kernel, by decide +kernel⟩

theorem processLayout_reports_sample :
    (∀ paths, LayoutPaths.derive? sample.workspace samplePaths.layout sample.settings = some paths →
      sample.Distinct sampleTree paths) ∧
    let u := (sample.processLayout sampleTree samplePaths.layout).1
    let report := (sample.processLayout sampleTree samplePaths.layout).2.2
    sample.Truthful sampleTree u samplePaths report ∧ (report.isUnchanged = true → u = sampleTree) := by
  have h := forall_derive?_sample distinct_sample
  obtain ⟨h1, h2, _⟩ := processLayout_reports sample sampleTree samplePaths.layout h
  exact ⟨h, (h1 samplePaths derive?_sample).1, h2⟩

def detour : Generator := bare "/ws" { themeVariants := [], outputDir := "o/x/.." }

def detourPaths : LayoutPaths where
  layout := "/ws/res/a/layout/b.xml"
  baseName := "b"
  start := "B"
  parameters := "/ws/res/a/layout/b.json"
  themes := []
  outputDir := "/ws/o/x/.."
  presenterDir := "/ws/ts/presenter/base_with_view_and_event"

def detourTree : FileTree where
  entries := [
    (["ws"], .directory), (["ws", "res"], .directory), (["ws", "res", "a"], .directory),
    (["ws", "res", "a", "layout"], .directory), (["ws", "o"], .directory),
    (["ws", "res", "a", "layout", "b.xml"], .file layout.print.toUTF8),
    (["ws", "o", "BViewBinding.ts"], .file (Source.binding request).render.toUTF8)]
where
  layout : Document := ⟨{ tag := "Box" }⟩
  request : Source.Request := detour.request detourPaths
    (ViewIndex.ofLayout (normalize layout.root "b").1 .structural) .empty

theorem report_written_unchanged :
    LayoutPaths.derive? detour.workspace detourPaths.layout detour.settings = some detourPaths ∧
    (detour.targets detourPaths).Pairwise detourTree.Apart ∧
    let u := (detour.processLayout detourTree detourPaths.layout).1
    let report := (detour.processLayout detourTree detourPaths.layout).2.2
    ∃ s ∈ report.sources, s.status = .written ∧
      u.contentAt? s.path = detourTree.contentAt? s.path := by
  exact ⟨by decide +kernel, by decide +kernel, by decide +kernel⟩

end Generator

end LayoutSync
