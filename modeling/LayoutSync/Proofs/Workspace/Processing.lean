import LayoutSync.Proofs.Workspace.Updates

namespace LayoutSync

open FileTree Markup Layout Workspace

namespace Generator

variable (g : Generator)

def sourcePaths (paths : LayoutPaths) : List String :=
  let names := Source.ModuleNames.ofLayout paths.baseName
  [names.binding, names.event, names.factory].map (fun n => Path.join paths.outputDir (n ++ ".ts"))
    ++ if g.settings.presenterBase then
      [Path.join paths.presenterDir (names.presenterBase ++ ".ts")] else []

def targets (paths : LayoutPaths) : List String :=
  paths.layout :: paths.parameters :: paths.themes ++ g.sourcePaths paths

def themeStages (paths : LayoutPaths) (x : ViewIndex) : List (String × Stage) :=
  match x.root?.bind (·.propertySetName) with
  | none => []
  | some set => paths.themes.map fun path => (path, (updateFile · path (g.updateTheme path x set)))

def sourceStages (paths : LayoutPaths) (x : ViewIndex) : Except Fault ImportTable → List (String × Stage)
  | .error _ => []
  | .ok table =>
    (g.sources paths (g.request paths x table)).map fun s => (s.1, writeStage s.1 s.2.render)

def modules (paths : LayoutPaths) : Except Fault ImportTable → List String
  | .error _ => []
  | .ok _ => g.sourcePaths paths

/-- What is reported instead of the modules when there are no imports. -/
def refusal (paths : LayoutPaths) : Except Fault ImportTable → List FileStatus
  | .error f => [⟨paths.outputDir, .failed f.message⟩]
  | .ok _ => []

def fileStages (paths : LayoutPaths) (x : ViewIndex) : List (String × Stage) :=
  (paths.parameters, g.syncParameterFile paths x) :: g.themeStages paths x

def stages (paths : LayoutPaths) (x : ViewIndex) (imports : Except Fault ImportTable) :
    List (String × Stage) :=
  g.fileStages paths x ++ g.sourceStages paths x imports

section Stages

variable {paths : LayoutPaths} {x : ViewIndex} {imports : Except Fault ImportTable} {t : FileTree}

lemma fileName_addImports (f : Source.File) (ss : List String) :
    (f.addImports ss).fileName = f.fileName := by
  unfold Source.File.addImports
  induction ss generalizing f with
  | nil => rfl
  | cons s ss ih =>
    rw [List.foldl_cons, ih]
    unfold Source.File.addImport
    split <;> rfl

lemma map_fst_sourceStages (paths : LayoutPaths) (x : ViewIndex) (imports : Except Fault ImportTable) :
    (g.sourceStages paths x imports).map Prod.fst = g.modules paths imports := by
  cases imports with
  | error f => rfl
  | ok table =>
    have hs : (g.sources paths (g.request paths x table)).map Prod.fst = g.sourcePaths paths := by
      unfold sources sourcePaths Source.binding Source.eventDispatch Source.factory
        Source.presenterBase
      split <;> simp [Source.File.push, fileName_addImports, Source.Request.names, request]
    rw [sourceStages, List.map_map, modules, ← hs]
    rfl

lemma modules_sublist (paths : LayoutPaths) (imports : Except Fault ImportTable) :
    (g.modules paths imports).Sublist (g.sourcePaths paths) := by
  cases imports with
  | error f => exact List.nil_sublist _
  | ok table => exact List.Sublist.refl _

lemma exists_of_mem_sourceStages {s : String × Stage} (h : s ∈ g.sourceStages paths x imports) :
    s.1 ∈ g.sourcePaths paths ∧ ∃ text, s.2 = writeStage s.1 text := by
  have hm := List.mem_map_of_mem (f := Prod.fst) h
  rw [map_fst_sourceStages] at hm
  refine ⟨(g.modules_sublist paths imports).subset hm, ?_⟩
  cases imports with
  | error f => cases h
  | ok table =>
    obtain ⟨f, _, rfl⟩ := List.mem_map.mp h
    exact ⟨_, rfl⟩

lemma eachFile_eq (stage : String → Stage) (ps : List String) (t : FileTree) :
    eachFile stage ps t = runStages (ps.map fun p => (p, stage p)) t := by
  induction ps generalizing t with
  | nil => rfl
  | cons p ps ih => simp only [eachFile, List.map_cons, runStages, ih]

lemma writeFiles_eq (fs : List (String × Source.File)) (t : FileTree) :
    writeFiles fs t = runStages (fs.map fun s => (s.1, writeStage s.1 s.2.render)) t := by
  induction fs generalizing t with
  | nil => rfl
  | cons f fs ih => simp only [writeFiles, List.map_cons, runStages, writeStage, ih]

lemma writeSources_eq (paths : LayoutPaths) (x : ViewIndex) (imports : Except Fault ImportTable)
    (t : FileTree) : g.writeSources paths x imports t =
      ((runStages (g.sourceStages paths x imports) t).1,
        (runStages (g.sourceStages paths x imports) t).2 ++ refusal paths imports) := by
  cases imports with
  | error f => rfl
  | ok table =>
    rw [writeSources, writeFiles_eq]
    exact Prod.ext rfl (List.append_nil _).symm

lemma syncThemeFiles_eq (paths : LayoutPaths) (x : ViewIndex) (t : FileTree) :
    (g.syncThemeFiles paths x t).1 = (runStages (g.themeStages paths x) t).1 ∧
      ∀ r ∈ (g.syncThemeFiles paths x t).2,
        r.status = .skipped ∨ r ∈ (runStages (g.themeStages paths x) t).2 := by
  unfold syncThemeFiles themeStages
  cases x.root?.bind (·.propertySetName) with
  | none =>
    refine ⟨rfl, fun r hr => .inl ?_⟩
    obtain ⟨p, _, rfl⟩ := List.mem_map.mp hr
    rfl
  | some set =>
    dsimp only
    rw [eachFile_eq]
    exact ⟨rfl, fun r hr => .inr hr⟩

end Stages

section Derived

variable {workspace layout : String} {s : Settings} {paths : LayoutPaths}

lemma derive?_eq_some_iff : LayoutPaths.derive? workspace layout s = some paths ↔
    isLayoutFile workspace layout = true ∧ ∃ baseName directory,
      Path.stem? layout = some baseName ∧ themeDirectory? layout = some directory ∧
        { layout, baseName
          start := Source.filePrefix baseName
          parameters := Path.withExtension layout "json"
          themes := s.themeVariants.map (Path.join directory)
          outputDir := Path.join workspace s.outputDir
          presenterDir := Path.join workspace s.presenterDir } = paths := by
  unfold LayoutPaths.derive?
  cases isLayoutFile workspace layout with
  | false => simp
  | true => simp [Option.bind_eq_some_iff]

lemma derive?_eq (h : LayoutPaths.derive? workspace layout s = some paths) :
    paths.layout = layout ∧ paths.parameters = Path.withExtension layout "json" := by
  obtain ⟨_, _, _, _, _, rfl⟩ := derive?_eq_some_iff.mp h
  exact ⟨rfl, rfl⟩

lemma stem?_of_derive? (h : LayoutPaths.derive? workspace layout s = some paths) :
    Path.stem? layout = some paths.baseName := by
  obtain ⟨_, _, _, hb, _, rfl⟩ := derive?_eq_some_iff.mp h
  exact hb

lemma baseName_ne_empty (h : LayoutPaths.derive? workspace layout s = some paths) :
    paths.baseName ≠ "" :=
  Path.stem?_ne_empty (stem?_of_derive? h)

lemma isLayoutFile_of_derive? (h : LayoutPaths.derive? workspace layout s = some paths) :
    isLayoutFile workspace layout = true := (derive?_eq_some_iff.mp h).1

end Derived

section Process

variable {t : FileTree} {layout : String} {paths : LayoutPaths}

lemma processLayout_of_none (h : LayoutPaths.derive? g.workspace layout g.settings = none)
    (t : FileTree) : g.processLayout t layout = (t, g, { layout, notApplicable := true }) := by
  unfold processLayout
  rw [h]

lemma processLayout_of_error {f : Fault}
    (h : LayoutPaths.derive? g.workspace layout g.settings = some paths)
    (hf : readLayout t layout = .error f) :
    g.processLayout t layout = (t, g, { layout, normalize := .failed f.message }) := by
  unfold processLayout
  rw [h]
  dsimp only
  rw [hf]

lemma processLayout_steps {d : Document}
    (h : LayoutPaths.derive? g.workspace layout g.settings = some paths)
    (hd : readLayout t layout = .ok d) :
    let n := normalize d.root paths.baseName
    let w := writeLayout t layout n.1 n.2
    let x := ViewIndex.ofLayout n.1 g.settings.parentPolicy
    let ps := g.syncParameterFile paths x w.1
    let ts := g.syncThemeFiles paths x ps.1
    let ss := g.writeSources paths x (g.imports.get ts.1).1 ts.1
    g.processLayout t layout =
      (ss.1, { g with imports := (g.imports.get ts.1).2 },
        { layout, normalize := w.2, parameters := ps.2, themes := ts.2, sources := ss.2 }) := by
  unfold processLayout
  rw [h]
  dsimp only
  rw [hd]

lemma processLayout_cases (g : Generator) (t : FileTree) (layout : String) :
    (∃ r : Report, g.processLayout t layout = (t, g, r) ∧ r.themes = [] ∧ r.sources = [] ∧
      ∀ s ∈ r.statuses, s.status ≠ .written) ∨
    ∃ paths d, LayoutPaths.derive? g.workspace layout g.settings = some paths ∧
      readLayout t layout = .ok d := by
  cases hp : LayoutPaths.derive? g.workspace layout g.settings with
  | none => exact .inl ⟨_, g.processLayout_of_none hp t, rfl, rfl, by simp [Report.statuses]⟩
  | some paths =>
    cases hd : readLayout t layout with
    | error f => exact .inl ⟨_, g.processLayout_of_error hp hd, rfl, rfl, by simp [Report.statuses]⟩
    | ok d => exact .inr ⟨paths, d, rfl, rfl⟩

lemma status_of_mem_refusal {imports : Except Fault ImportTable} {s : FileStatus}
    (h : s ∈ refusal paths imports) : ∃ f : Fault, s.status = .failed f.message := by
  cases imports with
  | error f =>
    obtain rfl := List.mem_singleton.mp h
    exact ⟨f, rfl⟩
  | ok table => cases h

lemma processLayout_of_ok {d : Document}
    (h : LayoutPaths.derive? g.workspace layout g.settings = some paths)
    (hd : readLayout t layout = .ok d) :
    let n := normalize d.root paths.baseName
    let w := writeLayout t layout n.1 n.2
    let x := ViewIndex.ofLayout n.1 g.settings.parentPolicy
    let c := g.imports.get (runStages (g.fileStages paths x) w.1).1
    (g.processLayout t layout).1 = (runStages (g.stages paths x c.1) w.1).1 ∧
    (g.processLayout t layout).2.1 = { g with imports := c.2 } ∧
    ∀ s ∈ (g.processLayout t layout).2.2.statuses, s.status = w.2 ∨ s.status = .skipped ∨
      (∃ f : Fault, s.status = .failed f.message) ∨
      ∃ r ∈ (runStages (g.stages paths x c.1) w.1).2, r.status = s.status := by
  intro n w x c
  have he := g.processLayout_steps h hd
  obtain ⟨h1, h2⟩ := g.syncThemeFiles_eq paths x (g.syncParameterFile paths x w.1).1
  have hfile : (runStages (g.fileStages paths x) w.1).1 =
      (g.syncThemeFiles paths x (g.syncParameterFile paths x w.1).1).1 := h1.symm
  simp only [c, stages, runStages_append, hfile]
  rw [he]
  simp only [writeSources_eq]
  refine ⟨rfl, rfl, fun s hs => ?_⟩
  simp only [Report.statuses, List.mem_append, List.mem_cons, List.not_mem_nil, or_false] at hs
  rcases hs with ((rfl | rfl) | hs) | hs | hs
  · exact .inl rfl
  · exact .inr (.inr (.inr ⟨_, List.mem_append_left _ List.mem_cons_self, rfl⟩))
  · rcases h2 s hs with hs | hs
    · exact .inr (.inl hs)
    · exact .inr (.inr (.inr ⟨s, List.mem_append_left _ (List.mem_cons_of_mem _ hs), rfl⟩))
  · exact .inr (.inr (.inr ⟨s, List.mem_append_right _ hs, rfl⟩))
  · exact .inr (.inr (.inl (status_of_mem_refusal hs)))

lemma settings_processLayout (g : Generator) (t : FileTree) (layout : String) :
    ∃ c, (g.processLayout t layout).2.1 = { g with imports := c } := by
  rcases g.processLayout_cases t layout with ⟨r, he, _⟩ | ⟨paths, d, hp, hd⟩
  · exact ⟨g.imports, by rw [he]⟩
  · exact ⟨_, (g.processLayout_of_ok hp hd).2.1⟩

end Process

end Generator

end LayoutSync
