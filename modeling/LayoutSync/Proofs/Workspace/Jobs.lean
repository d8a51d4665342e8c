import LayoutSync.Proofs.ImportTable.Repository
import LayoutSync.Proofs.Workspace.Commuting

/-!
What is done for a layout once it has its canonical form, as jobs. They may be done in any order, and
what one of them says of a file depends on no other file.
-/

namespace LayoutSync

open FileTree Markup Layout Workspace

-- Contents are compared as in the core library, whatever else is imported.
attribute [local instance(high)] ByteArray.instDecidableEq

variable {t s u w : FileTree} {p : String}

lemma get_of_interim {c : ImportTable.Cache} {ps : List String} (ht : t.WellFormed) (hn : t.Named)
    (ho : ∀ p ∈ ps, ∀ l ∈ t.trailOf p, ¬ t.location c.root <+: l)
    (hf : t.isDirectory c.root = true ∨ t.find? (t.location c.root) ≠ some .directory)
    (hu : Interim ps t u) : (c.get u).1 = (c.get t).1 := by
  have hd : ∀ l, t.find? l = some .directory → u.find? l = some .directory := fun l hl =>
    (hu.within.of_some hl).elim id fun ⟨_, _, he, _⟩ => by cases he
  have hl : u.location c.root = t.location c.root := location_congr hu.within.current _
  refine ImportTable.get_congr ?_
  by_cases hdir : t.isDirectory c.root = true
  · obtain ⟨l, hlt⟩ := isDirectory_iff_lookup.mp hdir
    obtain ⟨k, hlu⟩ := isDirectory_iff_lookup.mp (isDirectory_mono hu.within.current hd hdir)
    obtain ⟨rfl, _⟩ := lookup_directory ht hlt
    obtain ⟨rfl, _⟩ := lookup_directory hu.wellFormed hlu
    exact ImportTable.ofRepository_congr ⟨ht, hu.wellFormed, hlt, hl ▸ hlu, hu.below _ ho,
      fun _ _ => hn.proper_of_find? ht⟩
  · -- Nothing becomes the repository, for no path leads by its location.
    have hnu : ¬ u.isDirectory c.root = true := fun hdu => by
      have hfu := find?_of_isDirectory hu.wellFormed hdu
      rw [hl] at hfu
      rcases hu.within.find? (t.location c.root) with he | ⟨_, _, p, hp, hw⟩ | ⟨_, ⟨c, hc⟩, _⟩
      · exact hf.elim hdir fun hne => hne (he ▸ hfu)
      · exact ho p hp _ (mem_trailOf_of_mem_wayTo hw) (List.prefix_refl _)
      · rw [hc] at hfu
        cases hfu
    rw [ImportTable.ofRepository_of_not_directory hdir, ImportTable.ofRepository_of_not_directory hnu]

namespace Generator

inductive Job where
  | parameters
  | theme (path : String)
  | sources

variable (g : Generator)

def runJob (paths : LayoutPaths) (x : ViewIndex) : Job → FileTree → Step (List FileStatus)
  | .parameters, t =>
    let (t, status) := g.syncParameterFile paths x t
    (t, [⟨paths.parameters, status⟩])
  | .theme path, t => g.syncThemeFiles { paths with themes := [path] } x t
  | .sources, t => g.writeSources paths x (g.imports.get t).1 t

def runJobs (paths : LayoutPaths) (x : ViewIndex) : List Job → FileTree → Step (List FileStatus)
  | [], t => (t, [])
  | job :: jobs, t =>
    let (t, status) := g.runJob paths x job t
    let (t, rest) := runJobs paths x jobs t
    (t, status ++ rest)

def jobs (paths : LayoutPaths) : List Job :=
  .parameters :: paths.themes.map .theme ++ [.sources]

def files (paths : LayoutPaths) : List String :=
  paths.parameters :: paths.themes ++ g.sourcePaths paths

def jobStages (paths : LayoutPaths) (x : ViewIndex) (imports : Except Fault ImportTable) :
    Job → List (String × Stage)
  | .parameters => [(paths.parameters, g.syncParameterFile paths x)]
  | .theme path => [(path, g.themeStage x path)]
  | .sources => g.sourceStages paths x imports

def jobRefusal (paths : LayoutPaths) (imports : Except Fault ImportTable) : Job → List FileStatus
  | .sources => refusal paths imports
  | _ => []

section Jobs

variable {paths : LayoutPaths} {x : ViewIndex} {imports : Except Fault ImportTable} {layout : String}

lemma runJob_eq (paths : LayoutPaths) (x : ViewIndex) (job : Job) (t : FileTree) :
    let r := runStages (g.jobStages paths x (g.imports.get t).1 job) t
    g.runJob paths x job t = (r.1, r.2 ++ jobRefusal paths (g.imports.get t).1 job) := by
  cases job with
  | parameters => rfl
  | theme path =>
    rw [runJob, syncThemeFiles_run]
    rfl
  | sources => exact g.writeSources_eq paths x _ t

lemma runJobs_of_imports {js : List Job} {t : FileTree}
    (h : ∀ ks, ks ++ [.sources] <+: js → (g.imports.get (g.runJobs paths x ks t).1).1 = imports) :
    let r := runStages (js.flatMap (g.jobStages paths x imports)) t
    (g.runJobs paths x js t).1 = r.1 ∧
      (g.runJobs paths x js t).2.Perm (r.2 ++ js.flatMap (jobRefusal paths imports)) := by
  induction js generalizing t with
  | nil => exact ⟨rfl, .refl _⟩
  | cons j js ih =>
    have hj : g.runJob paths x j t = ((runStages (g.jobStages paths x imports j) t).1,
        (runStages (g.jobStages paths x imports j) t).2 ++ jobRefusal paths imports j) := by
      rw [runJob_eq]
      cases j with
      | parameters => rfl
      | theme path => rfl
      | sources =>
        have hg : (g.imports.get t).1 = imports := h [] (by simp)
        rw [hg]
    have hrest := ih (t := (g.runJob paths x j t).1) fun ks hk => h (j :: ks) (by simpa using hk)
    rw [hj] at hrest
    obtain ⟨htree, hstatus⟩ := hrest
    simp only [runJobs, hj, List.flatMap_cons, runStages_append]
    refine ⟨htree, ?_⟩
    calc _ = _ ++ (_ ++ _) := List.append_assoc _ _ _
      _ |>.Perm (_ ++ (_ ++ (_ ++ _))) := (hstatus.append_left _).append_left _
      _ |>.Perm (_ ++ (_ ++ (_ ++ _))) := (List.perm_append_comm_assoc _ _ _).append_left _
      _ = _ := (List.append_assoc _ _ _).symm

lemma runJobs_append (js ks : List Job) (t : FileTree) :
    g.runJobs paths x (js ++ ks) t =
      ((g.runJobs paths x ks (g.runJobs paths x js t).1).1,
        (g.runJobs paths x js t).2 ++ (g.runJobs paths x ks (g.runJobs paths x js t).1).2) := by
  induction js generalizing t with
  | nil => rfl
  | cons j js ih => simp only [List.cons_append, runJobs, ih, List.append_assoc]

lemma runJobs_themes (ps : List String) (t : FileTree) :
    g.runJobs paths x (ps.map .theme) t = g.syncThemeFiles { paths with themes := ps } x t := by
  rw [syncThemeFiles_run]
  induction ps generalizing t with
  | nil => rfl
  | cons p ps ih =>
    simp only [List.map_cons, runJobs, ih, runJob_eq, jobStages, runStages]
    rfl

lemma processLayout_jobs {d : Document}
    (h : LayoutPaths.derive? g.workspace layout g.settings = some paths)
    (hd : readLayout t layout = .ok d) :
    let n := normalize d.root paths.baseName
    let x := ViewIndex.ofLayout n.1 g.settings.parentPolicy
    let report := (g.processLayout t layout).2.2
    g.runJobs paths x (jobs paths) (writeLayout t layout n.1 n.2).1 =
      ((g.processLayout t layout).1,
        ⟨paths.parameters, report.parameters⟩ :: report.themes ++ report.sources) := by
  intro n x report
  have hp := g.processLayout_steps h hd
  simp only [report, hp, jobs, List.cons_append, runJobs, runJobs_append, runJobs_themes, runJob,
    List.append_nil, List.nil_append]
  rfl

lemma flatMap_jobStages (paths : LayoutPaths) (x : ViewIndex) (imports : Except Fault ImportTable) :
    ((jobs paths).flatMap (g.jobStages paths x imports)).map Prod.fst =
      paths.parameters :: paths.themes ++ g.modules paths imports := by
  simp [jobs, jobStages, List.flatMap_map, map_fst_sourceStages, List.map_flatMap]

lemma jobStages_sublist (paths : LayoutPaths) (x : ViewIndex) (imports : Except Fault ImportTable) :
    (((jobs paths).flatMap (g.jobStages paths x imports)).map Prod.fst).Sublist (g.files paths) := by
  rw [flatMap_jobStages]
  exact List.Sublist.append (List.Sublist.refl _) (g.modules_sublist paths imports)

end Jobs

/-- The files of the jobs lie apart, and no path to them enters the repository that imports are looked
up in. -/
structure Scattered (t : FileTree) (paths : LayoutPaths) : Prop where
  wellFormed : t.WellFormed
  named : t.Named
  apart : (g.files paths).Pairwise t.Apart
  outside : ∀ p ∈ g.files paths, ∀ l ∈ t.trailOf p, ¬ t.location g.imports.root <+: l

/-- Nothing stands in the way to those files that are missing, and the repository is not missed by
its path. -/
structure Independent (t : FileTree) (paths : LayoutPaths) : Prop extends g.Scattered t paths where
  clear : ∀ p ∈ g.files paths, t.read p = .error .missing → t.Clear p
  found : t.isDirectory g.imports.root = true ∨
    t.find? (t.location g.imports.root) ≠ some .directory

instance (t : FileTree) (paths : LayoutPaths) : Decidable (g.Scattered t paths) :=
  decidable_of_iff (t.WellFormed ∧ t.Named ∧ (g.files paths).Pairwise t.Apart ∧
      ∀ p ∈ g.files paths, ∀ l ∈ t.trailOf p, ¬ t.location g.imports.root <+: l)
    ⟨fun ⟨h1, h2, h3, h4⟩ => ⟨h1, h2, h3, h4⟩,
      fun h => ⟨h.wellFormed, h.named, h.apart, h.outside⟩⟩

instance (t : FileTree) (paths : LayoutPaths) : Decidable (g.Independent t paths) :=
  decidable_of_iff (g.Scattered t paths ∧
      (∀ p ∈ g.files paths, t.read p = .error .missing → t.Clear p) ∧
      (t.isDirectory g.imports.root = true ∨
        t.find? (t.location g.imports.root) ≠ some .directory))
    ⟨fun ⟨h1, h2, h3⟩ => ⟨h1, h2, h3⟩, fun h => ⟨h.toScattered, h.clear, h.found⟩⟩

lemma Scattered.independent (h : g.Scattered t paths) (hr : Plain g.imports.root)
    (hp : ∀ p ∈ g.files paths, Plain p) : g.Independent t paths := by
  refine ⟨h, fun p hm => (hp p hm).clear h.wellFormed, ?_⟩
  by_cases hd : t.find? (t.location g.imports.root) = some .directory
  · exact .inl (hr.isDirectory h.wellFormed hd)
  · exact .inr hd

section Independent

variable {g} {paths : LayoutPaths} {x : ViewIndex} {imports : Except Fault ImportTable}

lemma mem_files_of_jobStages {s : String × Stage}
    (h : s ∈ (jobs paths).flatMap (g.jobStages paths x imports)) : s.1 ∈ g.files paths :=
  (g.jobStages_sublist paths x imports).subset (List.mem_map_of_mem h)

lemma confined_jobStages (h : g.Independent t paths) (x : ViewIndex)
    (imports : Except Fault ImportTable) :
    ∀ s ∈ (jobs paths).flatMap (g.jobStages paths x imports), Confined t s.1 s.2 := by
  intro s hs
  have hc := mem_files_of_jobStages hs
  obtain ⟨job, _, hs⟩ := List.mem_flatMap.mp hs
  have hu : ∀ path update, path ∈ g.files paths → Confined t path (updateFile · path update) :=
    fun path update hm => ⟨local_updateFile h.wellFormed (h.clear path hm) update,
      (effect_updateFile · path update), (orderly_updateFile · path update)⟩
  cases job with
  | parameters =>
    obtain rfl := List.mem_singleton.mp hs
    exact hu _ _ hc
  | theme path =>
    obtain rfl := List.mem_singleton.mp hs
    unfold themeStage
    cases x.root?.bind (·.propertySetName) with
    | none => exact ⟨fun _ _ hn => alike_kept hn _, fun _ => .kept (by decide), Orderly.refl path⟩
    | some set => exact hu _ _ hc
  | sources =>
    obtain ⟨_, text, he⟩ := g.exists_of_mem_sourceStages hs
    rw [he]
    exact ⟨local_writeStage h.wellFormed (h.clear _ hc) text, (effect_writeStage · _ _),
      (orderly_writeStage · _ _)⟩

lemma get_imports_interim (h : g.Independent t paths) (hu : Interim (g.files paths) t u) :
    (g.imports.get u).1 = (g.imports.get t).1 :=
  get_of_interim h.wellFormed h.named h.outside h.found hu

lemma interim_runJobs (h : g.Independent t paths) {js : List Job} (hj : ∀ j ∈ js, j ∈ jobs paths)
    (hu : Interim (g.files paths) t u) : Interim (g.files paths) t (g.runJobs paths x js u).1 := by
  induction js generalizing u with
  | nil => exact hu
  | cons j js ih =>
    obtain ⟨hm, hj⟩ := List.forall_mem_cons.mp hj
    have hstep : Interim (g.files paths) t (g.runJob paths x j u).1 := by
      rw [runJob_eq]
      have hs : ∀ s ∈ g.jobStages paths x (g.imports.get u).1 j,
          s ∈ (jobs paths).flatMap (g.jobStages paths x (g.imports.get u).1) := fun s hs =>
        List.mem_flatMap_of_mem hm hs
      have hc := fun s hm => confined_jobStages h x _ s (hs s hm)
      exact interim_run hu (fun s hm => mem_files_of_jobStages (hs s hm))
        (fun s hm => (hc s hm).effect) fun s hm => (hc s hm).orderly
    exact ih hj hstep

lemma runJobs_eq (h : g.Independent t paths) (hi : (g.imports.get t).1 = imports) {js : List Job}
    (hj : js.Perm (jobs paths)) :
    let stages := js.flatMap (g.jobStages paths x imports)
    stages.Perm ((jobs paths).flatMap (g.jobStages paths x imports)) ∧
      Separately stages t t (runStages stages t) ∧
      (g.runJobs paths x js t).1 = (runStages stages t).1 ∧
      (g.runJobs paths x js t).2.Perm ((runStages stages t).2 ++ refusal paths imports) := by
  intro stages
  have hmem : ∀ j ∈ js, j ∈ jobs paths := fun j hm => hj.mem_iff.mp hm
  have hp : stages.Perm _ := hj.flatMap_right (g.jobStages paths x imports)
  have himports : ∀ ks, ks ++ [.sources] <+: js →
      (g.imports.get (g.runJobs paths x ks t).1).1 = imports := fun ks hk => by
    have hs : ∀ j ∈ ks, j ∈ js := fun j hm => hk.subset (List.mem_append_left _ hm)
    rw [← hi]
    exact get_imports_interim h
      (interim_runJobs h (fun j hm => hmem j (hs j hm)) (Interim.refl _ h.wellFormed))
  obtain ⟨htree, hstatus⟩ := g.runJobs_of_imports himports
  have hr : (js.flatMap (jobRefusal paths imports)).Perm (refusal paths imports) := by
    refine (hj.flatMap_right _).trans (.of_eq ?_)
    simp [jobs, jobRefusal, List.flatMap_map]
  refine ⟨hp, ?_, htree, hstatus.trans (hr.append_left _)⟩
  refine separately_run h.wellFormed (Interim.refl [] h.wellFormed) (by simp)
    (fun s hs => confined_jobStages h x _ s (hp.mem_iff.mp hs)) ?_
  rw [(hp.map Prod.fst).pairwise_iff Apart.symm]
  exact h.apart.sublist (g.jobStages_sublist paths x imports)

lemma runJobs_perm (h : g.Independent t paths) {js : List Job} (hj : js.Perm (jobs paths)) :
    let r := g.runJobs paths x (jobs paths) t
    let r' := g.runJobs paths x js t
    r'.1.current = r.1.current ∧ (∀ l, r'.1.find? l = r.1.find? l) ∧ r'.2.Perm r.2 := by
  obtain ⟨_, hsep, htree, hstatus⟩ := runJobs_eq (x := x) h rfl (.refl _)
  obtain ⟨hp, hsep', htree', hstatus'⟩ := runJobs_eq (x := x) h rfl hj
  obtain ⟨hcurrent, hfind, hperm⟩ := run_perm hp hsep hsep'
  dsimp only
  rw [htree, htree']
  exact ⟨hcurrent, hfind, hstatus'.trans ((hperm.append_right _).trans hstatus.symm)⟩

theorem processLayout_perm {layout : String} {d : Document}
    (h : LayoutPaths.derive? g.workspace layout g.settings = some paths)
    (hd : readLayout t layout = .ok d) :
    let n := normalize d.root paths.baseName
    let x := ViewIndex.ofLayout n.1 g.settings.parentPolicy
    let w := (writeLayout t layout n.1 n.2).1
    let report := (g.processLayout t layout).2.2
    g.Independent w paths → ∀ js, js.Perm (jobs paths) →
      (∀ l, (g.runJobs paths x js w).1.find? l = (g.processLayout t layout).1.find? l) ∧
        (g.runJobs paths x js w).2.Perm
          (⟨paths.parameters, report.parameters⟩ :: report.themes ++ report.sources) := by
  intro n x w report hw js hj
  have hr := g.processLayout_jobs h hd
  obtain ⟨_, hfind, hstatus⟩ := runJobs_perm (x := x) hw hj
  rw [hr] at hfind hstatus
  exact ⟨hfind, hstatus⟩

lemma mem_or_apart (h : g.Independent t paths) (x : ViewIndex) (imports : Except Fault ImportTable)
    (hp : p ∈ g.files paths) :
    let stages := (jobs paths).flatMap (g.jobStages paths x imports)
    p ∈ stages.map Prod.fst ∨ ∀ s ∈ stages, t.Apart s.1 p := by
  intro stages
  have hs : stages.map Prod.fst = paths.parameters :: paths.themes ++ g.modules paths imports :=
    g.flatMap_jobStages paths x imports
  rw [hs]
  rcases List.mem_append.mp hp with hp | hp
  · exact .inl (List.mem_append_left _ hp)
  · cases imports with
    | ok table => exact .inl (List.mem_append_right _ hp)
    | error f =>
      refine .inr fun s hm => (List.pairwise_append.mp h.apart).2.2 s.1 ?_ p hp
      have hm := List.mem_map_of_mem (f := Prod.fst) hm
      rwa [hs, modules, List.append_nil] at hm

lemma runJobs_along (ht : g.Independent t paths) (hs : g.Independent s paths)
    (hi : (g.imports.get s).1 = (g.imports.get t).1) (hp : p ∈ g.files paths) (hn : Near p t s)
    {js js' : List Job} (hj : js.Perm (jobs paths)) (hj' : js'.Perm (jobs paths)) :
    (g.runJobs paths x js' s).1.find? (t.location p) =
        (g.runJobs paths x js t).1.find? (t.location p) ∧
      ∀ status, ⟨p, status⟩ ∈ (g.runJobs paths x js' s).2 ↔
        ⟨p, status⟩ ∈ (g.runJobs paths x js t).2 := by
  obtain ⟨hf, hsep, htree, hstatus⟩ := runJobs_eq (x := x) ht rfl hj
  obtain ⟨hf', hsep', htree', hstatus'⟩ := runJobs_eq (x := x) hs hi hj'
  have hm := (mem_or_apart ht x (g.imports.get t).1 hp).imp ((hf.map Prod.fst).mem_iff.mpr ·)
    fun ha s hs => ha s (hf.mem_iff.mp hs)
  obtain ⟨hfind, hsaid⟩ := run_along ht.wellFormed hs.wellFormed hn
    (fun s hs => confined_jobStages ht x _ s (hf.mem_iff.mp hs)) hm (hf'.trans hf.symm) hsep hsep'
  rw [htree, htree']
  refine ⟨hfind, fun status => ?_⟩
  rw [hstatus.mem_iff, hstatus'.mem_iff, List.mem_append, List.mem_append, hsaid]

/-- The jobs for a layout may be done in any order, and what is said of a file and becomes of it
depends on nothing but the tree along the file's path. -/
theorem jobs_commute (g : Generator) (paths : LayoutPaths) (x : ViewIndex) (t : FileTree)
    (h : g.Independent t paths) :
    (∀ js, js.Perm (jobs paths) →
      let r := g.runJobs paths x (jobs paths) t
      let r' := g.runJobs paths x js t
      r'.1.current = r.1.current ∧ (∀ l, r'.1.find? l = r.1.find? l) ∧ r'.2.Perm r.2) ∧
    ∀ s, g.Independent s paths → s.current = t.current →
      (g.imports.get s).1 = (g.imports.get t).1 →
      ∀ p ∈ g.files paths, (∀ l ∈ t.trailOf p, s.find? l = t.find? l) →
        ∀ js js', js.Perm (jobs paths) → js'.Perm (jobs paths) →
          (g.runJobs paths x js' s).1.find? (t.location p) =
              (g.runJobs paths x js t).1.find? (t.location p) ∧
            ∀ status, ⟨p, status⟩ ∈ (g.runJobs paths x js' s).2 ↔
              ⟨p, status⟩ ∈ (g.runJobs paths x js t).2 :=
  ⟨fun _ hj => runJobs_perm h hj, fun _ hs hc hi _ hp hsame _ _ hj hj' =>
    runJobs_along h hs hi hp (near_of_same h.wellFormed hs.wellFormed hc hsame) hj hj'⟩

def spoiltTree : FileTree :=
  sampleTree.put ["w", "res", "theme", "default.xml"] (.file "<theme".toUTF8)

def sampleIndex : ViewIndex :=
  ViewIndex.ofLayout (normalize sampleTree.layout.root "login").1 .structural

theorem jobs_commute_sample :
    sample.Independent sampleTree samplePaths ∧ sample.Independent spoiltTree samplePaths ∧
    let js := (jobs samplePaths).reverse
    let r := sample.runJobs samplePaths sampleIndex (jobs samplePaths) sampleTree
    let r' := sample.runJobs samplePaths sampleIndex js sampleTree
    let spoilt := sample.runJobs samplePaths sampleIndex js spoiltTree
    (∀ l, r'.1.find? l = r.1.find? l) ∧ r'.2.Perm r.2 ∧ ∀ status,
      ⟨samplePaths.parameters, status⟩ ∈ spoilt.2 ↔ ⟨samplePaths.parameters, status⟩ ∈ r.2 := by
  have ht : sample.Independent sampleTree samplePaths := by decide +kernel
  have hs : sample.Independent spoiltTree samplePaths := by decide +kernel
  have hi : (sample.imports.get spoiltTree).1 = (sample.imports.get sampleTree).1 := by
    refine ImportTable.get_congr ?_
    rw [ImportTable.ofRepository_of_not_directory (by decide +kernel),
      ImportTable.ofRepository_of_not_directory (by decide +kernel)]
  have hj : (jobs samplePaths).reverse.Perm (jobs samplePaths) := List.reverse_perm _
  obtain ⟨h1, h2⟩ := jobs_commute sample samplePaths sampleIndex sampleTree ht
  obtain ⟨_, hfind, hstatus⟩ := h1 _ hj
  obtain ⟨_, halong⟩ := h2 spoiltTree hs rfl hi samplePaths.parameters (by decide)
    (by decide +kernel) _ _ (.refl _) hj
  exact ⟨ht, hs, hfind, hstatus, halong⟩

end Independent

/-- The order of the jobs makes a difference, although their files are scattered. -/
structure Contended (t : FileTree) (paths : LayoutPaths) (x : ViewIndex) : Prop where
  derived : LayoutPaths.derive? g.workspace paths.layout g.settings = some paths
  scattered : g.Scattered t paths
  differs : ∃ js, js.Perm (jobs paths) ∧
    ¬ ((g.runJobs paths x js t).2.Perm (g.runJobs paths x (jobs paths) t).2 ∧
      ∀ l, (g.runJobs paths x js t).1.find? l = (g.runJobs paths x (jobs paths) t).1.find? l)

section Winding

variable {g} {paths : LayoutPaths} {x : ViewIndex} {table : ImportTable}

def winding (theme outputDir moduleRoot : String) : Generator :=
  bare "/ws" { themeVariants := [theme], outputDir, moduleRoot }

def windingPaths (theme outputDir : String) : LayoutPaths where
  layout := "/ws/res/a/layout/b.xml"
  baseName := "b"
  start := "B"
  parameters := "/ws/res/a/layout/b.json"
  themes := [Path.join "/ws/res/theme" theme]
  outputDir := Path.join "/ws" outputDir
  presenterDir := "/ws/ts/presenter/base_with_view_and_event"

def windingTree : FileTree where
  entries := [
    (["ws"], .directory), (["ws", "res"], .directory), (["ws", "res", "a"], .directory),
    (["ws", "res", "a", "layout"], .directory), (["ws", "res", "theme"], .directory),
    (["ws", "res", "a", "layout", "b.xml"], .file layout.print.toUTF8),
    (["ws", "res", "theme", "t.xml"], .file "<".toUTF8), (["ws", "lib"], .directory),
    (["ws", "lib", "B.d.ts"], .file "".toUTF8), (["ws", "lib", "package.json"], .file "".toUTF8)]
where
  layout : Document := ⟨(normalize {
    tag := "V"
    children := [{ tag := "B", attributes := Dict.ofList [("id", "x")] }] } "b").1⟩

def windingIndex : ViewIndex := ViewIndex.ofLayout windingTree.layout.root .structural

lemma derive?_winding (theme outputDir moduleRoot : String) :
    LayoutPaths.derive? (winding theme outputDir moduleRoot).workspace
        (windingPaths theme outputDir).layout (winding theme outputDir moduleRoot).settings =
      some (windingPaths theme outputDir) := by
  have h1 : isLayoutFile "/ws" "/ws/res/a/layout/b.xml" = true := by decide +kernel
  have h2 : themeDirectory? "/ws/res/a/layout/b.xml" = some "/ws/res/theme" := by decide +kernel
  have h3 : Path.stem? "/ws/res/a/layout/b.xml" = some "b" := by decide +kernel
  have h4 : Path.withExtension "/ws/res/a/layout/b.xml" "json" = "/ws/res/a/layout/b.json" := by
    decide +kernel
  have h5 : Path.join "/ws" "ts/presenter/base_with_view_and_event" =
      "/ws/ts/presenter/base_with_view_and_event" := by decide +kernel
  have h6 : Source.filePrefix "b" = "B" := by decide +kernel
  simp [LayoutPaths.derive?, winding, bare, windingPaths, h1, h2, h3, h4, h5, h6]

def themeDetour : Generator := winding "x/../t.xml" "res/theme/x" "node_modules"

def themeDetourPaths : LayoutPaths := windingPaths "x/../t.xml" "res/theme/x"

lemma contended_themeDetour : themeDetour.Contended windingTree themeDetourPaths windingIndex := by
  have hne : ¬ ((themeDetour.runJobs themeDetourPaths windingIndex
      [.parameters, .sources, .theme (Path.join "/ws/res/theme" "x/../t.xml")]
        windingTree).2.map (·.status.isFailed)).Perm
      ((themeDetour.runJobs themeDetourPaths windingIndex (jobs themeDetourPaths)
        windingTree).2.map (·.status.isFailed)) := by
    decide +kernel
  exact ⟨derive?_winding _ _ _, by decide +kernel, _, .cons _ (.swap _ _ _),
    fun h => hne (h.1.map _)⟩

def repositoryDetour : Generator := winding "n/t.xml" "o" "res/theme/n/../../../lib"

def repositoryDetourPaths : LayoutPaths := windingPaths "n/t.xml" "o"

def newTheme : Job := .theme (Path.join "/ws/res/theme" "n/t.xml")

def afterParameters : FileTree :=
  (repositoryDetour.runJobs repositoryDetourPaths windingIndex [.parameters] windingTree).1

def afterTheme : FileTree :=
  (repositoryDetour.runJobs repositoryDetourPaths windingIndex [.parameters, newTheme] windingTree).1

lemma imports_afterParameters : (repositoryDetour.imports.get afterParameters).1 = .ok .empty := by
  rw [ImportTable.get_of_none rfl, ImportTable.ofRepository_of_not_directory (by decide)]

lemma imports_afterTheme :
    (repositoryDetour.imports.get afterTheme).1 = .ok (.ofList [("B", "B")]) := by
  have hl : afterTheme.lookup (Path.pathBelow repositoryDetour.imports.root []) =
      .ok (["ws", "lib"], .directory) := by rfl
  have hc : afterTheme.children ["ws", "lib"] =
      [("B.d.ts", .file "".toUTF8), ("package.json", .file "".toUTF8)] :=
    children_eq (by decide +kernel) (by decide)
  have hb : ImportTable.declaration? ["B.d.ts"] = some ("B", "B") := by decide +kernel
  have hm : ImportTable.declaration? ["package.json"] = none := by decide +kernel
  rw [ImportTable.get_of_none rfl, ImportTable.ofRepository_of_package (by decide) (by decide),
    ImportTable.filesBelow, listed, list_of_lookup hl]
  simp [hc, hb, hm]

lemma runJobs_themeLast : (repositoryDetour.runJobs repositoryDetourPaths windingIndex
    [.parameters, .sources, newTheme] windingTree).1 =
      (runStages ([.parameters, .sources, newTheme].flatMap
        (repositoryDetour.jobStages repositoryDetourPaths windingIndex (.ok .empty)))
          windingTree).1 := by
  refine (repositoryDetour.runJobs_of_imports fun ks hk => ?_).1
  have hks : ks = [.parameters] := by
    rcases ks with _ | ⟨a, _ | ⟨b, _ | ⟨c, ks⟩⟩⟩ <;> simp_all [newTheme]
  rw [hks]
  exact imports_afterParameters

lemma runJobs_themeFirst : (repositoryDetour.runJobs repositoryDetourPaths windingIndex
    [.parameters, newTheme, .sources] windingTree).1 =
      (runStages ([.parameters, newTheme, .sources].flatMap
        (repositoryDetour.jobStages repositoryDetourPaths windingIndex (.ok (.ofList [("B", "B")]))))
          windingTree).1 := by
  refine (repositoryDetour.runJobs_of_imports fun ks hk => ?_).1
  have hks : ks = [.parameters, newTheme] := by
    rcases ks with _ | ⟨a, _ | ⟨b, _ | ⟨c, ks⟩⟩⟩ <;> simp_all [newTheme]
  rw [hks]
  exact imports_afterTheme

lemma contended_repositoryDetour :
    repositoryDetour.Contended windingTree repositoryDetourPaths windingIndex := by
  have hjobs : jobs repositoryDetourPaths = [.parameters, newTheme, .sources] := rfl
  refine ⟨derive?_winding _ _ _, by decide +kernel, [.parameters, .sources, newTheme], ?_,
    fun h => absurd (h.2 ["ws", "o", "BViewBinding.ts"]) ?_⟩
  · rw [hjobs]
    exact .cons _ (.swap _ _ _)
  · rw [hjobs, runJobs_themeLast, runJobs_themeFirst]
    decide +kernel

theorem jobs_contended : themeDetour.Contended windingTree themeDetourPaths windingIndex ∧
    repositoryDetour.Contended windingTree repositoryDetourPaths windingIndex :=
  ⟨contended_themeDetour, contended_repositoryDetour⟩

end Winding

end Generator

end LayoutSync
