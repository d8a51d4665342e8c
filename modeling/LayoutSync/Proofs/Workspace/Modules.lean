import LayoutSync.Proofs.Path.Joining
import LayoutSync.Proofs.Source.ModuleNames
import LayoutSync.Proofs.Workspace.LayoutFiles
import LayoutSync.Proofs.Workspace.References
import LayoutSync.Proofs.Workspace.Reporting

/-!
Where the modules of two layouts go. They go to different files if what the names of the layouts
contribute to each kind of module differs; the directories of the layouts play no part.
-/

namespace LayoutSync

open FileTree Markup Workspace Source

namespace Path

open Text

lemma slash_not_mem_stem {p n : String} (h : stem? p = some n) : '/' ∉ n.toList := by
  obtain ⟨m, hm, rfl⟩ := Option.map_eq_some_iff.mp h
  have hf : '/' ∉ m.toList := by
    unfold fileName? at hm
    split at hm
    · cases hm
    next k hk =>
      split at hm
      · cases hm
      · obtain rfl := Option.some.inj hm
        rw [String.toList_ofList]
        have hn : k ∈ names p.toList := (trimEnd_start _).subset (List.mem_of_getLast? hk)
        exact not_mem_of_mem_pieces hn
  rw [String.toList_ofList]
  exact fun hs => hf ((splitExtension_start _).subset hs)

end Path

lemma FileTree.location_around {p n : String} {d : List Char} (h : p.toList = d ++ n.toList)
    (hd : Path.IsAround d) (hn : '/' ∉ n.toList) (hl : 3 ≤ n.toList.length) (t : FileTree) :
    ∃ l, t.location p = l ++ [n] := by
  obtain ⟨ks, hk⟩ := Path.pieces_around hd
  have hi := Path.isIdle_of_length (Nat.le_of_succ_le hl)
  have hs : stepsOf p = (ks.filter (!Path.isIdle ·)).map String.ofList ++ [n] := by
    rw [stepsOf, Path.steps, h, hk _ hn, List.filter_append, List.map_append]
    simp [hi]
  have hp : leadsElsewhere n = false := by
    rw [leadsElsewhere, Bool.or_eq_false_iff]
    constructor <;> (apply decide_eq_false; rintro rfl; revert hl; decide)
  rw [FileTree.location, hs, List.foldl_concat, descend_plain hp]
  exact ⟨_, rfl⟩

namespace Workspace.LayoutPaths

variable (paths : LayoutPaths) {others : LayoutPaths} {k l : ModuleKind}

def directoryOf : ModuleKind → String
  | .presenterBase => paths.presenterDir
  | _ => paths.outputDir

def moduleFile (k : ModuleKind) : String :=
  Path.join (paths.directoryOf k) (k.fileName paths.baseName)

variable {paths}

lemma location_moduleFile (h : '/' ∉ paths.baseName.toList) (k : ModuleKind) (t : FileTree) :
    ∃ d, t.location (paths.moduleFile k) = d ++ [k.fileName paths.baseName] := by
  obtain ⟨d, hd, hj⟩ := Path.join_around (paths.directoryOf k)
  have hn := ModuleKind.slash_not_mem_fileName h k
  exact location_around (hj _ hn) hd hn (ModuleKind.length_fileName _ k) t

lemma moduleFile_of_location (h : '/' ∉ paths.baseName.toList) (h' : '/' ∉ others.baseName.toList)
    {t : FileTree} (hl : t.location (paths.moduleFile k) = t.location (others.moduleFile l)) :
    k = l ∧ k.stem paths.baseName = k.stem others.baseName := by
  obtain ⟨d, hd⟩ := location_moduleFile h k t
  obtain ⟨e, he⟩ := location_moduleFile h' l t
  rw [hd, he] at hl
  exact ModuleKind.fileName_inj.mp (List.singleton_inj.mp (List.append_inj' hl rfl).2)

end Workspace.LayoutPaths

namespace Generator

variable {g : Generator} {t : FileTree} {layout : String} {paths others : LayoutPaths}
  {d : Document}

def kinds (g : Generator) : List ModuleKind :=
  [.binding, .event, .factory] ++ if g.settings.presenterBase then [.presenterBase] else []

lemma sourcePaths_eq (g : Generator) (paths : LayoutPaths) :
    g.sourcePaths paths = g.kinds.map paths.moduleFile := by
  unfold sourcePaths kinds
  split <;> simp [LayoutPaths.moduleFile, LayoutPaths.directoryOf, ModuleKind.fileName,
    ModuleKind.opening, ModuleKind.stem, ModuleKind.ending, ModuleNames.ofLayout,
    String.append_assoc]

/-- Where modules are written when a layout is handled: nowhere if it cannot be read, or if there are
no imports. -/
def written (g : Generator) (t : FileTree) (layout : String) : List String :=
  let (u, later, report) := g.processLayout t layout
  if (later.imports.get u).1.isOk then report.sources.map (·.path) else []

lemma written_of_ok (hp : LayoutPaths.derive? g.workspace layout g.settings = some paths)
    (hd : readLayout t layout = .ok d) :
    let after := g.processLayout t layout
    let imports := (after.2.1.imports.get after.1).1
    g.written t layout = g.modules paths imports ∧
      ∃ ss, ss.map (·.path) = g.written t layout ∧ after.2.2.sources = ss ++ refusal paths imports := by
  intro after imports
  obtain ⟨stages, ss, hc⟩ := exists_course hp hd
  have hw : g.written t layout = g.modules paths imports := by
    change (if imports.isOk then after.2.2.sources.map (·.path) else []) = _
    change g.Course t after.1 paths after.2.2 imports stages ss at hc
    cases himports : imports with
    | error f => rfl
    | ok table =>
      rw [himports] at hc
      exact hc.reportsSources
  exact ⟨hw, ss, hc.modules.trans hw.symm, hc.sources⟩

lemma written_cases (g : Generator) (t : FileTree) (layout : String) :
    g.written t layout = [] ∧ (∀ s ∈ (g.processLayout t layout).2.2.sources, s.status.isFailed) ∨
      ∃ paths, LayoutPaths.derive? g.workspace layout g.settings = some paths ∧
        g.written t layout = g.sourcePaths paths ∧
        ∀ s ∈ (g.processLayout t layout).2.2.sources, s.path ∈ g.written t layout := by
  rcases g.processLayout_cases t layout with ⟨r, he, _, hsources, _⟩ | ⟨paths, d, hp, hd⟩
  · rw [written, he]
    dsimp only
    rw [hsources]
    exact .inl ⟨ite_self _, List.forall_mem_nil _⟩
  · obtain ⟨hw, ss, hss, hs⟩ := written_of_ok hp hd
    rw [hs]
    generalize ((g.processLayout t layout).2.1.imports.get (g.processLayout t layout).1).1 =
      imports at hw
    cases imports with
    | error f =>
      refine .inl ⟨hw, ?_⟩
      obtain rfl := List.map_eq_nil_iff.mp (hss.trans hw)
      exact fun s hs => List.mem_singleton.mp hs ▸ rfl
    | ok table =>
      refine .inr ⟨paths, hp, hw, fun s hs => ?_⟩
      rw [refusal, List.append_nil] at hs
      exact hss ▸ List.mem_map_of_mem hs

lemma mem_written {s : FileStatus} (hs : s ∈ (g.processLayout t layout).2.2.sources)
    (hw : s.status = .written) : s.path ∈ g.written t layout := by
  rcases g.written_cases t layout with ⟨_, hf⟩ | ⟨_, _, _, hm⟩
  · have hfailed := hf s hs
    rw [hw] at hfailed
    cases hfailed
  · exact hm s hs

/-- The names of what is generated for two layouts differ, kind by kind. -/
structure NamesApart (s : Settings) (a b : String) : Prop where
  start : filePrefix a ≠ filePrefix b
  presenterBase : s.presenterBase = true →
    (ModuleNames.ofLayout a).presenterBase ≠ (ModuleNames.ofLayout b).presenterBase

lemma namesApart_iff {a b : String} :
    NamesApart g.settings a b ↔ ∀ k ∈ g.kinds, k.stem a ≠ k.stem b := by
  have hb : (ModuleNames.ofLayout a).presenterBase = (ModuleNames.ofLayout b).presenterBase ↔
      ModuleKind.presenterBase.stem a = ModuleKind.presenterBase.stem b := by
    rw [← String.toList_inj, ← String.toList_inj]
    simp only [ModuleNames.ofLayout, String.toList_append, List.append_cancel_right_eq]
    rfl
  refine ⟨fun h k hk => ?_, fun h => ⟨h .binding (by simp [kinds]), fun hs => ?_⟩⟩
  · cases k with
    | presenterBase =>
      have hs : g.settings.presenterBase = true := by
        by_contra hs
        simp [kinds, hs] at hk
      exact mt hb.mpr (h.presenterBase hs)
    | _ => exact h.start
  · exact mt hb.mp (h .presenterBase (by simp [kinds, hs]))

lemma sourcePaths_disjoint_iff (ha : '/' ∉ paths.baseName.toList)
    (hb : '/' ∉ others.baseName.toList)
    (hd : paths.directoryOf = others.directoryOf) :
    (g.sourcePaths paths).Disjoint (g.sourcePaths others) ↔
      NamesApart g.settings paths.baseName others.baseName := by
  rw [namesApart_iff, sourcePaths_eq, sourcePaths_eq]
  refine ⟨fun h k hk he => ?_, fun h p hp hq => ?_⟩
  · have hm : paths.moduleFile k = others.moduleFile k := by
      unfold LayoutPaths.moduleFile
      rw [hd, ModuleKind.fileName, ModuleKind.fileName, he]
    apply h (List.mem_map_of_mem hk)
    rw [hm]
    exact List.mem_map_of_mem hk
  · obtain ⟨k, hk, rfl⟩ := List.mem_map.mp hp
    obtain ⟨l, _, hl⟩ := List.mem_map.mp hq
    obtain ⟨_, he⟩ := LayoutPaths.moduleFile_of_location (t := {}) ha hb (by rw [hl])
    exact h k hk he

lemma eq_of_location_sourcePaths (ha : '/' ∉ paths.baseName.toList)
    (hb : '/' ∉ others.baseName.toList) (hd : paths.directoryOf = others.directoryOf)
    {p q : String} (hp : p ∈ g.sourcePaths paths) (hq : q ∈ g.sourcePaths others)
    (h : t.location p = t.location q) : p = q := by
  rw [sourcePaths_eq] at hp hq
  obtain ⟨k, _, rfl⟩ := List.mem_map.mp hp
  obtain ⟨l, _, rfl⟩ := List.mem_map.mp hq
  obtain ⟨rfl, he⟩ := LayoutPaths.moduleFile_of_location ha hb h
  unfold LayoutPaths.moduleFile
  rw [hd, ModuleKind.fileName, ModuleKind.fileName, he]

lemma directoryOf_of_derive? {workspace : String} {s : Settings}
    (h : LayoutPaths.derive? workspace layout s = some paths) :
    paths.outputDir = Path.join workspace s.outputDir ∧
      paths.presenterDir = Path.join workspace s.presenterDir := by
  obtain ⟨_, _, _, _, _, rfl⟩ := derive?_eq_some_iff.mp h
  exact ⟨rfl, rfl⟩

/-- The modules that are written for two layouts, in whatever state they are handled, are different
files exactly if the names of the layouts lead to different names for each kind of module. Other
spellings of one path do not occur among them. -/
theorem sources_disjoint_iff (g : Generator) (c : ImportTable.Cache) (t u : FileTree)
    (first second : String) :
    let written := g.written t first
    let others := ({ g with imports := c } : Generator).written u second
    let report := (g.processLayout t first).2.2
    (written.Disjoint others ↔ written = [] ∨ others = [] ∨
      ∃ a b, Path.stem? first = some a ∧ Path.stem? second = some b ∧
        NamesApart g.settings a b) ∧
    (∀ v : FileTree, ∀ p ∈ written, ∀ q ∈ others, v.location p = v.location q ↔ p = q) ∧
    (∀ s ∈ report.sources, s.status = .written → s.path ∈ written) ∧
    ∀ paths d, LayoutPaths.derive? g.workspace first g.settings = some paths →
      readLayout t first = .ok d →
        let after := g.processLayout t first
        let imports := (after.2.1.imports.get after.1).1
        written = g.modules paths imports ∧
          ∃ ss, ss.map (·.path) = written ∧ report.sources = ss ++ refusal paths imports := by
  intro written others report
  have hboth : written = [] ∨ others = [] ∨ ∃ a b,
      Path.stem? first = some a.baseName ∧ Path.stem? second = some b.baseName ∧
        a.directoryOf = b.directoryOf ∧ written = g.sourcePaths a ∧ others = g.sourcePaths b := by
    rcases g.written_cases t first with ⟨hw, _⟩ | ⟨a, ha, hw, _⟩
    · exact .inl hw
    rcases written_cases { g with imports := c } u second with ⟨ho, _⟩ | ⟨b, hb, ho, _⟩
    · exact .inr (.inl ho)
    refine .inr (.inr ⟨a, b, stem?_of_derive? ha, stem?_of_derive? hb, funext fun k => ?_, hw, ho⟩)
    obtain ⟨h1, h2⟩ := directoryOf_of_derive? ha
    obtain ⟨h3, h4⟩ := directoryOf_of_derive? hb
    cases k with
    | presenterBase => exact h2.trans h4.symm
    | _ => exact h1.trans h3.symm
  refine ⟨?_, fun v p hp q hq => ⟨fun hl => ?_, congrArg v.location⟩,
    fun s => mem_written, fun paths d hp hd => written_of_ok hp hd⟩
  · rcases hboth with hw | ho | ⟨a, b, ha, hb, hd, hw, ho⟩
    · simp [hw]
    · simp [ho]
    · have hne : ∀ paths : LayoutPaths, g.sourcePaths paths ≠ [] := fun paths => by
        simp [sourcePaths]
      rw [hw, ho, sourcePaths_disjoint_iff (Path.slash_not_mem_stem ha)
        (Path.slash_not_mem_stem hb) hd, ha, hb]
      simp [hne]
  · rcases hboth with hw | ho | ⟨a, b, ha, hb, hd, hw, ho⟩
    · rw [hw] at hp
      cases hp
    · rw [ho] at hq
      cases hq
    · exact eq_of_location_sourcePaths (Path.slash_not_mem_stem ha) (Path.slash_not_mem_stem hb) hd
        (hw ▸ hp) (ho ▸ hq) hl

def twinTree : FileTree where
  entries := [
    (["w"], .directory), (["w", "res"], .directory), (["w", "res", "a"], .directory),
    (["w", "res", "a", "layout"], .directory),
    (["w", "res", "a", "layout", "b.xml"], .file boxLayout.print.toUTF8),
    (["w", "res", "c"], .directory), (["w", "res", "c", "layout"], .directory),
    (["w", "res", "c", "layout", "b.xml"], .file leafLayout.print.toUTF8),
    (["w", "res", "c", "layout", "d.xml"], .file leafLayout.print.toUTF8)]

lemma readLayout_twinTree : readLayout twinTree plainPaths.layout = .ok boxLayout :=
  readLayout_of_print rfl (by decide) (by decide)

lemma binding_written : ⟨"/w/o/BViewBinding.ts", .written⟩ ∈
    (plain.processLayout twinTree plainPaths.layout).2.2.sources := by decide +kernel

theorem sources_disjoint_iff_sample :
    let written := plain.written twinTree plainPaths.layout
    let others := plain.written twinTree "/w/res/c/layout/d.xml"
    let report := (plain.processLayout twinTree plainPaths.layout).2.2
    let s : FileStatus := ⟨"/w/o/BViewBinding.ts", .written⟩
    LayoutPaths.derive? plain.workspace plainPaths.layout plain.settings = some plainPaths ∧
    readLayout twinTree plainPaths.layout = .ok boxLayout ∧
    s ∈ report.sources ∧ s.path ∈ written ∧ written.Disjoint others := by
  intro written others report s
  obtain ⟨h1, _, h2, _⟩ := sources_disjoint_iff plain plain.imports twinTree twinTree
    plainPaths.layout "/w/res/c/layout/d.xml"
  refine ⟨derive?_plain, readLayout_twinTree, binding_written, h2 s binding_written rfl, ?_⟩
  exact h1.mpr (.inr (.inr ⟨"b", "d", by decide +kernel, by decide +kernel,
    ⟨by decide +kernel, by decide +kernel⟩⟩))

theorem sources_shared :
    let first := "/w/res/a/layout/b.xml"
    let second := "/w/res/c/layout/b.xml"
    let s : FileStatus := ⟨"/w/o/BViewBinding.ts", .written⟩
    first ∈ layoutFiles twinTree plain.workspace ∧ second ∈ layoutFiles twinTree plain.workspace ∧
    first ≠ second ∧
    s ∈ (plain.processLayout twinTree first).2.2.sources ∧
    s ∈ (plain.processLayout twinTree second).2.2.sources ∧
    ¬ (plain.written twinTree first).Disjoint (plain.written twinTree second) := by
  intro first second s
  have ht : twinTree.WellFormed := by decide +kernel
  have hn : twinTree.Named := by decide +kernel
  have hs : s ∈ (plain.processLayout twinTree second).2.2.sources := by decide +kernel
  refine ⟨?_, ?_, by decide, binding_written, hs,
    fun h => h (mem_written binding_written rfl) (mem_written hs rfl)⟩
  · exact (mem_layoutFiles ht hn).mpr ⟨by decide +kernel, ["w", "res"], "a", "layout", "b.xml", _, rfl,
      rfl, rfl, rfl, rfl⟩
  · exact (mem_layoutFiles ht hn).mpr ⟨by decide +kernel, ["w", "res"], "c", "layout", "b.xml", _, rfl,
      rfl, rfl, rfl, rfl⟩

end Generator

end LayoutSync
