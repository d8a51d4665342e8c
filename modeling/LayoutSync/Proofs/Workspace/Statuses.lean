import LayoutSync.CommandLine.Run
import LayoutSync.Proofs.Workspace.Completing
import LayoutSync.Proofs.Workspace.Reporting

namespace LayoutSync

open FileTree Markup Layout Workspace

namespace CommandLine

def statusLine (path : String) (status : Status) : String :=
  "  " ++ padded 10 (label status) ++ " " ++ path ++ "\n"

lemma printReport_eq {r : Report} (h : r.notApplicable = false) :
    printReport r = r.layout ++ "\n" ++
      String.join (r.statuses.map fun s => statusLine s.path s.status) := by
  have hn : ¬ r.notApplicable = true := by simp [h]
  rw [printReport, if_neg hn]
  rfl

end CommandLine

lemma FileTree.HasWay.finds {t : FileTree} {p : String} (h : t.HasWay p) (hp : p ≠ "") :
    t.Finds p := by
  intro hm
  have hf := (sound_of_read (.inl hm)).resolve_left hp
  rw [contentAt?, h.find?_of_missing hf hm]

namespace Generator

variable {g : Generator} {t : FileTree} {layout : String} {paths : LayoutPaths} {d : Document}

lemma finds_layout (hd : readLayout t layout = .ok d) : t.Finds layout := by
  obtain ⟨source, hr, _⟩ := readLayout_ok_iff.mp hd
  intro hm
  rw [hr] at hm
  cases hm

lemma finds_parameters (hp : LayoutPaths.derive? g.workspace layout g.settings = some paths)
    (hd : readLayout t layout = .ok d) : t.Finds paths.parameters := by
  refine (hasWay_parameters hp hd).finds ?_
  obtain ⟨source, hr, _⟩ := readLayout_ok_iff.mp hd
  obtain ⟨_, _, _, hf, _⟩ := walk_of_read hr
  obtain ⟨_, ha, haround, hn⟩ := hf.around
  have hj : '/' ∉ "json".toList := by decide
  obtain ⟨_, ns, m, _, hs, _⟩ := steps_withExtension ha haround hn hf.isIdle hj (by decide)
  have hempty : stepsOf "" = [] := by decide
  rw [(derive?_eq hp).2]
  intro he
  rw [he, hempty] at hs
  simp at hs

lemma zipWith_statuses (ss : List FileStatus) :
    List.zipWith FileStatus.mk (ss.map (·.path)) (ss.map (·.status)) = ss := by
  rw [List.zipWith_map, List.zipWith_self, List.map_id']

/-- Each status of a report on a layout that can be read tells of one of the files that belong to the
layout, in their order. It stands by the path of that file, but for the status of the parameter file,
which stands by the path of the layout: it tells of that path only if both were written or neither.
Without imports there is one status for the directory of the modules instead of theirs. The lines that
are printed are by the same paths. -/
theorem statuses_tell (hp : LayoutPaths.derive? g.workspace layout g.settings = some paths)
    (hd : readLayout t layout = .ok d) (hl : ((g.targets paths).map t.location).Nodup) :
    let u := (g.processLayout t layout).1
    let report := (g.processLayout t layout).2.2
    let imports := ((g.processLayout t layout).2.1.imports.get u).1
    let files := g.handled paths imports
    (∃ told, List.Forall₂ (Tells t u) files told ∧ report.statuses =
      List.zipWith FileStatus.mk (files.set 1 layout) told ++ refusal paths imports) ∧
    (∀ s ∈ refusal paths imports, (∀ p ∈ g.targets paths, t.location p ≠ t.location s.path) →
      Tells t u s.path s.status) ∧
    (t.Finds layout ∧ t.Finds paths.parameters) ∧
    (Tells t u layout report.parameters ↔ (report.parameters = .written ↔ report.normalize = .written)) ∧
    CommandLine.printReport report = layout ++ "\n" ++ String.join
      (report.statuses.map fun s => CommandLine.statusLine s.path s.status) := by
  intro u report imports files
  obtain ⟨stages, written, hc⟩ := exists_course hp hd
  change g.Course t u paths report imports stages written at hc
  have hreport : report.layout = layout ∧ report.notApplicable = false := by
    dsimp only [report]
    rw [g.processLayout_steps hp hd]
    exact ⟨rfl, rfl⟩
  obtain ⟨hlayout, _⟩ := derive?_eq hp
  have ht := tells_run hc.effect (hc.nodup hl)
  rw [hc.run] at ht
  have hf := finds_layout hd
  refine ⟨?_, fun s hs hne => ?_, ⟨hf, finds_parameters hp hd⟩, ?_, ?_⟩
  · refine ⟨(⟨paths.layout, report.normalize⟩ :: ⟨paths.parameters, report.parameters⟩ ::
      report.themes ++ written).map (·.status), ?_, ?_⟩
    · have hm : files = List.map (·.path) (⟨paths.layout, report.normalize⟩ ::
          ⟨paths.parameters, report.parameters⟩ :: report.themes ++ written) := by
        simp [files, handled, hc.themes, hc.modules]
      rw [hm, List.forall₂_map_left_iff, List.forall₂_map_right_iff, List.forall₂_same]
      exact ht
    · rw [Report.statuses, hc.sources, hreport.1, ← List.append_assoc]
      refine congrArg (· ++ refusal paths imports) ?_
      have hz := zipWith_statuses (report.themes ++ written)
      simpa [files, handled, ← hc.themes, ← hc.modules, hlayout] using hz.symm
  · obtain ⟨f, hs⟩ := status_of_mem_refusal hs
    rw [hs]
    exact ⟨fun hn => absurd (hc.within.contentAt?_eq hne) hn, fun hw => by cases hw⟩
  · have hfirst := ht ⟨paths.layout, report.normalize⟩ List.mem_cons_self
    rw [hlayout] at hfirst
    constructor
    · exact fun h => (h.iff hf).trans (hfirst.iff hf).symm
    · exact fun h => ⟨fun hc => h.mpr (hfirst.of_changed hc),
        fun hw _ => hfirst.changed (h.mp hw) hf⟩
  · rw [CommandLine.printReport_eq hreport.2, hreport.1]

def settledLayout : Document := ⟨(normalize boxLayout.root "b").1⟩

lemma readLayout_settled :
    readLayout (plainTree settledLayout) plainPaths.layout = .ok settledLayout :=
  readLayout_of_print rfl (by decide) (by decide)

lemma locations_settled :
    (plain.targets plainPaths).map (plainTree settledLayout).location =
      [["w", "res", "a", "layout", "b.xml"], ["w", "res", "a", "layout", "b.json"],
        ["w", "o", "BViewBinding.ts"], ["w", "o", "BViewEvent.ts"],
        ["w", "o", "createBViewBindingAndEvent.ts"]] := rfl

lemma nodup_settled :
    ((plain.targets plainPaths).map (plainTree settledLayout).location).Nodup := by
  rw [locations_settled]
  decide

theorem statuses_tell_settled :
    let t := plainTree settledLayout
    LayoutPaths.derive? plain.workspace plainPaths.layout plain.settings = some plainPaths ∧
    readLayout t plainPaths.layout = .ok settledLayout ∧
    ((plain.targets plainPaths).map t.location).Nodup ∧
    let u := (plain.processLayout t plainPaths.layout).1
    let report := (plain.processLayout t plainPaths.layout).2.2
    let imports := ((plain.processLayout t plainPaths.layout).2.1.imports.get u).1
    let files := plain.handled plainPaths imports
    ∃ told, List.Forall₂ (Tells t u) files told ∧ report.statuses =
      List.zipWith FileStatus.mk (files.set 1 plainPaths.layout) told ++ refusal plainPaths imports := by
  obtain ⟨h, _⟩ := statuses_tell derive?_plain readLayout_settled nodup_settled
  exact ⟨derive?_plain, readLayout_settled, nodup_settled, h⟩

theorem statuses_name_layout :
    let t := plainTree settledLayout
    LayoutPaths.derive? plain.workspace plainPaths.layout plain.settings = some plainPaths ∧
    readLayout t plainPaths.layout = .ok settledLayout ∧
    ((plain.targets plainPaths).map t.location).Nodup ∧
    let u := (plain.processLayout t plainPaths.layout).1
    let report := (plain.processLayout t plainPaths.layout).2.2
    (⟨plainPaths.layout, .written⟩ ∈ report.statuses ∧
      u.contentAt? plainPaths.layout = t.contentAt? plainPaths.layout) ∧
    u.contentAt? plainPaths.parameters ≠ t.contentAt? plainPaths.parameters ∧
    ∀ s ∈ report.statuses, s.path ≠ plainPaths.parameters :=
  ⟨derive?_plain, readLayout_settled, nodup_settled, by decide +kernel⟩

end Generator

end LayoutSync
