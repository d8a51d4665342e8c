import LayoutSync.Proofs.Layout.References
import LayoutSync.Proofs.Workspace.Roles
import LayoutSync.Proofs.Workspace.Saving

namespace LayoutSync

open FileTree Markup Layout Workspace

lemma updateFile_ok {t : FileTree} {path : String}
    {update : Option String → Except Fault (Option String)}
    (h : (updateFile t path update).2.isFailed = false) :
    ∃ existing text, t.readText? path = .ok existing ∧ update existing = .ok text := by
  unfold updateFile at h
  cases hr : t.readText? path with
  | error f =>
    rw [hr] at h
    cases h
  | ok existing =>
    cases hu : update existing with
    | error f =>
      simp only [hr, hu] at h
      cases h
    | ok text => exact ⟨existing, text, rfl, hu⟩

namespace Generator

variable {g : Generator} {t : FileTree} {layout : String} {paths : LayoutPaths} {d : Document}

lemma readText?_writeLayout (hp : LayoutPaths.derive? g.workspace layout g.settings = some paths)
    (hd : readLayout t layout = .ok d) (root : Element) (changed : Bool) :
    (writeLayout t layout root changed).1.readText? paths.parameters =
      t.readText? paths.parameters := by
  obtain ⟨source, hr, _⟩ := readLayout_ok_iff.mp hd
  unfold writeLayout
  split
  · obtain ⟨u, b, hw, he⟩ := writeIfChanged_of_ok hr (Document.mk root).print
    rw [hw]
    rcases he with rfl | rfl
    · rfl
    · obtain ⟨l, hl⟩ := read_ok_iff.mp hr
      obtain ⟨⟨ns, n, hf⟩, rfl, hfile⟩ := file_of_lookup hl
      have hne : ∀ ms m, FilePath paths.parameters ms m →
          t.location paths.parameters ≠ t.location layout := by
        -- The one path ends in `json`, the other one in `xml`.
        intro ms m hm hloc
        have he := getLast?_of_location hm hf hloc
        rw [IsParameterFile.getLast? ⟨paths, ⟨layout, List.mem_singleton_self _, hp⟩, rfl⟩ hm,
          getLast?_of_isLayoutFile (isLayoutFile_of_derive? hp) hf.endsInName] at he
        exact absurd he (by decide)
      unfold readText? FileTree.readText FileTree.read
      rw [lookup_put hfile hne]
  · rfl

/-- Where references lead. For a layout of any name, and for a layout that was handled without
failures, the parameters can be brought up to date, and then each reference is to parameters under
its own id, which are there unless the first view with this id is a leaf. -/
theorem references_lead_within :
    (∀ (root : Element) (name : String) (policy : ParentPolicy) (existing : Option String)
        (defaultType : String) (before : Parameters), name ≠ "" →
      Parameters.parse existing = .ok before →
        ∃ u, syncParameters (ViewIndex.ofLayout (normalize root name).1 policy) existing
            defaultType = .ok u ∧
          RefersWithin (normalize root name).1 before u.parameters) ∧
    ∀ (g : Generator) (t : FileTree) (layout : String) (paths : LayoutPaths) (d : Document),
      LayoutPaths.derive? g.workspace layout g.settings = some paths →
      readLayout t layout = .ok d →
      (g.processLayout t layout).2.2.hasFailures = false →
        let root := (normalize d.root paths.baseName).1
        let x := ViewIndex.ofLayout root g.settings.parentPolicy
        paths.baseName ≠ "" ∧ ∃ existing before u,
          t.readText? paths.parameters = .ok existing ∧ Parameters.parse existing = .ok before ∧
            syncParameters x existing g.settings.defaultContainerType = .ok u ∧
            RefersWithin root before u.parameters := by
  refine ⟨fun root name policy existing defaultType before hn hb => ?_,
    fun g t layout paths d hp hd hf => ?_⟩
  · refine ⟨_, ?_, refersWithin_normalize root hn policy before defaultType⟩
    rw [syncParameters, hb]
    rfl
  · intro root x
    have hn := baseName_ne_empty hp
    rw [g.processLayout_steps hp hd] at hf
    have hs : (g.syncParameterFile paths x (writeLayout t layout root
        (normalize d.root paths.baseName).2).1).2.isFailed = false := by
      simp only [Report.hasFailures, Report.statuses, List.any_append, List.any_cons,
        Bool.or_eq_false_iff] at hf
      exact hf.1.1.2.1
    obtain ⟨existing, text, hr, hu⟩ := updateFile_ok hs
    rw [readText?_writeLayout hp hd] at hr
    unfold updateParameters at hu
    split at hu
    · cases hu
    next u hu' =>
      obtain ⟨before, hb, rfl⟩ := syncParameters_ok hu'
      exact ⟨hn, existing, before, _, hr, hb, hu', refersWithin_normalize d.root hn _ before _⟩

lemma readLayout_of_print {source : Document} (hr : t.read layout = .ok source.print.toUTF8)
    (hn : source.HasNames) (ht : source.IsTidy) : readLayout t layout = .ok source :=
  readLayout_ok_iff.mpr ⟨source.print, hr, by rw [parse_print hn, Document.tidy_eq_self ht]⟩

def plain : Generator := bare "/w" { themeVariants := [], outputDir := "o" }

def plainTree (d : Document) : FileTree where
  entries := [
    (["w"], .directory), (["w", "res"], .directory), (["w", "res", "a"], .directory),
    (["w", "res", "a", "layout"], .directory),
    (["w", "res", "a", "layout", "b.xml"], .file d.print.toUTF8)]

def boxLayout : Document := ⟨{ tag := "Box", children := [{ tag := "Text" }] }⟩

def plainPaths : LayoutPaths where
  layout := "/w/res/a/layout/b.xml"
  baseName := "b"
  start := "B"
  parameters := "/w/res/a/layout/b.json"
  themes := []
  outputDir := "/w/o"
  presenterDir := "/w/ts/presenter/base_with_view_and_event"

lemma derive?_plain : LayoutPaths.derive? plain.workspace plainPaths.layout plain.settings =
    some plainPaths := by decide +kernel

theorem references_lead_within_sample :
    (plainPaths.baseName ≠ "" ∧ Parameters.parse none = .ok [] ∧
      ∃ u, syncParameters (ViewIndex.ofLayout (normalize boxLayout.root "b").1 .structural) none
          "View" = .ok u ∧
        RefersWithin (normalize boxLayout.root "b").1 [] u.parameters) ∧
    LayoutPaths.derive? plain.workspace plainPaths.layout plain.settings = some plainPaths ∧
    readLayout (plainTree boxLayout) plainPaths.layout = .ok boxLayout ∧
    (plain.processLayout (plainTree boxLayout) plainPaths.layout).2.2.hasFailures = false ∧
    let root := (normalize boxLayout.root plainPaths.baseName).1
    let x := ViewIndex.ofLayout root plain.settings.parentPolicy
    plainPaths.baseName ≠ "" ∧ ∃ existing before u,
      (plainTree boxLayout).readText? plainPaths.parameters = .ok existing ∧
        Parameters.parse existing = .ok before ∧
        syncParameters x existing plain.settings.defaultContainerType = .ok u ∧
        RefersWithin root before u.parameters := by
  have hd : readLayout (plainTree boxLayout) plainPaths.layout = .ok boxLayout :=
    readLayout_of_print rfl (by decide) (by decide)
  have hf : (plain.processLayout (plainTree boxLayout) plainPaths.layout).2.2.hasFailures =
      false := by decide +kernel
  refine ⟨⟨by decide, rfl, ?_⟩, derive?_plain, hd, hf, ?_⟩
  · exact references_lead_within.1 _ _ .structural _ "View" _ (by decide) rfl
  · exact references_lead_within.2 _ _ _ _ _ derive?_plain hd hf

def leafLayout : Document := ⟨{ tag := "Box" }⟩

def repeatedLayout : Document := ⟨{
  tag := "Box"
  children := [
    { tag := "Text", attributes := Dict.ofList [("id", "x")] },
    { tag := "Box", attributes := Dict.ofList [("id", "x")], children := [{ tag := "Text" }] }] }⟩

def Misleads (d : Document) : Prop :=
  let root := (normalize d.root plainPaths.baseName).1
  let x := ViewIndex.ofLayout root plain.settings.parentPolicy
  LayoutPaths.derive? plain.workspace plainPaths.layout plain.settings = some plainPaths ∧
  readLayout (plainTree d) plainPaths.layout = .ok d ∧
  (plainTree d).readText? plainPaths.parameters = .ok none ∧
  (plain.processLayout (plainTree d) plainPaths.layout).2.2.hasFailures = false ∧
  ∃ u, syncParameters x none plain.settings.defaultContainerType = .ok u ∧
    ¬ root.Every fun e => ∀ id, e.attr "layout" = some (reference id) →
      (Assoc.get? id u.parameters).isSome

theorem references_lead_nowhere : Misleads leafLayout ∧ Misleads repeatedLayout := by
  have hf : ∀ d ∈ [leafLayout, repeatedLayout],
      (plain.processLayout (plainTree d) plainPaths.layout).2.2.hasFailures = false := by
    decide +kernel
  constructor
  · refine ⟨derive?_plain, readLayout_of_print rfl (by decide) (by decide), rfl, hf _ (by simp), _,
      rfl, fun h => ?_⟩
    exact absurd (h.here "b" (by decide)) (by decide)
  · refine ⟨derive?_plain, readLayout_of_print rfl (by decide) (by decide), rfl, hf _ (by simp), _,
      rfl, fun h => ?_⟩
    have hx : ∃ c ∈ (normalize repeatedLayout.root plainPaths.baseName).1.children,
        c.attr "layout" = some (reference "x") := by decide
    obtain ⟨c, hc, hl⟩ := hx
    exact absurd ((h.inside c hc).here "x" hl) (by decide)

end Generator

end LayoutSync
