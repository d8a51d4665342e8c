import LayoutSync.Proofs.ImportTable.Repository
import LayoutSync.Proofs.Layout.CanonicalForm
import LayoutSync.Proofs.Markup.Parsed
import LayoutSync.Proofs.Workspace.Processing

namespace LayoutSync

open FileTree Markup Layout Workspace

namespace Generator

variable {g : Generator} {t : FileTree} {layout : String} {paths : LayoutPaths}

lemma readLayout_ok_iff {d : Document} : readLayout t layout = .ok d ↔
    ∃ source, t.read layout = .ok source.toUTF8 ∧ Document.parse source = .ok d := by
  unfold readLayout
  refine ⟨fun h => ?_, ?_⟩
  · split at h
    · cases h
    next source hs =>
      refine ⟨source, readText_ok_iff.mp hs, ?_⟩
      split at h
      next hp =>
        obtain rfl := Except.ok.inj h
        exact hp
      · cases h
  · rintro ⟨source, hr, hp⟩
    rw [readText_ok_iff.mpr hr]
    dsimp only
    rw [hp]

lemma readLayout_keeps {v : FileTree} {d : Document} (hk : Keeps (t.trailOf layout) t v)
    (h : readLayout t layout = .ok d) : readLayout v layout = .ok d := by
  obtain ⟨source, hr, hp⟩ := readLayout_ok_iff.mp h
  refine readLayout_ok_iff.mpr ⟨source, ?_, hp⟩
  rw [hk.read (by rw [hr]; simp), hr]

def sampleTree : FileTree where
  entries := [
    (["w"], .directory), (["w", "res"], .directory), (["w", "res", "phone"], .directory),
    (["w", "res", "phone", "layout"], .directory), (["w", "res", "theme"], .directory),
    (["w", "res", "phone", "layout", "login.xml"], .file layout.print.toUTF8),
    (["w", "res", "phone", "layout", "login.json"], .file parameters.print.toUTF8),
    (["w", "res", "theme", "default.xml"], .file theme.print.toUTF8)]
where
  layout : Document := ⟨{
    tag := "CompositeView"
    children := [{ tag := "ButtonView", attributes := Dict.ofList [("id", "ok")] }] }⟩
  parameters : Parameters := [("login", .object [("order", .number (.integer 3))])]
  theme : Document := Theme.create "default" "hdt"

def bare (workspace : String) (s : Settings) : Generator where
  workspace
  settings := { s with eventRules := [] }
  rules := ⟨[]⟩
  imports := { root := Path.join workspace s.moduleRoot }

lemma new_bare (workspace : String) (s : Settings) :
    Generator.new workspace { s with eventRules := [] } = .ok (bare workspace s) := rfl

def sample : Generator := bare "/w" .standard

def samplePaths : LayoutPaths where
  layout := "/w/res/phone/layout/login.xml"
  baseName := "login"
  start := "Login"
  parameters := "/w/res/phone/layout/login.json"
  themes := ["/w/res/theme/default.xml", "/w/res/theme/default.light.xml"]
  outputDir := "/w/ts/presenter/viewHelper"
  presenterDir := "/w/ts/presenter/base_with_view_and_event"

lemma derive?_sample : LayoutPaths.derive? sample.workspace samplePaths.layout sample.settings =
    some samplePaths := by decide +kernel

lemma forall_derive?_sample {P : LayoutPaths → Prop} (h : P samplePaths) : ∀ paths,
    LayoutPaths.derive? sample.workspace samplePaths.layout sample.settings = some paths →
      P paths := by
  intro paths hp
  rw [derive?_sample] at hp
  exact Option.some.inj hp ▸ h

end Generator

end LayoutSync
