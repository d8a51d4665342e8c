import LayoutSync.Proofs.Workspace.Commuting

namespace LayoutSync

open FileTree Markup Layout Workspace

namespace Generator

variable {g : Generator} {t v w : FileTree} {ps : List String} {layout : String}
  {paths : LayoutPaths} {x : ViewIndex} {imports : Except Fault ImportTable}

section Steps

end Steps

section Course

variable {d : Document} {root : Element} {changed : Bool} {w₁ w₂ w₃ u : FileTree}
  {normalized parameters : Status} {themes sources : List FileStatus}

lemma processLayout_of_course (h : LayoutPaths.derive? g.workspace layout g.settings = some paths)
    (hd : readLayout t layout = .ok d) (hn : normalize d.root paths.baseName = (root, changed))
    (hx : ViewIndex.ofLayout root g.settings.parentPolicy = x)
    (h₁ : writeLayout t layout root changed = (w₁, normalized))
    (h₂ : g.syncParameterFile paths x w₁ = (w₂, parameters))
    (h₃ : g.syncThemeFiles paths x w₂ = (w₃, themes))
    (h₄ : g.writeSources paths x (g.imports.get w₃).1 w₃ = (u, sources)) :
    g.processLayout t layout = (u, { g with imports := (g.imports.get w₃).2 },
      { layout, normalize := normalized, parameters, themes, sources }) := by
  have hs := g.processLayout_steps h hd
  simp only [hn, hx, h₁, h₂, h₃, h₄] at hs
  exact hs

end Course

section Runs

variable {layouts : List String}

end Runs

end Generator

end LayoutSync
