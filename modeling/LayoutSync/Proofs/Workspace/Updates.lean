import LayoutSync.Proofs.Layout.ParameterFile
import LayoutSync.Proofs.Theme.ThemeFile
import LayoutSync.Proofs.Workspace.Stages

namespace LayoutSync

open FileTree Markup Layout Workspace

def FileTree.textAt? (t : FileTree) (p : String) : Option String :=
  match t.find? (t.location p) with
  | some (.file c) => String.fromUTF8? c
  | _ => none

section Texts

variable {t : FileTree} {p : String} {P : String → Prop}

lemma textAt?_of_file {text : String} {l : Location} (hl : t.location p = l)
    (hf : t.find? l = some (.file text.toUTF8)) : t.textAt? p = some text := by
  rw [textAt?, hl, hf]
  exact fromUTF8?_toUTF8 text

end Texts

lemma textAt?_of_readText? {t s : FileTree} {p text : String} (hk : Keeps (t.trailOf p) t s)
    (h : s.readText? p = .ok (some text)) : t.textAt? p = some text := by
  obtain ⟨l, hl⟩ := read_ok_iff.mp (read_of_readText? h)
  obtain ⟨⟨ns, n, hp⟩, rfl, hf⟩ := file_of_lookup hl
  rw [location_congr hk.current] at hf
  have ht : t.find? (t.location p) = some (.file text.toUTF8) := by
    rcases hk.find? _ (hp.location_mem_trailOf t) with he | ⟨_, he⟩
    · exact he.symm.trans hf
    · rw [hf] at he
      cases he
  exact textAt?_of_file rfl ht

namespace Generator

variable {g : Generator} {x : ViewIndex} {path set : String} {existing : Option String}
  {text : String}

lemma updateTheme_cases (h : g.updateTheme path x set existing = .ok (some text)) :
    ∃ d, Theme.load existing (themeName path) g.settings.baseTheme = .ok d ∧
      text = Document.print ⟨(Theme.sync d.root x set).1⟩ := by
  unfold updateTheme at h
  split at h
  · cases h
  · cases h
  next d hd =>
    dsimp only at h
    split at h
    · exact ⟨d, hd, (Option.some.inj (Except.ok.inj h)).symm⟩
    · cases h

variable {t : FileTree}

end Generator

end LayoutSync
