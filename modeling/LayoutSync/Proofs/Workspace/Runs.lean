import LayoutSync.Proofs.Workspace.Roles
import LayoutSync.Proofs.Workspace.Saving

/-!
Runs of a workspace, in which layouts are handled or rewritten in any order. What was in parameter
files and themes is never lost: files that can be read as such only grow, others stay as they are.
-/

namespace LayoutSync

open FileTree Markup Layout Workspace Json Parameters

/-- What happens in a workspace: a saved layout is handled, or a layout is only rewritten. -/
inductive Change where
  | handle (layout : String)
  | rewrite (layout : String) (content : ByteArray)

def Change.layout : Change → String
  | handle layout => layout
  | rewrite layout _ => layout

namespace Generator

def rewriteLayout (g : Generator) (t : FileTree) (layout : String) (content : ByteArray) :
    FileTree :=
  if isLayoutFile g.workspace layout then
    match t.write layout content with
    | .ok u => u
    | .error _ => t
  else t

def change (s : FileTree × Generator) : Change → FileTree × Generator
  | .handle layout =>
    let r := s.2.processLayout s.1 layout
    (r.1, r.2.1)
  | .rewrite layout content => (s.2.rewriteLayout s.1 layout content, s.2)

def run (s : FileTree × Generator) (cs : List Change) : FileTree × Generator := cs.foldl change s

def ParameterUpdate (source text : String) : Prop :=
  ∃ x defaultType u, syncParameters x (some source) defaultType = .ok u ∧ text = u.parameters.print

section Process

variable {g : Generator} {layouts : List String} {t : FileTree} {p layout : String}
  {paths : LayoutPaths} {x : ViewIndex} {imports : Except Fault ImportTable} {P : ByteArray → Prop}

end Process

section Updates

variable {source text : String}

lemma ParameterUpdate.extends {ps : Parameters} (h : ParameterUpdate source text)
    (hp : Parameters.parse (some source) = .ok ps)
    (hn : (Value.object ps).AllNumbers Number.ReadsBack) :
    ∃ qs, Parameters.parse (some text) = .ok qs ∧ (Value.object qs).AllNumbers Number.ReadsBack ∧
      Extends ps qs := by
  obtain ⟨x, defaultType, u, hu, rfl⟩ := h
  have hn' : NumbersReadBack (some source) := by
    intro qs hq
    obtain rfl := Except.ok.inj (hp.symm.trans hq)
    exact hn
  refine ⟨u.parameters, parse_of_syncParameters hn' hu, ?_⟩
  obtain ⟨qs, hq, rfl⟩ := syncParameters_ok hu
  obtain rfl := Except.ok.inj (hp.symm.trans hq)
  have hf := (Parameters.fits_of_parse hp).strengthen hn fun _ _ hr => hr
  exact ⟨(Parameters.fits_ofParameters hf x defaultType).allNumbers,
    ParametersUpdate.extends_ofParameters x defaultType ps⟩

end Updates

end Generator

end LayoutSync
