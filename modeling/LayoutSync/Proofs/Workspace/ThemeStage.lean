import LayoutSync.Proofs.Layout.NormalIndex
import LayoutSync.Proofs.Workspace.References
import LayoutSync.Proofs.Workspace.Reporting

/-!
A layout that is handled always has a property set in its themes. Normalizing names the root after the
layout, the index keeps what the root says, and so the stage of the themes finds the name of the set.
-/

namespace LayoutSync

open FileTree Markup Layout Workspace

lemma status_updateFile (t : FileTree) (path : String)
    (update : Option String → Except Fault (Option String)) :
    (updateFile t path update).2 ≠ .skipped := by
  have h : ∀ result, Status.ofResult result ≠ .skipped := by
    rintro (f | (_ | _)) <;> simp [Status.ofResult]
  exact h _

namespace Generator

lemma exists_of_mem_eachFile {stage : String → FileTree → Step Status} {ps : List String}
    {t : FileTree} {s : FileStatus} (h : s ∈ (eachFile stage ps t).2) :
    ∃ p u, s.status = (stage p u).2 := by
  induction ps generalizing t with
  | nil => cases h
  | cons p ps ih =>
    rcases List.mem_cons.mp h with rfl | h
    · exact ⟨p, t, rfl⟩
    · exact ih h

lemma status_syncThemeFiles (g : Generator) (paths : LayoutPaths) {x : ViewIndex} {set : String}
    (hx : x.root?.bind (·.propertySetName) = some set) (t : FileTree) :
    ∀ s ∈ (g.syncThemeFiles paths x t).2, s.status ≠ .skipped := by
  intro s hs
  unfold syncThemeFiles at hs
  rw [hx] at hs
  obtain ⟨p, u, he⟩ := exists_of_mem_eachFile hs
  rw [he]
  exact status_updateFile u p _

lemma status_themes (g : Generator) (t : FileTree) (layout : String) :
    ∀ s ∈ (g.processLayout t layout).2.2.themes, s.status ≠ .skipped := by
  rcases g.processLayout_cases t layout with ⟨r, he, hth, _⟩ | ⟨paths, d, hp, hd⟩
  · rw [he, hth]
    exact List.forall_mem_nil _
  · have hc := isCanonical_normalize d.root paths.baseName
    obtain ⟨first, others, hx, _, hfirst, _⟩ :=
      hc.records_eq (baseName_ne_empty hp) g.settings.parentPolicy
    rw [g.processLayout_steps hp hd]
    refine g.status_syncThemeFiles paths (?_ : _ = some paths.baseName) _
    rw [ViewIndex.root?, hx]
    exact hfirst.set

/-- The index of a normalized layout knows the root first, under the name of the layout, and only the
root has a property set; so a theme of a layout that is handled is never skipped. -/
theorem index_of_normalized :
    (∀ (root : Element) (name : String) (policy : ParentPolicy), name ≠ "" →
      let x := ViewIndex.ofLayout (normalize root name).1 policy
      (∃ first others, x.records = first :: others ∧ first.Describes (normalize root name).1 ∧
        first.IsSettledRoot name ∧ x.ids.head? = some name ∧ x.get? name = some first ∧
        ∀ r ∈ others, r.IsSettled) ∧
      ∀ id, id ∈ x.ids ↔
        id = name ∨ ∃ p e, p ≠ [] ∧ elementAt? root p = some e ∧ e.id = some id) ∧
    ∀ (g : Generator) (t : FileTree) (layout : String),
      ∀ s ∈ (g.processLayout t layout).2.2.themes, s.status ≠ .skipped :=
  ⟨fun root name policy hn => ⟨(isCanonical_normalize root name).records_eq hn policy,
    fun _ => mem_ids_normalize_iff hn⟩, status_themes⟩

def namesakes : Element where
  tag := "Box"
  attributes := Dict.ofList [("id", "old")]
  children := [
    { tag := "Text", attributes := Dict.ofList [("id", "b"), ("propertySetName", "p")] },
    { tag := "Box", children := [{ tag := "Text", attributes := Dict.ofList [("id", "x")] }] }]

theorem index_of_normalized_namesakes :
    (("b" : String) ≠ "" ∧
      let x := ViewIndex.ofLayout (normalize namesakes "b").1 .nearestIdentified
      (∃ first others, x.records = first :: others ∧ first.Describes (normalize namesakes "b").1 ∧
        first.IsSettledRoot "b" ∧ x.ids.head? = some "b" ∧ x.get? "b" = some first ∧
        ∀ r ∈ others, r.IsSettled) ∧
      x.ids = ["b", "x"] ∧ x.duplicates = ["b"]) ∧
    ∃ s ∈ (sample.processLayout sampleTree samplePaths.layout).2.2.themes, s.status ≠ .skipped := by
  have hd : readLayout sampleTree samplePaths.layout = .ok sampleTree.layout :=
    readLayout_of_print rfl (by decide) (by decide)
  have hpath : "/w/res/theme/default.xml" ∈ samplePaths.themes := List.mem_cons_self
  obtain ⟨_, _, hc⟩ := exists_course derive?_sample hd
  rw [← hc.themes] at hpath
  obtain ⟨s, hs, _⟩ := List.mem_map.mp hpath
  exact ⟨⟨by decide, (index_of_normalized.1 namesakes "b" .nearestIdentified (by decide)).1,
    by decide, by decide⟩, s, hs, index_of_normalized.2 sample sampleTree samplePaths.layout s hs⟩

end Generator

end LayoutSync
