import LayoutSync.Proofs.Workspace.Completing
import LayoutSync.Proofs.Workspace.Jobs
import LayoutSync.Proofs.Workspace.LayoutPlaces

namespace LayoutSync

open FileTree Markup Layout Workspace Theme

namespace Generator

def layouts (g : Generator) (t : FileTree) : List LayoutPaths :=
  (layoutFiles t g.workspace).filterMap (LayoutPaths.derive? g.workspace · g.settings)

def themes (g : Generator) : List String := themePaths g.workspace g.settings

/-- The files of layouts lie apart from each other, and what is in them can be written as it was
read. -/
structure Separate (g : Generator) (t : FileTree) (todo : List LayoutPaths) : Prop where
  apart : (todo.flatMap g.ownFiles).Pairwise t.Apart
  names : ∀ paths ∈ todo, ∀ source ∈ t.textAt? paths.layout, ReadsNames source
  integers : ∀ paths ∈ todo, ∀ source ∈ t.textAt? paths.parameters, ReadsIntegers source

/-- A layout with the index `x` finds all it needs in its files. -/
structure Complete (g : Generator) (table : ImportTable) (t u : FileTree) (paths : LayoutPaths)
    (x : ViewIndex) : Prop where
  layout : ∃ d, readLayout u paths.layout = .ok d ∧
    normalize d.root paths.baseName = (d.root, false) ∧
    x = ViewIndex.ofLayout d.root g.settings.parentPolicy
  themes : ∀ p ∈ paths.themes, ∃ text d set, u.readText? p = .ok (some text) ∧
    Document.parse text = .ok d ∧ d.root.tag = "theme" ∧
    d.root.findChild? "property-set" paths.baseName = some set ∧
    (∀ id ∈ x.ids, Satisfies set (.id, id)) ∧
    ∀ r ∈ x.views, ∀ tag, r.tagAttribute = some tag → Satisfies set (.tag, tag)
  /-- What was in the way in the parameter file before still is. -/
  parameters : ∃ before after ps, Parameters.parse (t.textAt? paths.parameters) = .ok before ∧
    u.readText? paths.parameters = .ok after ∧ Parameters.parse after = .ok ps ∧
    ∀ r ∈ x.containers, before.Open r.id → ps.Provides r.id r.childIds
  sources : ∀ s ∈ g.sources paths (g.request paths x table), u.read s.1 = .ok s.2.render.toUTF8

/-- Handling all layouts changes nothing, and every report says so. -/
def Settled (g : Generator) (t : FileTree) : Prop :=
  (g.processWorkspace t).1 = t ∧ ∀ r ∈ (g.processWorkspace t).2.2, r.isUnchanged = true

variable {g : Generator} {t u v : FileTree} {ps : List String} {paths : LayoutPaths}
  {x : ViewIndex} {table : ImportTable} {ws : List (ViewIndex × String)}

lemma UpToDate.complete (h : g.UpToDate table t u paths x) (hm : ThemesMeet paths.themes ws u)
    (hx : (x, paths.baseName) ∈ ws) : g.Complete table t u paths x := by
  obtain ⟨d, hd, hc, hxd⟩ := h.layout
  obtain ⟨before, after, hb, hr, ha⟩ := h.parameters
  refine ⟨h.layout, fun p hp => ?_, ⟨before, after, _, hb, hr, ha, fun r hm ho => ?_⟩, h.sources⟩
  · obtain rfl | hmeets := hm.meets
    · cases hx
    obtain ⟨text, ht, e, he, htag, _, hw⟩ := hmeets p hp
    obtain ⟨set, hset, hs⟩ := hw _ hx
    refine ⟨text, e, set, ht, he, htag, hset, fun id hid => ?_, fun r hr tag htag => ?_⟩
    · rw [hxd] at hid
      obtain ⟨r, hr, rfl⟩ := exists_view_of_mem_ids hid
      exact hs _ (Theme.id_mem_wanted (hxd ▸ hr))
    · exact hs _ (Theme.tag_mem_wanted hr htag)
  · have hv : r ∈ x.views := (List.mem_filter.mp hm).1
    rw [hxd] at hv
    rw [← viewsIn_eq hv, ← hxd]
    exact ParametersUpdate.provides_ofParameters x _ hm ho

lemma Separate.tail {todo : List LayoutPaths} (h : g.Separate t (paths :: todo)) :
    g.Separate t todo := by
  refine ⟨?_, fun p hp => h.names p (List.mem_cons_of_mem _ hp),
    fun p hp => h.integers p (List.mem_cons_of_mem _ hp)⟩
  have ha := h.apart
  rw [List.flatMap_cons, List.pairwise_append] at ha
  exact ha.2.1

def Finished (g : Generator) (table : ImportTable) (t u : FileTree)
    (ws : List (ViewIndex × String)) (layouts : List String) : Prop :=
  ∀ layout ∈ layouts, ∃ paths x,
    LayoutPaths.derive? g.workspace layout g.settings = some paths ∧ paths.themes = g.themes ∧
      (x, paths.baseName) ∈ ws ∧ g.UpToDate table t u paths x

lemma Finished.withImports {layouts : List String} (h : g.Finished table t u ws layouts)
    (c : ImportTable.Cache) :
    ({ g with imports := c } : Generator).Finished table t u ws layouts := fun layout hl => by
  obtain ⟨paths, x, hp, hth, hx, hu⟩ := h layout hl
  exact ⟨paths, x, hp, hth, hx, hu.layout, hu.parameters, hu.sources⟩

section Layouts

end Layouts

end Generator

end LayoutSync
