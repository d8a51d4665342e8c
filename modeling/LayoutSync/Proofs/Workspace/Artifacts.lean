import LayoutSync.Proofs.Layout.Skeleton
import LayoutSync.Workspace.Generator

namespace LayoutSync

open Markup Layout

namespace Layout

variable (x : ViewIndex)

namespace ViewIndex

lemma getElem?_skeleton (slot : Nat) :
    x.skeleton.records[slot]? = (x.records[slot]?).map Record.skeleton :=
  List.getElem?_map

lemma views_skeleton : x.skeleton.views = x.views.map Record.skeleton := by
  simp only [views, List.map_filterMap, getElem?_skeleton]
  rfl

lemma containers_skeleton : x.skeleton.containers = x.containers.map Record.skeleton := by
  rw [containers, views_skeleton, List.filter_map]
  rfl

lemma childrenOf_skeleton (r : Record) :
    x.skeleton.childrenOf r.skeleton = (x.childrenOf r).map Record.skeleton := by
  simp only [childrenOf, List.map_filterMap, getElem?_skeleton]
  rfl

end ViewIndex

lemma addContainer_skeleton (defaultType : String) (u : ParametersUpdate) (r : Record) :
    ParametersUpdate.addContainer x.skeleton defaultType u r.skeleton =
      ParametersUpdate.addContainer x defaultType u r := by
  have hc : (x.skeleton.childrenOf r.skeleton).map (·.id) = (x.childrenOf r).map (·.id) := by
    rw [x.childrenOf_skeleton, List.map_map]
    rfl
  unfold ParametersUpdate.addContainer
  rw [hc]
  rfl

lemma syncParameters_skeleton (existing : Option String) (defaultType : String) :
    syncParameters x.skeleton existing defaultType = syncParameters x existing defaultType := by
  have ho : ParametersUpdate.ofParameters x.skeleton defaultType =
      ParametersUpdate.ofParameters x defaultType := by
    funext p
    simp only [ParametersUpdate.ofParameters, x.containers_skeleton, List.foldl_map,
      addContainer_skeleton]
  rw [syncParameters, ho]
  rfl

end Layout

lemma Theme.sync_skeleton (theme : Element) (x : ViewIndex) (name : String) :
    Theme.sync theme x.skeleton name = Theme.sync theme x name := by
  have hw : wanted x.skeleton.views = wanted x.views := by
    rw [x.views_skeleton, wanted, List.flatMap_map]
    rfl
  unfold Theme.sync syncSet
  rw [hw]

namespace Source

def Request.skeleton (q : Request) : Request := { q with index := q.index.skeleton }

variable (q : Request)

lemma boundViews_skeleton :
    q.skeleton.boundViews = q.boundViews.map fun p => (p.1.skeleton, p.2) := by
  have hv : q.skeleton.index.views = q.index.views.map Record.skeleton := q.index.views_skeleton
  simp only [Request.boundViews, hv, List.filterMap_map, List.map_filterMap, Function.comp_def,
    Option.map_map]
  rfl

lemma viewEvents_skeleton :
    q.skeleton.viewEvents = q.viewEvents.map fun p => (p.1.skeleton, p.2) := by
  have hv : q.skeleton.index.views = q.index.views.map Record.skeleton := q.index.views_skeleton
  simp only [Request.viewEvents, hv, List.flatMap_map, List.map_flatMap, List.map_map]
  rfl

lemma binding_skeleton : binding q.skeleton = binding q := by
  have hs : q.skeleton.boundViews.map Prod.snd = q.boundViews.map Prod.snd := by
    rw [boundViews_skeleton, List.map_map]
    rfl
  have hv : q.skeleton.boundViews.map Prod.fst =
      (q.boundViews.map Prod.fst).map Record.skeleton := by
    rw [boundViews_skeleton, List.map_map, List.map_map]
    rfl
  have hm : ∀ (container : String) (vs : List Record),
      bindingMembers container (vs.map Record.skeleton) = bindingMembers container vs := by
    intro container vs
    simp only [bindingMembers, List.map_map, List.isEmpty_map]
    rfl
  simp only [binding, bindingImports, hs, hv, hm]
  rfl

lemma eventDispatch_skeleton : eventDispatch q.skeleton = eventDispatch q := by
  simp only [eventDispatch, eventDispatchImports, viewEvents_skeleton, List.map_map,
    List.flatMap_map]
  rfl

lemma factory_skeleton : factory q.skeleton = factory q := rfl

lemma presenterBase_skeleton : presenterBase q.skeleton = presenterBase q := by
  have hv : q.skeleton.index.views = q.index.views.map Record.skeleton := q.index.views_skeleton
  simp only [presenterBase, presenterImports, hv, List.flatMap_map]
  rfl

end Source

/-- Settings that differ at most in the parent policy and in whether modules are checked. -/
def Settings.Akin (s s' : Settings) : Prop :=
  s' = { s with parentPolicy := s'.parentPolicy, checkSyntax := s'.checkSyntax }

namespace Generator

/-- Two generators make the same of two indexes: of every parameter file, of every theme, and in all
four modules. -/
structure SameArtifacts (g g' : Generator) (p p' : Workspace.LayoutPaths) (x x' : ViewIndex) :
    Prop where
  parameters : ∀ existing, syncParameters x existing g.settings.defaultContainerType =
    syncParameters x' existing g'.settings.defaultContainerType
  propertySet : x.root?.bind (·.propertySetName) = x'.root?.bind (·.propertySetName)
  theme : ∀ theme set, Theme.sync theme x set = Theme.sync theme x' set
  binding : ∀ table, Source.binding (g.request p x table) = Source.binding (g'.request p' x' table)
  eventDispatch : ∀ table,
    Source.eventDispatch (g.request p x table) = Source.eventDispatch (g'.request p' x' table)
  factory : ∀ table, Source.factory (g.request p x table) = Source.factory (g'.request p' x' table)
  presenterBase : ∀ table,
    Source.presenterBase (g.request p x table) = Source.presenterBase (g'.request p' x' table)

/-- Layouts of one skeleton give the same parameter files, themes and modules, also under settings
that differ in the parent policy. -/
theorem sameArtifacts_of_sameLayout {a b : Element} {g g' : Generator}
    {p p' : Workspace.LayoutPaths} (h : SameLayout a b) (hs : g.settings.Akin g'.settings)
    (hr : g.rules = g'.rules) (hp : p.baseName = p'.baseName) :
    SameArtifacts g g' p p'
      (ViewIndex.ofLayout (normalize a p.baseName).1 g.settings.parentPolicy)
      (ViewIndex.ofLayout (normalize b p'.baseName).1 g'.settings.parentPolicy) := by
  have hset : ∀ (e : Element) (policy : ParentPolicy),
      (ViewIndex.ofLayout (normalize e p'.baseName).1 policy).root?.bind (·.propertySetName) =
        (some p'.baseName).filter (· ≠ "") := by
    intro e policy
    rw [propertySetName_ofLayout, Element.nonEmptyAttr, (isCanonical_normalize e _).1.set]
  -- Whatever is made of an index is made of its skeleton.
  have hk := skeleton_ofLayout (h.normalize p'.baseName) g.settings.parentPolicy
    g'.settings.parentPolicy
  rw [hp]
  generalize hx : ViewIndex.ofLayout (normalize a p'.baseName).1 g.settings.parentPolicy = x at hk ⊢
  generalize hx' : ViewIndex.ofLayout (normalize b p'.baseName).1 g'.settings.parentPolicy = x'
    at hk ⊢
  have hq : ∀ table, (g.request p x table).skeleton = (g'.request p' x' table).skeleton := by
    intro table
    unfold Source.Request.skeleton request
    rw [hk, hr, hp, hs]
  refine ⟨fun existing => ?_, ?_, fun theme set => ?_, fun table => ?_, fun table => ?_,
    fun table => ?_, fun table => ?_⟩
  · rw [← syncParameters_skeleton x, hk, syncParameters_skeleton, hs]
  · rw [← hx, ← hx', hset, hset]
  · rw [← Theme.sync_skeleton theme x, hk, Theme.sync_skeleton]
  · rw [← Source.binding_skeleton, hq, Source.binding_skeleton]
  · rw [← Source.eventDispatch_skeleton, hq, Source.eventDispatch_skeleton]
  · rw [← Source.factory_skeleton, hq, Source.factory_skeleton]
  · rw [← Source.presenterBase_skeleton, hq, Source.presenterBase_skeleton]

def scattered : Element where
  tag := "CompositeView"
  attributes := Dict.ofList [("id", "old"), ("width", "480")]
  text := some "\n"
  children := [
    { tag := "TextView", attributes := Dict.ofList [("id", "title"), ("tag", "large")] },
    { tag := "RowView", children := [
      { tag := "ButtonView", attributes := Dict.ofList [("id", "ok"), ("text", "OK")] }] },
    { tag := "TextView", attributes := Dict.ofList [("id", "note")], tail := some "\n" }]

def gathered : Element where
  tag := "CompositeView"
  children := [
    { tag := "TextView", attributes := Dict.ofList [("tag", "large"), ("id", "title")] },
    { tag := "TextView", attributes := Dict.ofList [("id", "note"), ("color", "grey")] },
    { tag := "RowView", text := some "row", children := [
      { tag := "ButtonView", attributes := Dict.ofList [("id", "ok")] }] }]

lemma sameLayout_gathered : SameLayout scattered gathered := by
  refine ⟨rfl, by decide, by decide, fun t => ?_⟩
  by_cases ht : t = "TextView"
  · subst ht
    refine .cons ?_ (.cons ?_ .nil) <;> exact .leaf rfl rfl rfl (by decide) (by decide)
  by_cases hr : t = "RowView"
  · subst hr
    refine .cons (.intro rfl rfl rfl rfl fun t => ?_) .nil
    by_cases hb : t = "ButtonView"
    · subst hb
      exact .cons (.leaf rfl rfl rfl (by decide) (by decide)) .nil
    · simp [Element.named, Ne.symm hb]
  · simp [Element.named, scattered, gathered, Ne.symm ht, Ne.symm hr]

theorem sameArtifacts_gathered :
    let g : Generator := ⟨"/w", { eventRules := [] }, ⟨[]⟩, { root := "/w/node_modules" }⟩
    let s : Settings := { g.settings with parentPolicy := .nearestIdentified, checkSyntax := false }
    let g' := { g with settings := s }
    let p : Workspace.LayoutPaths := ⟨"/w/form.xml", "form", "Form", "/w/form.json", [], "/w", "/w"⟩
    SameLayout scattered gathered ∧ g.settings.Akin g'.settings ∧
      SameArtifacts g g' p p (ViewIndex.ofLayout (normalize scattered "form").1 .structural)
        (ViewIndex.ofLayout (normalize gathered "form").1 .nearestIdentified) := by
  intro g s g' p
  have hs : g.settings.Akin g'.settings := rfl
  exact ⟨sameLayout_gathered, hs, sameArtifacts_of_sameLayout (p := p) sameLayout_gathered hs rfl rfl⟩

end Generator

end LayoutSync
