import LayoutSync.Proofs.Layout.CanonicalForm
import LayoutSync.Proofs.Layout.Flattening

/-!
The skeleton of a layout: its tags, ids and theme tags, the order in which tags appear among siblings,
and the order of siblings of one tag. Layouts of one skeleton are indexed alike, but for the parents
and for what else their elements say.
-/

namespace LayoutSync.Layout

open Markup

/-- Elements with the same tag, id and theme tag whose children are alike: their tags appear in the
same order, and those of one tag are alike one by one. -/
inductive SameSkeleton : Element → Element → Prop
  | intro {a b : Element} (tag : a.tag = b.tag) (id : a.id = b.id)
      (themeTag : a.nonEmptyAttr "tag" = b.nonEmptyAttr "tag")
      (order : (a.children.map (·.tag)).eraseDups = (b.children.map (·.tag)).eraseDups)
      (groups : ∀ t, List.Forall₂ SameSkeleton (a.named t) (b.named t)) : SameSkeleton a b

lemma SameSkeleton.leaf {a b : Element} (ha : a.children = []) (hb : b.children = [])
    (tag : a.tag = b.tag) (id : a.id = b.id)
    (themeTag : a.nonEmptyAttr "tag" = b.nonEmptyAttr "tag") : SameSkeleton a b := by
  refine .intro tag id themeTag ?_ fun t => ?_
  · rw [ha, hb]
  · rw [Element.named, Element.named, ha, hb]
    exact .nil

/-- Layouts that are alike but for the ids of their roots. -/
structure SameLayout (a b : Element) : Prop where
  tag : a.tag = b.tag
  themeTag : a.nonEmptyAttr "tag" = b.nonEmptyAttr "tag"
  order : (a.children.map (·.tag)).eraseDups = (b.children.map (·.tag)).eraseDups
  groups : ∀ t, List.Forall₂ SameSkeleton (a.named t) (b.named t)

lemma forall₂_map_of_mem {R S : Element → Element → Prop} {f : Element → Element}
    {cs ds : List Element} (h : List.Forall₂ R cs ds)
    (hf : ∀ c ∈ cs, ∀ d, R c d → S (f c) (f d)) : List.Forall₂ S (cs.map f) (ds.map f) := by
  rw [List.forall₂_map_left_iff, List.forall₂_map_right_iff]
  exact ((List.forall₂_and_left cs ds).mpr ⟨hf, h⟩).imp fun c d hcd => hcd.1 d hcd.2

section Normalized

variable {a b : Element}

lemma tag_settle (e : Element) : (settle e).1.tag = e.tag := by
  rw [settle_eq, settleAttributes_eq]

lemma nonEmptyAttr_settle (e : Element) {k : String} (h1 : k ≠ "propertySetName")
    (h2 : k ≠ "layout") : (settle e).1.nonEmptyAttr k = e.nonEmptyAttr k := by
  rw [settle_eq]
  exact congrArg (Option.filter _) (attr_settleAttributes e h1 h2)

lemma id_settle (e : Element) : (settle e).1.id = e.id :=
  nonEmptyAttr_settle e (by decide) (by decide)

lemma themeTag_settle (e : Element) : (settle e).1.nonEmptyAttr "tag" = e.nonEmptyAttr "tag" :=
  nonEmptyAttr_settle e (by decide) (by decide)

lemma children_settle (e : Element) :
    (settle e).1.children = e.children.map fun c => (settle c).1 := by
  rw [settle_eq]

lemma attr_settleRoot (e : Element) (name : String) {k : String} (h1 : k ≠ "id")
    (h2 : k ≠ "propertySetName") (h3 : k ≠ "layout") :
    (settleRoot e name).1.attr k = e.attr k := by
  unfold settleRoot followedBy
  dsimp only
  rw [Element.attr_setAttr_of_ne _ _ h3, Element.attr_setAttr_of_ne _ _ h2,
    Element.attr_setAttr_of_ne _ _ h1]

lemma SameSkeleton.settle (h : SameSkeleton a b) : SameSkeleton (settle a).1 (settle b).1 := by
  induction a using Element.induction generalizing b with
  | step a ih =>
    obtain ⟨tag, id, themeTag, order, groups⟩ := h
    refine .intro ?_ ?_ ?_ ?_ fun t => ?_
    · rw [tag_settle, tag_settle, tag]
    · rw [id_settle, id_settle, id]
    · rw [themeTag_settle, themeTag_settle, themeTag]
    · rw [children_settle, children_settle, tags_map tag_settle, tags_map tag_settle, order]
    · rw [Element.named, Element.named, children_settle, children_settle,
        filter_tag_map tag_settle, filter_tag_map tag_settle]
      exact forall₂_map_of_mem (groups t) fun c hc d => ih c (List.mem_of_mem_filter hc)

lemma SameLayout.normalize (h : SameLayout a b) (name : String) :
    SameSkeleton (normalize a name).1 (normalize b name).1 := by
  have hid : ∀ e : Element, (Layout.normalize e name).1.attr "id" = some name :=
    fun e => (isCanonical_normalize e name).1.id
  have htag : ∀ e : Element, (Layout.normalize e name).1.tag = e.tag := by
    intro e
    rw [normalize_eq, settleRoot_eq]
  have htheme : ∀ e : Element,
      (Layout.normalize e name).1.nonEmptyAttr "tag" = e.nonEmptyAttr "tag" := by
    intro e
    rw [normalize_eq]
    exact congrArg (Option.filter _)
      (attr_settleRoot e name (by decide) (by decide) (by decide))
  have hcs : ∀ e : Element, (Layout.normalize e name).1.children =
      e.children.map fun c => (settle c).1 := by
    intro e
    rw [normalize_eq]
  -- Normalizing names both roots alike, whatever ids they had.
  refine .intro ?_ (id_eq_of_attr ((hid a).trans (hid b).symm)) ?_ ?_ fun t => ?_
  · rw [htag, htag, h.tag]
  · rw [htheme, htheme, h.themeTag]
  · rw [hcs, hcs, tags_map tag_settle, tags_map tag_settle, h.order]
  · rw [Element.named, Element.named, hcs, hcs, filter_tag_map tag_settle,
      filter_tag_map tag_settle]
    exact forall₂_map_of_mem (h.groups t) fun c _ d => SameSkeleton.settle

end Normalized

section Visits

structure SeenAlike (v w : Visit) : Prop where
  tag : v.element.tag = w.element.tag
  id : v.element.id = w.element.id
  themeTag : v.element.nonEmptyAttr "tag" = w.element.nonEmptyAttr "tag"
  isLeaf : v.element.isLeaf = w.element.isLeaf
  enclosing : v.enclosing = w.enclosing

def VisitedAlike (a b : Element) : Prop :=
  ∀ slot enclosing,
    List.Forall₂ SeenAlike (visitsFrom slot enclosing a) (visitsFrom slot enclosing b)

variable {a b : Element}

lemma forall₂_visitsOfAll {cs ds : List Element} (h : List.Forall₂ VisitedAlike cs ds) (slot : Nat)
    (enclosing : List Nat) :
    List.Forall₂ SeenAlike (visitsOfAll slot enclosing cs) (visitsOfAll slot enclosing ds) := by
  induction h generalizing slot with
  | nil => exact .nil
  | cons hc _ ih =>
    have hfirst := hc slot enclosing
    rw [visitsOfAll, visitsOfAll, hfirst.length_eq]
    exact List.rel_append hfirst (ih _)

lemma children_grouped (e : Element) : (grouped e).children =
    (e.children.map (·.tag)).eraseDups.flatMap fun t => (e.named t).map grouped := by
  rw [grouped_eq]
  exact regroup_map_eq_flatMap tag_grouped e.children

lemma SameSkeleton.visitedAlike (h : SameSkeleton a b) :
    VisitedAlike (grouped a) (grouped b) := by
  induction a using Element.induction generalizing b with
  | step a ih =>
    obtain ⟨tag, id, themeTag, order, groups⟩ := h
    -- Grouping undoes how siblings of different tags are interleaved.
    have hc : List.Forall₂ VisitedAlike (grouped a).children (grouped b).children := by
      rw [children_grouped, children_grouped, order]
      refine List.rel_flatMap (R := Eq) (List.forall₂_refl _) ?_
      rintro t _ rfl
      exact forall₂_map_of_mem (groups t) fun c hc d => ih c (List.mem_of_mem_filter hc)
    intro slot enclosing
    rw [visitsFrom_eq, visitsFrom_eq]
    refine .cons ⟨?_, ?_, ?_, ?_, rfl⟩ (forall₂_visitsOfAll hc _ _)
    · rw [tag_grouped, tag_grouped, tag]
    · rw [id_grouped, id_grouped, id]
    · rw [grouped_eq, grouped_eq b]
      exact themeTag
    · rw [Element.isLeaf, Element.isLeaf, Bool.eq_iff_iff, List.isEmpty_iff_length_eq_zero,
        List.isEmpty_iff_length_eq_zero, hc.length_eq]

end Visits

section Index

variable {vs ws : List Visit}

lemma forall₂_zipIdx {α : Type} {R : α → α → Prop} {l m : List α} (h : List.Forall₂ R l m)
    (n : Nat) :
    List.Forall₂ (fun p q => R p.1 q.1 ∧ p.2 = q.2) (l.zipIdx n) (m.zipIdx n) := by
  induction h generalizing n with
  | nil => exact .nil
  | cons hr _ ih => exact .cons ⟨hr, rfl⟩ (ih (n + 1))

namespace Identities

lemma ofVisits_congr (h : List.Forall₂ SeenAlike vs ws) : ofVisits vs = ofVisits ws := by
  refine List.rel_foldl (P := Eq) ?_ rfl (forall₂_zipIdx h 0)
  rintro i _ rfl v w ⟨hv, hslot⟩
  rw [add, add, hv.id, hslot]

lemma owners_congr (i : Identities) (h : List.Forall₂ SeenAlike vs ws) :
    i.owners vs = i.owners ws := by
  have he : vs.map (·.enclosing) = ws.map (·.enclosing) := by
    rw [← List.forall₂_eq_eq_eq, List.forall₂_map_left_iff, List.forall₂_map_right_iff]
    exact h.imp fun v w hv => hv.enclosing
  have hb : ∀ (us : List Visit) (slot : Nat),
      ((us[slot]?).bind fun v => i.nearest? v.enclosing) =
        ((us.map (·.enclosing))[slot]?).bind i.nearest? := by
    intro us slot
    rw [List.getElem?_map, Option.bind_map]
    rfl
  simp only [owners, hb, he]

end Identities

def Record.skeleton (r : Record) : Record :=
  { r with propertySetName := none, layout := none, attributes := ∅, parent := none }

def ViewIndex.skeleton (x : ViewIndex) : ViewIndex :=
  { x with records := x.records.map Record.skeleton }

lemma skeleton_ofLayout {a b : Element} (h : SameSkeleton a b) (policy policy' : ParentPolicy) :
    (ViewIndex.ofLayout a policy).skeleton = (ViewIndex.ofLayout b policy').skeleton := by
  have hv : List.Forall₂ SeenAlike (visits a) (visits b) := h.visitedAlike 0 []
  have hi := Identities.ofVisits_congr hv
  have ho := Identities.owners_congr (Identities.ofVisits (visits b)) hv
  simp only [ViewIndex.skeleton, ViewIndex.ofLayout, hi, ho, List.map_map, ViewIndex.mk.injEq,
    and_true]
  rw [← List.forall₂_eq_eq_eq, List.forall₂_map_left_iff, List.forall₂_map_right_iff]
  refine (forall₂_zipIdx hv 0).imp ?_
  rintro v w ⟨hvw, hslot⟩
  simp only [Function.comp_apply, Record.skeleton, ViewIndex.record, hvw.id, hvw.tag, hvw.isLeaf,
    hvw.themeTag, hslot]

end Index

end LayoutSync.Layout
