import LayoutSync.Layout.Canonical
import LayoutSync.Layout.Index
import LayoutSync.Proofs.Markup.Attributes
import LayoutSync.Proofs.Markup.Tidy

/-!
Normalizing a layout brings it into a form that is not changed again. It touches attributes only,
so names stay names and tidy elements stay tidy.
-/

namespace LayoutSync.Layout

open Markup

structure IsSettled (e : Element) : Prop where
  noSet : e.attr "propertySetName" = none
  layout : e.attr "layout" = if e.isLeaf then none else e.id.map reference

structure IsSettledRoot (e : Element) (name : String) : Prop where
  id : e.attr "id" = some name
  set : e.attr "propertySetName" = some name
  layout : e.attr "layout" = some (reference name)

/-- The canonical form of a layout of the name. -/
def IsCanonical (root : Element) (name : String) : Prop :=
  IsSettledRoot root name ∧ ∀ c ∈ root.children, c.Every IsSettled

lemma followedBy_unchanged {α : Type} {f : α → α × Bool} {a : α} (h : f a = (a, false)) :
    followedBy (a, false) f = (a, false) := by
  simp [followedBy, h]

lemma id_eq_of_attr {e f : Element} (h : e.attr "id" = f.attr "id") : e.id = f.id := by
  unfold Element.id Element.nonEmptyAttr
  rw [h]

section Attributes

variable (e : Element)

lemma settleAttributes_eq :
    (settleAttributes e).1 = { e with attributes := (settleAttributes e).1.attributes } := by
  unfold settleAttributes followedBy
  dsimp only
  rw [e.removeAttr_eq "propertySetName"]
  split
  · exact Element.removeAttr_eq _ _
  · split
    · exact Element.setAttr_eq _ _ _
    · exact Element.removeAttr_eq _ _

lemma settleRoot_eq (name : String) :
    (settleRoot e name).1 = { e with attributes := (settleRoot e name).1.attributes } := by
  unfold settleRoot followedBy
  dsimp only
  rw [e.setAttr_eq "id", Element.setAttr_eq _ "propertySetName"]
  exact Element.setAttr_eq _ _ _

lemma attr_settleAttributes {k : String} (h1 : k ≠ "propertySetName") (h2 : k ≠ "layout") :
    (settleAttributes e).1.attr k = e.attr k := by
  unfold settleAttributes followedBy
  dsimp only
  rw [← e.attr_removeAttr_of_ne h1]
  split
  · exact Element.attr_removeAttr_of_ne _ h2
  · split
    · exact Element.attr_setAttr_of_ne _ _ h2
    · exact Element.attr_removeAttr_of_ne _ h2

lemma isSettled_settleAttributes : IsSettled (settleAttributes e).1 := by
  have hi : (settleAttributes e).1.id = e.id :=
    id_eq_of_attr (attr_settleAttributes e (by decide) (by decide))
  have hl : (settleAttributes e).1.isLeaf = e.isLeaf := by
    rw [settleAttributes_eq]
    rfl
  have hn : "propertySetName" ≠ "layout" := by decide
  have hf : (e.removeAttr "propertySetName").1.isLeaf = e.isLeaf := by
    rw [Element.removeAttr_eq]
    rfl
  have hfi : (e.removeAttr "propertySetName").1.id = e.id :=
    id_eq_of_attr (e.attr_removeAttr_of_ne (by decide))
  -- The property set goes first, and what is done to the layout does not bring it back.
  refine ⟨?_, ?_⟩
  · have hr := e.attr_removeAttr_self "propertySetName"
    unfold settleAttributes followedBy
    dsimp only
    split
    · rw [Element.attr_removeAttr_of_ne _ hn, hr]
    · split
      · rw [Element.attr_setAttr_of_ne _ _ hn, hr]
      · rw [Element.attr_removeAttr_of_ne _ hn, hr]
  · rw [hi, hl]
    unfold settleAttributes followedBy
    dsimp only
    rw [hf, hfi]
    cases e.isLeaf with
    | true => exact Element.attr_removeAttr_self _ _
    | false =>
      cases e.id with
      | none => exact Element.attr_removeAttr_self _ _
      | some i => exact Element.attr_setAttr_self _ _ _

lemma settleAttributes_eq_self {e : Element} (h : IsSettled e) : settleAttributes e = (e, false) := by
  unfold settleAttributes
  rw [Element.removeAttr_of_attr h.noSet]
  apply followedBy_unchanged
  have hl := h.layout
  cases hb : e.isLeaf with
  | true => exact Element.removeAttr_of_attr (by simpa [hb] using hl)
  | false =>
    cases hi : e.id with
    | none => exact Element.removeAttr_of_attr (by simpa [hb, hi] using hl)
    | some i => exact Element.setAttr_of_attr (by simpa [hb, hi] using hl)

lemma isSettledRoot_settleRoot (name : String) : IsSettledRoot (settleRoot e name).1 name := by
  unfold settleRoot followedBy
  dsimp only
  refine ⟨?_, ?_, Element.attr_setAttr_self _ _ _⟩
  · rw [Element.attr_setAttr_of_ne _ _ (by decide), Element.attr_setAttr_of_ne _ _ (by decide)]
    exact Element.attr_setAttr_self _ _ _
  · rw [Element.attr_setAttr_of_ne _ _ (by decide)]
    exact Element.attr_setAttr_self _ _ _

lemma settleRoot_eq_self {e : Element} {name : String} (h : IsSettledRoot e name) :
    settleRoot e name = (e, false) := by
  unfold settleRoot
  rw [Element.setAttr_of_attr h.id]
  rw [followedBy_unchanged (Element.setAttr_of_attr h.set)]
  exact followedBy_unchanged (Element.setAttr_of_attr h.layout)

end Attributes

lemma settleAll_eq (cs : List Element) :
    settleAll cs = (cs.map fun c => (settle c).1, cs.any fun c => (settle c).2) := by
  induction cs with
  | nil => rfl
  | cons c cs ih => rw [settleAll, ih, List.map_cons, List.any_cons]

lemma settle_eq (e : Element) :
    settle e = ({ (settleAttributes e).1 with children := e.children.map fun c => (settle c).1 },
      (settleAttributes e).2 || e.children.any fun c => (settle c).2) := by
  cases e
  rw [settle, settleAll_eq]

lemma normalize_eq (root : Element) (name : String) :
    normalize root name =
      ({ (settleRoot root name).1 with children := root.children.map fun c => (settle c).1 },
        (settleRoot root name).2 || root.children.any fun c => (settle c).2) := by
  rw [normalize, settleAll_eq]

lemma IsSettled.withChildren {e : Element} (h : IsSettled e) {cs : List Element}
    (hc : cs.isEmpty = e.children.isEmpty) : IsSettled { e with children := cs } := by
  refine ⟨h.noSet, ?_⟩
  have hl := h.layout
  rw [Element.isLeaf, ← hc] at hl
  exact hl

lemma isEmpty_map {α β : Type} (f : α → β) (l : List α) : (l.map f).isEmpty = l.isEmpty := by
  cases l <;> rfl

lemma every_isSettled_settle (e : Element) : (settle e).1.Every IsSettled := by
  induction e using Element.induction with
  | step e ih =>
    rw [settle_eq]
    refine .intro ((isSettled_settleAttributes e).withChildren ?_) ?_
    · rw [isEmpty_map, settleAttributes_eq]
    · intro c hc
      obtain ⟨d, hd, rfl⟩ := List.mem_map.mp hc
      exact ih d hd

lemma settle_eq_self {e : Element} (h : e.Every IsSettled) : settle e = (e, false) := by
  induction h with
  | @intro e hp _ ih =>
    have hm : (e.children.map fun c => (settle c).1) = e.children :=
      (List.map_congr_left fun c hc => congrArg Prod.fst (ih c hc)).trans (List.map_id' _)
    have ha : (e.children.any fun c => (settle c).2) = false := by
      rw [List.any_eq_false]
      intro c hc
      simp [ih c hc]
    rw [settle_eq, settleAttributes_eq_self hp, hm, ha]
    cases e
    rfl

lemma isCanonical_normalize (root : Element) (name : String) :
    IsCanonical (normalize root name).1 name := by
  rw [normalize_eq]
  obtain ⟨h1, h2, h3⟩ := isSettledRoot_settleRoot root name
  refine ⟨⟨h1, h2, h3⟩, ?_⟩
  intro c hc
  obtain ⟨d, _, rfl⟩ := List.mem_map.mp hc
  exact every_isSettled_settle d

lemma normalize_eq_self {root : Element} {name : String} (h : IsCanonical root name) :
    normalize root name = (root, false) := by
  have hm : (root.children.map fun c => (settle c).1) = root.children :=
    (List.map_congr_left fun c hc => congrArg Prod.fst (settle_eq_self (h.2 c hc))).trans
      (List.map_id' _)
  have ha : (root.children.any fun c => (settle c).2) = false := by
    rw [List.any_eq_false]
    intro c hc
    simp [settle_eq_self (h.2 c hc)]
  rw [normalize_eq, settleRoot_eq_self h.1, hm, ha]
  cases root
  rfl

section Honest

def Honest {α : Type} (f : α → α × Bool) : Prop := ∀ a, (f a).2 = false → (f a).1 = a

lemma Honest.followedBy {α : Type} {f g : α → α × Bool} (hf : Honest f) (hg : Honest g) :
    Honest fun a => followedBy (f a) g := by
  intro a h
  obtain ⟨h1, h2⟩ := Bool.or_eq_false_iff.mp h
  exact (hg _ h2).trans (hf a h1)

lemma honest_setAttr (k v : String) : Honest (Element.setAttr · k v) := by
  intro e h
  dsimp only at h ⊢
  unfold Element.setAttr at h ⊢
  split
  · rfl
  next hn =>
    rw [if_neg hn] at h
    cases h

lemma honest_removeAttr (k : String) : Honest (Element.removeAttr · k) := by
  intro e h
  dsimp only at h ⊢
  unfold Element.removeAttr at h ⊢
  split
  next hc =>
    rw [if_pos hc] at h
    cases h
  · rfl

lemma honest_settleAttributes : Honest settleAttributes := by
  refine (honest_removeAttr "propertySetName").followedBy fun e => ?_
  split
  · exact honest_removeAttr _ e
  · split
    · exact honest_setAttr _ _ e
    · exact honest_removeAttr _ e

lemma honest_settleRoot (name : String) : Honest (settleRoot · name) :=
  ((honest_setAttr _ _).followedBy (honest_setAttr _ _)).followedBy (honest_setAttr _ _)

lemma map_of_honest {f : Element → Element × Bool} {cs : List Element}
    (hf : ∀ c ∈ cs, (f c).2 = false → (f c).1 = c) (h : (cs.any fun c => (f c).2) = false) :
    cs.map (fun c => (f c).1) = cs := by
  rw [List.any_eq_false] at h
  refine (List.map_congr_left fun c hc => hf c hc ?_).trans (List.map_id' cs)
  simpa using h c hc

lemma honest_settle : Honest settle := by
  intro e
  induction e using Element.induction with
  | step e ih =>
    rw [settle_eq]
    intro h
    obtain ⟨h1, h2⟩ := Bool.or_eq_false_iff.mp h
    dsimp only
    rw [honest_settleAttributes e h1, map_of_honest ih h2]
    cases e
    rfl

lemma honest_normalize (name : String) : Honest (normalize · name) := by
  intro root
  dsimp only
  rw [normalize_eq]
  intro h
  obtain ⟨h1, h2⟩ := Bool.or_eq_false_iff.mp h
  dsimp only
  rw [honest_settleRoot name root h1, map_of_honest (fun c _ => honest_settle c) h2]
  cases root
  rfl

end Honest

lemma propertySetName_ofLayout (root : Element) (policy : ParentPolicy) :
    (ViewIndex.ofLayout root policy).root?.bind (·.propertySetName) =
      root.nonEmptyAttr "propertySetName" := by
  obtain ⟨tag, attributes, text, tail, children⟩ := root
  unfold ViewIndex.ofLayout ViewIndex.root? visits
  rw [grouped, visitsFrom]
  simp only [List.zipIdx_cons, List.map_cons, List.head?_cons, Option.bind_some, ViewIndex.record]
  rfl

lemma propertySetName_of_normalize {root : Element} {name : String}
    (h : normalize root name = (root, false)) (hn : name ≠ "") (policy : ParentPolicy) :
    (ViewIndex.ofLayout root policy).root?.bind (·.propertySetName) = some name := by
  have hc := isCanonical_normalize root name
  rw [h] at hc
  have ha : root.attr "propertySetName" = some name := hc.1.set
  rw [propertySetName_ofLayout, Element.nonEmptyAttr, ha]
  simp [hn]

section Names

open Markup.Element

end Names

end LayoutSync.Layout
