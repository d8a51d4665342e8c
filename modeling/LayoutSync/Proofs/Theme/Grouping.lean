import LayoutSync.Proofs.Theme.Independence
import LayoutSync.Proofs.Theme.PropertySets

/-!
Entries of one kind stand together in a property set, ids before tags, and updates keep it so: a new
entry comes behind all others of its kind.
-/

namespace LayoutSync.Theme

open Markup Layout

def isOfKind (kind : EntryKind) (e : Element) : Bool := e.tag = kind.element

def isForeign (e : Element) : Bool := !isOfKind .id e && !isOfKind .tag e

/-- Ids stand together, and so do tags, which come after the ids. What is no entry may stand before
them, between them and behind them. -/
inductive Grouped : List Element → Prop
  | intro {before ids between tags after : List Element}
      (ids_kind : ∀ e ∈ ids, isOfKind .id e = true)
      (tags_kind : ∀ e ∈ tags, isOfKind .tag e = true)
      (foreign : ∀ e ∈ before ++ between ++ after, isForeign e = true) :
      Grouped (before ++ ids ++ between ++ tags ++ after)

def Report.added (r : Report) : EntryKind → List String
  | .id => r.addedIds
  | .tag => r.addedTags

section Kinds

variable {e : Element} {kind other : EntryKind} {name : String}

lemma isOfKind_of_isEntry (h : e.isEntry kind.element name = true) : isOfKind kind e = true :=
  decide_eq_true (isEntry_iff.mp h).1

lemma isOfKind_of_ne (h : isOfKind kind e = true) (hk : kind ≠ other) :
    isOfKind other e = false := by
  have ht : e.tag = kind.element := of_decide_eq_true h
  apply decide_eq_false
  exact fun ho => hk (element_injective (ht.symm.trans ho))

lemma isForeign_of_isOfKind (h : isOfKind kind e = true) : isForeign e = false := by
  cases kind <;> simp [isForeign, h]

lemma isOfKind_of_isForeign (h : isForeign e = true) (kind : EntryKind) :
    isOfKind kind e = false := by
  rw [Bool.eq_false_iff]
  intro hk
  rw [isForeign_of_isOfKind hk] at h
  cases h

lemma isOfKind_fill (kind : EntryKind) (e : Element) :
    isOfKind kind (fill e) = isOfKind kind e := by
  unfold fill
  split <;> rfl

lemma isForeign_fill (e : Element) : isForeign (fill e) = isForeign e := by
  rw [isForeign, isForeign, isOfKind_fill, isOfKind_fill]

lemma isOfKind_newEntry (kind : EntryKind) (name : String) :
    isOfKind kind (newEntry kind name) = true :=
  decide_eq_true rfl

end Kinds

section Place

variable {cs l r : List Element} {e : Element} {kind : EntryKind}

lemma insertIdx_length (l r : List Element) (e : Element) :
    (l ++ r).insertIdx l.length e = l ++ e :: r := by
  rw [insertIdx_eq e (by simp), List.take_left, List.drop_left]

lemma filter_insertIdx_of_neg {P : Element → Bool} (he : P e = false) {n : Nat}
    (hn : n ≤ cs.length) : (cs.insertIdx n e).filter P = cs.filter P := by
  rw [insertIdx_eq e hn, List.filter_append, List.filter_cons_of_neg (by simp [he]),
    ← List.filter_append, List.take_append_drop]

lemma filter_insertIdx_of_last {P : Element → Bool} (he : P e = true) {n : Nat}
    (hn : n ≤ cs.length) (h : ∀ c ∈ cs.drop n, P c = false) :
    (cs.insertIdx n e).filter P = cs.filter P ++ [e] := by
  have hd : (cs.drop n).filter P = [] :=
    List.filter_eq_nil_iff.mpr fun c hc => Bool.eq_false_iff.mp (h c hc)
  have ht : (cs.take n).filter P = cs.filter P := by
    rw [← List.append_nil ((cs.take n).filter P), ← hd, ← List.filter_append, List.take_append_drop]
  rw [insertIdx_eq e hn, List.filter_append, List.filter_cons_of_pos he, hd, ht]

lemma afterLast?_of_last (he : isOfKind kind e = true) (hr : ∀ c ∈ r, isOfKind kind c = false) :
    afterLast? kind.element (l ++ [e] ++ r) = some (l ++ [e]).length := by
  have hn : r.reverse.findIdx? (isOfKind kind) = none :=
    List.findIdx?_eq_none_iff.mpr fun c hc => hr c (List.mem_reverse.mp hc)
  have hi : (r.reverse ++ e :: l.reverse).findIdx? (isOfKind kind) = some r.length := by
    rw [List.findIdx?_append, hn, List.findIdx?_cons, he]
    simp
  have hs : (l ++ [e] ++ r).reverse = r.reverse ++ e :: l.reverse := by simp
  unfold afterLast?
  rw [hs]
  refine (congrArg (Option.map _) hi).trans (congrArg some ?_)
  rw [List.length_append]
  exact Nat.add_sub_cancel _ _

lemma afterLast?_of_none (h : ∀ c ∈ cs, isOfKind kind c = false) :
    afterLast? kind.element cs = none := by
  have hn : cs.reverse.findIdx? (isOfKind kind) = none :=
    List.findIdx?_eq_none_iff.mpr fun c hc => h c (List.mem_reverse.mp hc)
  exact congrArg (Option.map _) hn

lemma insertionPoint_of_last (he : isOfKind kind e = true)
    (hr : ∀ c ∈ r, isOfKind kind c = false) :
    insertionPoint kind (l ++ [e] ++ r) = (l ++ [e]).length := by
  unfold insertionPoint
  rw [afterLast?_of_last he hr]

lemma insertionPoint_id_of_tag (hl : ∀ c ∈ l, isForeign c = true) (he : isOfKind .tag e = true)
    (hr : ∀ c ∈ r, isOfKind .id c = false) : insertionPoint .id (l ++ e :: r) = l.length := by
  have hn : ∀ c ∈ l ++ e :: r, isOfKind .id c = false := by
    refine List.forall_mem_append.mpr ⟨fun c hc => isOfKind_of_isForeign (hl c hc) .id, ?_⟩
    exact List.forall_mem_cons.mpr ⟨isOfKind_of_ne he (by decide), hr⟩
  have hf : l.findIdx? (isOfKind .tag) = none :=
    List.findIdx?_eq_none_iff.mpr fun c hc => isOfKind_of_isForeign (hl c hc) .tag
  have hi : (l ++ e :: r).findIdx? (isOfKind .tag) = some l.length := by
    rw [List.findIdx?_append, hf, List.findIdx?_cons, he]
    simp
  rw [insertionPoint, afterLast?_of_none hn]
  exact congrArg (Option.getD · (l ++ e :: r).length) hi

lemma insertionPoint_id_of_none (h : ∀ c ∈ cs, isForeign c = true) :
    insertionPoint .id cs = cs.length := by
  have hf : cs.findIdx? (isOfKind .tag) = none :=
    List.findIdx?_eq_none_iff.mpr fun c hc => isOfKind_of_isForeign (h c hc) .tag
  rw [insertionPoint, afterLast?_of_none fun c hc => isOfKind_of_isForeign (h c hc) .id]
  exact congrArg (Option.getD · cs.length) hf

lemma insertionPoint_tag_of_none (h : ∀ c ∈ cs, isOfKind .tag c = false) :
    insertionPoint .tag cs = cs.length := by
  rw [insertionPoint, afterLast?_of_none h]

lemma not_isOfKind_of_mem_drop (cs : List Element) (kind : EntryKind) :
    ∀ c ∈ cs.drop (insertionPoint kind cs), isOfKind kind c = false := by
  cases hf : cs.reverse.find? (isOfKind kind) with
  | none =>
    intro c hc
    have hn := List.find?_eq_none.mp hf c (List.mem_reverse.mpr (List.mem_of_mem_drop hc))
    simpa using hn
  | some e =>
    obtain ⟨he, as, bs, hs, has⟩ := List.find?_eq_some_iff_append.mp hf
    have hcs : cs = bs.reverse ++ [e] ++ as.reverse := by
      rw [← List.reverse_reverse cs, hs]
      simp
    have hr : ∀ c ∈ as.reverse, isOfKind kind c = false := fun c hc => by
      simpa using has c (List.mem_reverse.mp hc)
    rw [hcs, insertionPoint_of_last he hr, List.drop_left]
    exact hr

end Place

namespace Grouped

variable {cs ds : List Element}

lemma of_map_tag (h : Grouped cs) (ht : ds.map (·.tag) = cs.map (·.tag)) : Grouped ds := by
  have hall : ∀ {as bs : List Element} {P : Element → Bool}, (∀ c d, c.tag = d.tag → P c = P d) →
      as.map (·.tag) = bs.map (·.tag) → (∀ c ∈ bs, P c = true) → ∀ c ∈ as, P c = true := by
    intro as bs P hP hab hb c hc
    have hm : c.tag ∈ bs.map (·.tag) := hab ▸ List.mem_map_of_mem hc
    obtain ⟨d, hd, htag⟩ := List.mem_map.mp hm
    exact (hP c d htag.symm).trans (hb d hd)
  -- Of what kind an element is shows in its tag alone.
  have hkind : ∀ kind (c d : Element), c.tag = d.tag → isOfKind kind c = isOfKind kind d :=
    fun kind c d hcd => by rw [isOfKind, isOfKind, hcd]
  have hforeign : ∀ c d : Element, c.tag = d.tag → isForeign c = isForeign d := fun c d hcd => by
    rw [isForeign, isForeign, hkind _ c d hcd, hkind _ c d hcd]
  obtain ⟨hi, htags, hf⟩ := h
  simp only [List.map_append] at ht
  obtain ⟨_, after, rfl, ht, ha⟩ := List.map_eq_append_iff.mp ht
  obtain ⟨_, tags, rfl, ht, htag⟩ := List.map_eq_append_iff.mp ht
  obtain ⟨_, between, rfl, ht, hb⟩ := List.map_eq_append_iff.mp ht
  obtain ⟨before, ids, rfl, hbefore, hids⟩ := List.map_eq_append_iff.mp ht
  refine .intro (hall (hkind .id) hids hi) (hall (hkind .tag) htag htags) ?_
  refine hall hforeign ?_ hf
  rw [List.map_append, List.map_append, List.map_append, List.map_append, hbefore, hb, ha]

section Insert

variable {before ids between tags after : List Element} (name : String)

lemma of_place {l r : List Element} {kind : EntryKind}
    (hp : insertionPoint kind (l ++ r) = l.length) (h : Grouped (l ++ newEntry kind name :: r)) :
    Grouped ((l ++ r).insertIdx (insertionPoint kind (l ++ r)) (newEntry kind name)) := by
  rwa [hp, insertIdx_length]

variable (hi : ∀ e ∈ ids, isOfKind .id e = true) (ht : ∀ e ∈ tags, isOfKind .tag e = true)
  (hf : ∀ e ∈ before ++ between ++ after, isForeign e = true)

include hi ht hf

lemma insert_id : Grouped ((before ++ ids ++ between ++ tags ++ after).insertIdx
    (insertionPoint .id (before ++ ids ++ between ++ tags ++ after)) (newEntry .id name)) := by
  have hnew : ∀ e ∈ [newEntry .id name], isOfKind .id e = true :=
    List.forall_mem_singleton.mpr (isOfKind_newEntry .id name)
  obtain ⟨hl, hafter⟩ := List.forall_mem_append.mp hf
  obtain ⟨hbefore, hbetween⟩ := List.forall_mem_append.mp hl
  have hrest : ∀ c ∈ tags ++ after, isOfKind .id c = false :=
    List.forall_mem_append.mpr ⟨fun c hc => isOfKind_of_ne (ht c hc) (by decide),
      fun c hc => isOfKind_of_isForeign (hafter c hc) .id⟩
  rcases ids.eq_nil_or_concat' with rfl | ⟨ids, e, rfl⟩
  · cases tags with
    | nil =>
      have hg : Grouped (before ++ between ++ after ++ [newEntry .id name] ++ [] ++ [] ++ []) :=
        .intro hnew (by simp) (by simpa using hf)
      have hp : insertionPoint .id (before ++ between ++ after ++ []) = _ :=
        insertionPoint_id_of_none (by simpa using hf)
      simpa using of_place name (hp.trans (by simp)) (by simpa using hg)
    | cons t tags =>
      have hg : Grouped (before ++ between ++ [newEntry .id name] ++ [] ++ (t :: tags) ++ after) :=
        .intro hnew ht (by simpa using hf)
      rw [List.forall_mem_cons] at ht
      have hp : insertionPoint .id (before ++ between ++ t :: (tags ++ after)) = _ :=
        insertionPoint_id_of_tag hl ht.1 fun c hc => hrest c (by simp_all)
      simpa using of_place name hp (by simpa using hg)
  · have hr : ∀ c ∈ between ++ (tags ++ after), isOfKind .id c = false :=
      List.forall_mem_append.mpr ⟨fun c hc => isOfKind_of_isForeign (hbetween c hc) .id, hrest⟩
    have hg : Grouped (before ++ (ids ++ [e] ++ [newEntry .id name]) ++ between ++ tags ++ after) :=
      .intro (List.forall_mem_append.mpr ⟨hi, hnew⟩) ht hf
    have hp := insertionPoint_of_last (l := before ++ ids) (hi e (by simp)) hr
    simpa using of_place name hp (by simpa using hg)

lemma insert_tag : Grouped ((before ++ ids ++ between ++ tags ++ after).insertIdx
    (insertionPoint .tag (before ++ ids ++ between ++ tags ++ after)) (newEntry .tag name)) := by
  have hnew : ∀ e ∈ [newEntry .tag name], isOfKind .tag e = true :=
    List.forall_mem_singleton.mpr (isOfKind_newEntry .tag name)
  obtain ⟨hl, hafter⟩ := List.forall_mem_append.mp hf
  rcases tags.eq_nil_or_concat' with rfl | ⟨tags, e, rfl⟩
  · have hn : ∀ c ∈ before ++ ids ++ between ++ after, isOfKind .tag c = false := by
      intro c hc
      by_cases hm : c ∈ ids
      · exact isOfKind_of_ne (hi c hm) (by decide)
      · exact isOfKind_of_isForeign (hf c (by simp_all)) .tag
    have hg : Grouped (before ++ ids ++ (between ++ after) ++ [newEntry .tag name] ++ []) :=
      .intro hi hnew (by simpa using hf)
    have hp : insertionPoint .tag (before ++ ids ++ between ++ after ++ []) = _ :=
      insertionPoint_tag_of_none (by simpa using hn)
    simpa using of_place name (hp.trans (by simp)) (by simpa using hg)
  · have hg : Grouped (before ++ ids ++ between ++ (tags ++ [e] ++ [newEntry .tag name]) ++ after) :=
      .intro hi (List.forall_mem_append.mpr ⟨ht, hnew⟩) hf
    have hp := insertionPoint_of_last (l := before ++ ids ++ between ++ tags) (r := after)
      (ht e (by simp)) fun c hc => isOfKind_of_isForeign (hafter c hc) .tag
    simpa using of_place name hp (by simpa using hg)

end Insert

lemma insert (h : Grouped cs) (kind : EntryKind) (name : String) :
    Grouped (cs.insertIdx (insertionPoint kind cs) (newEntry kind name)) := by
  obtain ⟨hi, ht, hf⟩ := h
  cases kind with
  | id => exact insert_id name hi ht hf
  | tag => exact insert_tag name hi ht hf

end Grouped

section Step

variable {set e : Element} {kind other : EntryKind} {name : String}

lemma ensureEntry_of_some (h : set.findChild? kind.element name = some e) :
    (ensureEntry set kind name).1 =
        { set with children := Element.modifyChild.go kind.element name fill set.children } ∧
      (ensureEntry set kind name).2 ≠ .added := by
  obtain ⟨_, l, r, hs, _, hm⟩ := around_of_find? h
  unfold ensureEntry
  rw [h, hm fill]
  dsimp only
  cases hc : e.hasContent with
  | true =>
    rw [fill_of_hasContent hc, ← hs]
    refine ⟨?_, by simp⟩
    cases set
    rfl
  | false =>
    rw [Element.modifyChild, hm, fill_of_bare hc]
    exact ⟨rfl, by simp⟩

lemma ensureEntry_of_none (h : set.findChild? kind.element name = none) :
    ensureEntry set kind name = ({ set with
      children := set.children.insertIdx (insertionPoint kind set.children) (newEntry kind name) },
      .added) := by
  unfold ensureEntry
  rw [h]

lemma Grouped.ensureEntry (h : Grouped set.children) (kind : EntryKind) (name : String) :
    Grouped (ensureEntry set kind name).1.children := by
  cases hf : set.findChild? kind.element name with
  | some e =>
    obtain ⟨_, l, r, hs, _, hm⟩ := around_of_find? hf
    have ht : (fill e).tag = e.tag := by
      unfold fill
      split <;> rfl
    rw [(ensureEntry_of_some hf).1]
    refine h.of_map_tag ?_
    dsimp only
    rw [hm, hs]
    simp [ht]
  | none =>
    rw [ensureEntry_of_none hf]
    exact h.insert kind name

lemma Grouped.foldl {s : Element × Report} (h : Grouped s.1.children)
    (ws : List (EntryKind × String)) : Grouped (ws.foldl ensureWanted s).1.children := by
  induction ws generalizing s with
  | nil => exact h
  | cons w ws ih => exact ih (h.ensureEntry w.1 w.2)

end Step

section Filter

lemma find?_filter_of_imp {α : Type} {p q : α → Bool} (h : ∀ a, q a = true → p a = true)
    (l : List α) : (l.filter p).find? q = l.find? q := by
  rw [List.find?_filter]
  refine congrArg (List.find? · l) (funext fun a => ?_)
  cases hq : q a with
  | true => simp [h a hq]
  | false => simp

variable {kind name : String} {f : Element → Element} {P : Element → Bool} {cs : List Element}
  (hf : ∀ c, P (f c) = P c)

include hf

lemma filter_modifyChild_go_of_neg (h : ∀ c, c.isEntry kind name = true → P c = false) :
    (Element.modifyChild.go kind name f cs).filter P = cs.filter P := by
  induction cs with
  | nil => rfl
  | cons c cs ih =>
    rw [Element.modifyChild.go]
    split
    next hc => simp [hf, h c hc]
    · rw [List.filter_cons, List.filter_cons, ih]

lemma filter_modifyChild_go_of_pos (h : ∀ c, c.isEntry kind name = true → P c = true) :
    (Element.modifyChild.go kind name f cs).filter P =
      Element.modifyChild.go kind name f (cs.filter P) := by
  induction cs with
  | nil => rfl
  | cons c cs ih =>
    rw [Element.modifyChild.go]
    split
    next hc => simp [hf, h c hc, Element.modifyChild.go, hc]
    next hc =>
      rw [List.filter_cons, List.filter_cons, ih]
      split
      · simp [Element.modifyChild.go, hc]
      · rfl

end Filter

section Added

variable (r : Report) {kind other : EntryKind} (name : String)

lemma added_note_of_ne {c : EntryChange} (h : c ≠ .added) :
    (r.note kind name c).added other = r.added other := by
  cases c with
  | added => exact absurd rfl h
  | filled => cases other <;> rfl
  | present => rfl

lemma added_note_self : (r.note kind name .added).added kind = r.added kind ++ [name] := by
  cases kind <;> rfl

lemma added_note_other (h : kind ≠ other) :
    (r.note kind name .added).added other = r.added other := by
  cases kind <;> cases other <;> first | rfl | exact absurd rfl h

end Added

/-- The entries of a kind are those that were there, in their order, and behind them the new ones in
the order of the report. What is no entry is as it was. -/
structure InOrder (ws : List (EntryKind × String)) (set : Element) (s : Element × Report) :
    Prop where
  entries : ∀ kind, s.1.children.filter (isOfKind kind) =
    (filledChildren ws set.children).filter (isOfKind kind)
      ++ (s.2.added kind).map (newEntry kind)
  foreign : s.1.children.filter isForeign = set.children.filter isForeign

namespace InOrder

variable {created : Bool} {ws : List (EntryKind × String)} {set : Element} {s : Element × Report}
  {w : EntryKind × String}

lemma start (created : Bool) (set : Element) :
    InOrder [] set (set, { createdPropertySet := created }) := by
  have hf : filledChildren [] set.children = set.children :=
    List.ext_getElem? fun i => by simp [filledChildren, isFirstFor]
  refine ⟨fun kind => ?_, rfl⟩
  cases kind <;> simp [hf, Report.added]

lemma found (hc : CompletesSet created ws set s) (h : InOrder ws set s) (hw : w ∉ ws) {e : Element}
    (he : s.1.findChild? w.1.element w.2 = some e) :
    InOrder (ws ++ [w]) set (ensureWanted s w) := by
  obtain ⟨hs, hne⟩ := ensureEntry_of_some he
  have hs' : (ensureWanted s w).1.children =
      Element.modifyChild.go w.1.element w.2 fill s.1.children := congrArg Element.children hs
  have hmem : (filledChildren ws set.children).find? (isEntryFor w) = some e :=
    (hc.find?_filledChildren hw).trans he
  -- Filling an entry does not change its kind, so that it can be done after picking out one kind.
  refine ⟨fun kind => ?_, ?_⟩
  · have hadded : (ensureWanted s w).2.added kind = s.2.added kind := added_note_of_ne s.2 w.2 hne
    rw [hs', hadded, filledChildren_concat]
    by_cases hk : w.1 = kind
    · have hkind : ∀ c : Element, c.isEntry w.1.element w.2 = true → isOfKind kind c = true :=
        fun c hc => hk ▸ isOfKind_of_isEntry hc
      have hmem' : ((filledChildren ws set.children).filter (isOfKind kind)).find?
          (isEntryFor w) = some e := by
        rw [find?_filter_of_imp hkind, hmem]
      rw [filter_modifyChild_go_of_pos (isOfKind_fill kind) hkind,
        filter_modifyChild_go_of_pos (isOfKind_fill kind) hkind, h.entries kind]
      exact modifyChild_go_append_of_find? hmem' _
    · have hkind : ∀ c : Element, c.isEntry w.1.element w.2 = true → isOfKind kind c = false :=
        fun c hc => isOfKind_of_ne (isOfKind_of_isEntry hc) hk
      rw [filter_modifyChild_go_of_neg (isOfKind_fill kind) hkind,
        filter_modifyChild_go_of_neg (isOfKind_fill kind) hkind, h.entries kind]
  · have hforeign : ∀ c : Element, c.isEntry w.1.element w.2 = true → isForeign c = false :=
      fun c hc => isForeign_of_isOfKind (isOfKind_of_isEntry hc)
    rw [hs', filter_modifyChild_go_of_neg isForeign_fill hforeign, h.foreign]

lemma missing (hc : CompletesSet created ws set s) (h : InOrder ws set s) (hw : w ∉ ws)
    (hn : s.1.findChild? w.1.element w.2 = none) :
    InOrder (ws ++ [w]) set (ensureWanted s w) := by
  have hw' : ensureWanted s w = ({ s.1 with
      children := s.1.children.insertIdx (insertionPoint w.1 s.1.children) (newEntry w.1 w.2) },
      s.2.note w.1 w.2 .added) := by
    unfold ensureWanted
    rw [ensureEntry_of_none hn]
  have hfilled : filledChildren (ws ++ [w]) set.children = filledChildren ws set.children := by
    rw [filledChildren_concat]
    exact modifyChild_go_of_none ((hc.find?_filledChildren hw).trans hn)
  have hle := insertionPoint_le w.1 s.1.children
  have hnew := isOfKind_newEntry w.1 w.2
  rw [hw']
  refine ⟨fun kind => ?_, ?_⟩
  · dsimp only
    rw [hfilled]
    by_cases hk : w.1 = kind
    · subst hk
      rw [filter_insertIdx_of_last hnew hle (not_isOfKind_of_mem_drop _ _), h.entries w.1,
        added_note_self, List.map_append, List.map_singleton, List.append_assoc]
    · rw [filter_insertIdx_of_neg (isOfKind_of_ne hnew hk) hle, h.entries kind,
        added_note_other s.2 w.2 hk]
  · dsimp only
    rw [filter_insertIdx_of_neg (isForeign_of_isOfKind hnew) hle, h.foreign]

lemma step (hc : CompletesSet created ws set s) (h : InOrder ws set s) (w : EntryKind × String) :
    InOrder (ws ++ [w]) set (ensureWanted s w) := by
  by_cases hw : w ∈ ws
  · have heq : ensureWanted s w = s := ensureWanted_of_satisfies (hc.complete w hw) s.2
    rw [heq]
    exact ⟨fun kind => by rw [filledChildren_of_mem ws set.children hw, h.entries kind], h.foreign⟩
  · cases hf : s.1.findChild? w.1.element w.2 with
    | some e => exact found hc h hw hf
    | none => exact missing hc h hw hf

end InOrder

lemma inOrder_foldl (created : Bool) (set : Element) (ws : List (EntryKind × String)) :
    InOrder ws set (ws.foldl ensureWanted (set, { createdPropertySet := created })) := by
  induction ws using List.reverseRecOn with
  | nil => exact .start created set
  | append_singleton ws w ih =>
    rw [List.foldl_append]
    exact ih.step (completesSet_foldl created set ws) w

section Names

variable (kind : EntryKind) (ws : List (EntryKind × String))

lemma mem_namesOf {name : String} : name ∈ namesOf kind ws ↔ (kind, name) ∈ ws := by
  simp [namesOf]

lemma namesOf_filter (P : EntryKind × String → Bool) :
    namesOf kind (ws.filter P) = (namesOf kind ws).filter fun name => P (kind, name) := by
  rw [namesOf, namesOf, List.filter_map, List.filter_filter, List.filter_filter]
  refine congrArg (List.map Prod.snd) (List.filter_congr fun w _ => ?_)
  obtain ⟨k, name⟩ := w
  by_cases hk : k = kind
  · simp [hk]
  · simp [hk]

lemma namesOf_eraseDups : namesOf kind ws.eraseDups = (namesOf kind ws).eraseDups := by
  induction ws using List.reverseRecOn with
  | nil => rfl
  | append_singleton ws w ih =>
    have happend : ∀ vs us, namesOf kind (vs ++ us) = namesOf kind vs ++ namesOf kind us :=
      fun vs us => by rw [namesOf, List.filter_append, List.map_append, namesOf, namesOf]
    rw [eraseDups_concat, happend, happend, ih]
    by_cases hk : w.1 = kind
    · have hw : namesOf kind [w] = [w.2] := by simp [namesOf, hk]
      have hm : w.2 ∈ namesOf kind ws ↔ w ∈ ws := by rw [mem_namesOf, ← hk]
      rw [hw, eraseDups_concat]
      by_cases hws : w ∈ ws
      · rw [if_pos hws, if_pos (hm.mpr hws)]
        rfl
      · rw [if_neg hws, if_neg (mt hm.mp hws), hw]
    · have hw : namesOf kind [w] = [] := by simp [namesOf, hk]
      rw [hw, List.append_nil]
      split
      · exact List.append_nil _
      · rw [hw, List.append_nil]

lemma namesOf_lacking (set : Element) : namesOf kind (lacking ws set) =
    (namesOf kind ws).eraseDups.filter fun name => (set.findChild? kind.element name).isNone := by
  rw [lacking, namesOf_filter, namesOf_eraseDups]

lemma namesOf_wanted_id (vs : List Record) : namesOf .id (wanted vs) = vs.map (·.id) := by
  unfold namesOf wanted
  induction vs with
  | nil => rfl
  | cons v vs ih => cases ht : v.tagAttribute <;> simp [ht, ih]

lemma namesOf_wanted_tag (vs : List Record) :
    namesOf .tag (wanted vs) = vs.filterMap (·.tagAttribute) := by
  unfold namesOf wanted
  induction vs with
  | nil => rfl
  | cons v vs ih => cases ht : v.tagAttribute <;> simp [ht, ih]

end Names

def setOf (theme : Element) (name : String) : Element :=
  (theme.findChild? "property-set" name).getD (newSet name)

lemma sync_setOf (theme : Element) (x : ViewIndex) (name : String) :
    ∃ created, (sync theme x name).1.findChild? "property-set" name =
        some (syncSet x (setOf theme name) { createdPropertySet := created }).1 ∧
      (sync theme x name).2 = (syncSet x (setOf theme name) { createdPropertySet := created }).2 := by
  cases hf : theme.findChild? "property-set" name with
  | some set =>
    obtain ⟨l, r, _, hl, he, hs⟩ := sync_of_found hf x
    refine ⟨false, ?_⟩
    rw [hs, setOf, hf]
    exact ⟨find?_first hl ((isEntry_updated x set name).trans he) r, rfl⟩
  | none =>
    obtain ⟨hn, hs⟩ := sync_of_missing hf x
    refine ⟨true, ?_⟩
    rw [hs, setOf, hf]
    exact ⟨find?_first hn (isEntry_fresh_self x name) [], rfl⟩

lemma grouped_syncs {theme : Element} {name : String} (h : Grouped (setOf theme name).children)
    (ws : List (ViewIndex × String)) : Grouped (setOf (syncs theme ws) name).children := by
  induction ws generalizing theme with
  | nil => exact h
  | cons w ws ih =>
    refine ih ?_
    dsimp only
    by_cases hw : w.2 = name
    · obtain ⟨created, hs, _⟩ := sync_setOf theme w.1 name
      rw [hw, setOf, hs]
      exact Grouped.foldl h _
    · rw [setOf, findChild?_sync_of_ne theme w.1 hw]
      exact h

/-- A grouped property set stays grouped when it is brought up to date, and however often themes are.
Each block is what it was, with the new entries behind, in the order in which the views ask for them;
what is no entry stays in its order. -/
theorem sync_keeps_grouped (theme : Element) (name : String)
    (h : Grouped (setOf theme name).children) :
    (∀ x : ViewIndex,
      let old := setOf theme name
      let report := (sync theme x name).2
      let filled := filledChildren (wanted x.views) old.children
      ∃ set, (sync theme x name).1.findChild? "property-set" name = some set ∧
        Grouped set.children ∧
        set.children.filter (isOfKind .id) =
          filled.filter (isOfKind .id) ++ report.addedIds.map (newEntry .id) ∧
        set.children.filter (isOfKind .tag) =
          filled.filter (isOfKind .tag) ++ report.addedTags.map (newEntry .tag) ∧
        set.children.filter isForeign = old.children.filter isForeign ∧
        report.addedIds = ((x.views.map (·.id)).eraseDups.filter fun id =>
          (old.findChild? "id" id).isNone) ∧
        report.addedTags = ((x.views.filterMap (·.tagAttribute)).eraseDups.filter fun tag =>
          (old.findChild? "tag" tag).isNone)) ∧
    ∀ ws : List (ViewIndex × String), Grouped (setOf (syncs theme ws) name).children := by
  refine ⟨fun x => ?_, grouped_syncs h⟩
  intro old report filled
  obtain ⟨created, hs, hr⟩ := sync_setOf theme x name
  have hc := completesSet_foldl created old (wanted x.views)
  have ho := inOrder_foldl created old (wanted x.views)
  have hreport : report = expectedReport created (wanted x.views) old := hr.trans hc.report
  refine ⟨_, hs, Grouped.foldl h _, ?_, ?_, ho.foreign, ?_, ?_⟩
  · rw [hreport, ← hc.report]
    exact ho.entries .id
  · rw [hreport, ← hc.report]
    exact ho.entries .tag
  · rw [hreport, ← namesOf_wanted_id]
    exact namesOf_lacking .id _ old
  · rw [hreport, ← namesOf_wanted_tag]
    exact namesOf_lacking .tag _ old

def arranged : Element where
  tag := "theme"
  children := [{
    tag := "property-set"
    attributes := Dict.ofList [("name", "b")]
    children := [note, { newEntry .id "v" with text := none }, note, newEntry .tag "t", note] }]
where
  note : Element := { tag := "note" }

lemma grouped_arranged : Grouped (setOf arranged "b").children := by
  have hi : ∀ e ∈ [{ newEntry .id "v" with text := none }], isOfKind .id e = true := by decide
  have ht : ∀ e ∈ [newEntry .tag "t"], isOfKind .tag e = true := by decide
  have hf : ∀ e ∈ [arranged.note] ++ [arranged.note] ++ [arranged.note], isForeign e = true := by
    decide
  exact .intro hi ht hf

theorem sync_keeps_grouped_arranged :
    let views : Element := {
      tag := "V", attributes := Dict.ofList [("id", "v"), ("tag", "t")]
      children := [{ tag := "W", attributes := Dict.ofList [("id", "w"), ("tag", "u")] }] }
    let x := ViewIndex.ofLayout views .structural
    Grouped (setOf arranged "b").children ∧
      (∃ set, (sync arranged x "b").1.findChild? "property-set" "b" = some set ∧
        Grouped set.children ∧
        set.children.filter (isOfKind .id) = [newEntry .id "v", newEntry .id "w"] ∧
        set.children.filter (isOfKind .tag) = [newEntry .tag "t", newEntry .tag "u"]) ∧
      Grouped (setOf (syncs arranged [(x, "b"), (x, "c"), (x, "b")]) "b").children := by
  intro views x
  obtain ⟨hone, hmany⟩ := sync_keeps_grouped arranged "b" grouped_arranged
  obtain ⟨set, hs, hg, hi, ht, _⟩ := hone x
  refine ⟨grouped_arranged, ⟨set, hs, hg, hi.trans ?_, ht.trans ?_⟩, hmany _⟩
  · decide +kernel
  · decide +kernel

end LayoutSync.Theme
