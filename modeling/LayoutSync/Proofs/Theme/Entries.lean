import LayoutSync.Proofs.Markup.Tidy
import LayoutSync.Theme.Sync

namespace LayoutSync.Theme

open Markup Layout

section Lists

variable {α : Type} {p : α → Bool}

lemma insertIdx_eq (a : α) {l : List α} {n : Nat} (h : n ≤ l.length) :
    l.insertIdx n a = l.take n ++ a :: l.drop n := by
  induction l generalizing n with
  | nil =>
    obtain rfl : n = 0 := by simpa using h
    rfl
  | cons b l ih =>
    cases n with
    | zero => rfl
    | succ n => simp [ih (Nat.le_of_succ_le_succ h)]

lemma find?_insert {a : α} (h : p a = false) (l r : List α) :
    (l ++ a :: r).find? p = (l ++ r).find? p := by
  rw [List.find?_append, List.find?_cons_of_neg (by simp [h]), List.find?_append]

lemma find?_first {a : α} {l : List α} (h : ∀ b ∈ l, p b = false) (ha : p a = true) (r : List α) :
    (l ++ a :: r).find? p = some a := by
  rw [List.find?_append, List.find?_eq_none.mpr (by simpa using h), List.find?_cons_of_pos ha]
  rfl

lemma find?_replace {a b c : α} {l r : List α} (h : p b = p a)
    (hc : (l ++ a :: r).find? p = some c) :
    (l ++ b :: r).find? p = some c ∨ c = a ∧ (l ++ b :: r).find? p = some b := by
  rw [List.find?_append] at hc ⊢
  cases hl : l.find? p with
  | some d =>
    rw [hl, Option.some_or] at hc
    exact .inl (by rw [Option.some_or, hc])
  | none =>
    rw [hl, Option.none_or] at hc
    rw [Option.none_or]
    cases ha : p a with
    | true =>
      rw [List.find?_cons_of_pos ha] at hc
      exact .inr ⟨(Option.some.inj hc).symm, List.find?_cons_of_pos (h.trans ha)⟩
    | false =>
      rw [List.find?_cons_of_neg (by simp [ha])] at hc
      exact .inl (by rw [List.find?_cons_of_neg (by simp [h, ha]), hc])

end Lists

lemma isEntry_iff {kind name : String} {e : Element} :
    e.isEntry kind name = true ↔ e.tag = kind ∧ e.attr "name" = some name := by
  simp [Element.isEntry]

lemma modifyChild_go_append {kind name : String} {l : List Element} {e : Element}
    (hl : ∀ c ∈ l, c.isEntry kind name = false) (he : e.isEntry kind name = true)
    (f : Element → Element) (r : List Element) :
    Element.modifyChild.go kind name f (l ++ e :: r) = l ++ f e :: r := by
  induction l with
  | nil => simp [Element.modifyChild.go, he]
  | cons c l ih => simp [Element.modifyChild.go, hl c (by simp), ih fun d hd => hl d (by simp [hd])]

lemma around_of_find? {cs : List Element} {e : Element} {kind name : String}
    (h : cs.find? (Element.isEntry kind name) = some e) :
    e.isEntry kind name = true ∧ ∃ l r, cs = l ++ e :: r ∧
      (∀ c ∈ l, c.isEntry kind name = false) ∧
        ∀ f, Element.modifyChild.go kind name f cs = l ++ f e :: r := by
  obtain ⟨he, l, r, hc, hl⟩ := List.find?_eq_some_iff_append.mp h
  have hl' : ∀ c ∈ l, c.isEntry kind name = false := by simpa using hl
  exact ⟨he, l, r, hc, hl', fun f => hc ▸ modifyChild_go_append hl' he f r⟩

lemma around_of_findChild? {set e : Element} {kind name : String}
    (h : set.findChild? kind name = some e) :
    e.isEntry kind name = true ∧ ∃ l r, set.children = l ++ e :: r ∧
      (∀ c ∈ l, c.isEntry kind name = false) ∧
        ∀ f, set.modifyChild kind name f = { set with children := l ++ f e :: r } := by
  obtain ⟨he, l, r, hc, hl, hm⟩ := around_of_find? h
  exact ⟨he, l, r, hc, hl, fun f => by rw [Element.modifyChild, hm]⟩

lemma modifyChild_self {set e : Element} {kind name : String}
    (h : set.findChild? kind name = some e) : set.modifyChild kind name (fun _ => e) = set := by
  obtain ⟨_, l, r, hc, _, hm⟩ := around_of_findChild? h
  rw [hm, ← hc]
  cases set
  rfl

lemma insertionPoint_le (kind : EntryKind) (cs : List Element) :
    insertionPoint kind cs ≤ cs.length := by
  unfold insertionPoint afterLast?
  split
  next n h =>
    obtain ⟨i, _, rfl⟩ := Option.map_eq_some_iff.mp h
    exact Nat.sub_le _ _
  · split
    · cases h : cs.findIdx? (·.tag = EntryKind.tag.element) with
      | none => exact Nat.le_refl _
      | some i => exact Nat.le_of_lt (List.findIdx?_eq_some_iff_findIdx_eq.mp h).1
    · exact Nat.le_refl _

lemma ensureEntry_cases (set : Element) (kind : EntryKind) (name : String) :
    (∃ e, set.findChild? kind.element name = some e ∧ e.hasContent = true ∧
        ensureEntry set kind name = (set, .present)) ∨
      (∃ e l r, set.children = l ++ e :: r ∧ (∀ c ∈ l, c.isEntry kind.element name = false) ∧
        e.isEntry kind.element name = true ∧ e.hasContent = false ∧
        ensureEntry set kind name =
          ({ set with children := l ++ { e with text := some placeholder } :: r }, .filled)) ∨
      ∃ l r, set.children = l ++ r ∧ (∀ c ∈ l ++ r, c.isEntry kind.element name = false) ∧
        ensureEntry set kind name =
          ({ set with children := l ++ newEntry kind name :: r }, .added) := by
  unfold ensureEntry
  cases hf : set.findChild? kind.element name with
  | some e =>
    dsimp only
    cases hc : e.hasContent with
    | true => exact .inl ⟨e, rfl, hc, rfl⟩
    | false =>
      obtain ⟨he, l, r, hs, hl, hm⟩ := around_of_findChild? hf
      refine .inr (.inl ⟨e, l, r, hs, hl, he, hc, ?_⟩)
      rw [hm]
      rfl
  | none =>
    have hn : ∀ c ∈ set.children, c.isEntry kind.element name = false := by
      simpa using List.find?_eq_none.mp hf
    refine .inr (.inr ⟨set.children.take (insertionPoint kind set.children),
      set.children.drop (insertionPoint kind set.children), ?_, ?_, ?_⟩)
    · rw [List.take_append_drop]
    · rw [List.take_append_drop]
      exact hn
    · dsimp only
      rw [insertIdx_eq _ (insertionPoint_le kind set.children)]

section Children

variable {P : Element → Prop} (fill : ∀ c, P c → c.hasContent = false →
  P { c with text := some placeholder })

include fill

lemma forall_children_ensureEntry {set : Element} (h : ∀ c ∈ set.children, P c) {kind : EntryKind}
    {name : String} (new : P (newEntry kind name)) :
    ∀ c ∈ (ensureEntry set kind name).1.children, P c := by
  rcases ensureEntry_cases set kind name with ⟨_, _, _, he⟩ | ⟨e, l, r, hs, _, _, hc, he⟩ |
      ⟨l, r, hs, _, he⟩ <;> rw [he]
  · exact h
  · rw [hs, List.forall_mem_append, List.forall_mem_cons] at h
    obtain ⟨hl, hm, hr⟩ := h
    exact List.forall_mem_append.mpr ⟨hl, List.forall_mem_cons.mpr ⟨fill e hm hc, hr⟩⟩
  · rw [hs, List.forall_mem_append] at h
    exact List.forall_mem_append.mpr ⟨h.1, List.forall_mem_cons.mpr ⟨new, h.2⟩⟩

lemma forall_children_foldl (new : ∀ kind name, P (newEntry kind name)) {s : Element × Report}
    (h : ∀ c ∈ s.1.children, P c) (ws : List (EntryKind × String)) :
    ∀ c ∈ (ws.foldl ensureWanted s).1.children, P c := by
  induction ws generalizing s with
  | nil => exact h
  | cons w ws ih => exact ih (forall_children_ensureEntry fill h (new w.1 w.2))

end Children

def Satisfies (set : Element) (w : EntryKind × String) : Prop :=
  ∃ e, set.findChild? w.1.element w.2 = some e ∧ e.hasContent = true

lemma hasContent_placeholder (e : Element) :
    ({ e with text := some placeholder } : Element).hasContent = true := by
  simp [Element.hasContent, placeholder]

lemma isEntry_newEntry (kind : EntryKind) (name : String) :
    (newEntry kind name).isEntry kind.element name = true :=
  isEntry_iff.mpr ⟨rfl, rfl⟩

lemma satisfies_ensureEntry (set : Element) (w : EntryKind × String) :
    Satisfies (ensureEntry set w.1 w.2).1 w := by
  rcases ensureEntry_cases set w.1 w.2 with ⟨e, hf, hc, h⟩ | ⟨e, l, r, _, hl, he, _, h⟩ |
      ⟨l, r, _, hn, h⟩ <;> rw [h]
  · exact ⟨e, hf, hc⟩
  · have he' : Element.isEntry w.1.element w.2 { e with text := some placeholder } = true := he
    exact ⟨_, find?_first hl he' r, hasContent_placeholder e⟩
  · refine ⟨_, find?_first (fun c hc => hn c (by simp [hc])) (isEntry_newEntry w.1 w.2) r, ?_⟩
    exact hasContent_placeholder { newEntry w.1 w.2 with text := none }

lemma element_injective {k k' : EntryKind} (h : k.element = k'.element) : k = k' := by
  cases k <;> cases k' <;> first | rfl | exact absurd h (by decide)

lemma eq_of_isEntry_newEntry {k k' : EntryKind} {n n' : String}
    (h : (newEntry k n).isEntry k'.element n' = true) : k = k' ∧ n = n' := by
  obtain ⟨ht, hn⟩ := isEntry_iff.mp h
  exact ⟨element_injective ht, Option.some.inj hn⟩

lemma Satisfies.ensureEntry {set : Element} {v : EntryKind × String} (h : Satisfies set v)
    (w : EntryKind × String) : Satisfies (ensureEntry set w.1 w.2).1 v := by
  obtain ⟨f, hf, hc⟩ := h
  rcases ensureEntry_cases set w.1 w.2 with ⟨e, _, _, h⟩ | ⟨e, l, r, hs, hl, he, hn, h⟩ |
      ⟨l, r, hs, hn, h⟩ <;> rw [h]
  · exact ⟨f, hf, hc⟩
  · -- The filled entry is found under the same kind and name as before.
    rw [Element.findChild?, hs] at hf
    have hv : Element.isEntry v.1.element v.2 { e with text := some placeholder } =
        e.isEntry v.1.element v.2 := rfl
    rcases find?_replace hv hf with hf' | ⟨rfl, _⟩
    · exact ⟨f, hf', hc⟩
    · rw [hn] at hc
      cases hc
  · -- A new entry cannot hide one of the same kind and name, since there is none.
    rw [Element.findChild?, hs] at hf
    have hv : (newEntry w.1 w.2).isEntry v.1.element v.2 = false := by
      apply Bool.eq_false_iff.mpr
      intro ht
      obtain ⟨hk, hm⟩ := eq_of_isEntry_newEntry ht
      have hp := List.find?_some hf
      rw [← hk, ← hm, hn f (List.mem_of_find?_eq_some hf)] at hp
      cases hp
    exact ⟨f, (find?_insert hv l r).trans hf, hc⟩

lemma ensureWanted_of_satisfies {set : Element} {w : EntryKind × String} (h : Satisfies set w)
    (r : Report) : ensureWanted (set, r) w = (set, r) := by
  obtain ⟨e, hf, hc⟩ := h
  simp [ensureWanted, ensureEntry, hf, hc, Report.note]

section Run

variable (s : Element × Report) (ws : List (EntryKind × String))

lemma satisfies_foldl_of {v : EntryKind × String} (h : Satisfies s.1 v) :
    Satisfies (ws.foldl ensureWanted s).1 v := by
  induction ws generalizing s with
  | nil => exact h
  | cons w ws ih => exact ih _ (h.ensureEntry w)

lemma satisfies_foldl {w : EntryKind × String} (hw : w ∈ ws) :
    Satisfies (ws.foldl ensureWanted s).1 w := by
  induction ws generalizing s with
  | nil => cases hw
  | cons v ws ih =>
    rcases List.mem_cons.mp hw with rfl | hw
    · exact satisfies_foldl_of _ ws (satisfies_ensureEntry s.1 w)
    · exact ih _ hw

lemma foldl_of_satisfies {set : Element} {ws : List (EntryKind × String)}
    (h : ∀ w ∈ ws, Satisfies set w) (r : Report) : ws.foldl ensureWanted (set, r) = (set, r) := by
  induction ws with
  | nil => rfl
  | cons w ws ih =>
    rw [List.foldl_cons, ensureWanted_of_satisfies (h w (by simp))]
    exact ih fun v hv => h v (by simp [hv])

end Run

lemma ensureEntry_eq (set : Element) (kind : EntryKind) (name : String) :
    ∃ cs, (ensureEntry set kind name).1 = { set with children := cs } := by
  rcases ensureEntry_cases set kind name with ⟨_, _, _, h⟩ | ⟨_, _, _, _, _, _, _, h⟩ |
      ⟨_, _, _, _, h⟩ <;> rw [h]
  · refine ⟨set.children, ?_⟩
    cases set
    rfl
  · exact ⟨_, rfl⟩
  · exact ⟨_, rfl⟩

lemma foldl_ensureWanted_eq (s : Element × Report) (ws : List (EntryKind × String)) :
    ∃ cs, (ws.foldl ensureWanted s).1 = { s.1 with children := cs } := by
  induction ws generalizing s with
  | nil =>
    refine ⟨s.1.children, ?_⟩
    obtain ⟨⟨⟩, _⟩ := s
    rfl
  | cons w ws ih =>
    obtain ⟨cs, h⟩ := ensureEntry_eq s.1 w.1 w.2
    obtain ⟨ds, hd⟩ := ih (ensureWanted s w)
    refine ⟨ds, ?_⟩
    rw [List.foldl_cons, hd]
    change { (ensureEntry s.1 w.1 w.2).1 with children := ds } = _
    rw [h]

section Wanted

variable {views : List Layout.Record} {r : Layout.Record}

lemma id_mem_wanted (h : r ∈ views) : (EntryKind.id, r.id) ∈ wanted views :=
  List.mem_flatMap.mpr ⟨r, h, List.mem_cons_self⟩

lemma tag_mem_wanted (h : r ∈ views) {tag : String} (ht : r.tagAttribute = some tag) :
    (EntryKind.tag, tag) ∈ wanted views := by
  refine List.mem_flatMap.mpr ⟨r, h, List.mem_cons_of_mem _ ?_⟩
  rw [ht]
  exact List.mem_singleton_self _

end Wanted

def Covers (theme : Element) (x : ViewIndex) (name : String) : Prop :=
  ∃ set, theme.findChild? "property-set" name = some set ∧
    ∀ w ∈ wanted x.views, Satisfies set w

lemma sync_of_covers {theme : Element} {x : ViewIndex} {name : String} (h : Covers theme x name) :
    sync theme x name = (theme, {}) := by
  obtain ⟨set, hf, hs⟩ := h
  unfold sync
  rw [hf]
  dsimp only
  rw [syncSet, foldl_of_satisfies hs, modifyChild_self hf]

lemma isEntry_syncSet (x : ViewIndex) (set : Element) (r : Report) (kind name : String) :
    (syncSet x set r).1.isEntry kind name = set.isEntry kind name := by
  obtain ⟨cs, h⟩ := foldl_ensureWanted_eq (set, r) (wanted x.views)
  rw [syncSet, h]
  rfl

section Sync

variable {theme set : Element} {name : String}

lemma sync_of_found (h : theme.findChild? "property-set" name = some set) (x : ViewIndex) :
    ∃ l r, theme.children = l ++ set :: r ∧ (∀ c ∈ l, c.isEntry "property-set" name = false) ∧
      set.isEntry "property-set" name = true ∧
      sync theme x name =
        ({ theme with children := l ++ (syncSet x set {}).1 :: r }, (syncSet x set {}).2) := by
  obtain ⟨he, l, r, hc, hl, hm⟩ := around_of_findChild? h
  refine ⟨l, r, hc, hl, he, ?_⟩
  unfold sync
  rw [h]
  dsimp only
  rw [hm]

lemma sync_of_missing (h : theme.findChild? "property-set" name = none) (x : ViewIndex) :
    (∀ c ∈ theme.children, c.isEntry "property-set" name = false) ∧
      sync theme x name =
        ({ theme with
            children := theme.children ++
              [(syncSet x (newSet name) { createdPropertySet := true }).1] },
          (syncSet x (newSet name) { createdPropertySet := true }).2) := by
  refine ⟨by simpa using List.find?_eq_none.mp h, ?_⟩
  unfold sync
  rw [h]

end Sync

lemma covers_sync (theme : Element) (x : ViewIndex) (name : String) :
    Covers (sync theme x name).1 x name := by
  cases hf : theme.findChild? "property-set" name with
  | some set =>
    obtain ⟨l, r, _, hl, he, hs⟩ := sync_of_found hf x
    rw [hs]
    refine ⟨(syncSet x set {}).1, ?_, fun w hw => satisfies_foldl _ _ hw⟩
    exact find?_first hl ((isEntry_syncSet x set {} _ _).trans he) r
  | none =>
    obtain ⟨hn, hs⟩ := sync_of_missing hf x
    rw [hs]
    refine ⟨(syncSet x (newSet name) { createdPropertySet := true }).1, ?_,
      fun w hw => satisfies_foldl _ _ hw⟩
    exact find?_first hn ((isEntry_syncSet x _ _ _ _).trans (isEntry_iff.mpr ⟨rfl, rfl⟩)) []

section Tidy

lemma hasContent_tidy (e : Element) : e.tidy.hasContent = e.hasContent := by
  rw [Element.tidy_eq]
  unfold Element.hasContent
  cases hc : e.children with
  | cons => simp
  | nil =>
    cases e.text with
    | none => rfl
    | some s =>
      by_cases hs : s = ""
      · simp [hs]
      · simp [hs]

lemma isEntry_tidy (kind name : String) (e : Element) :
    e.tidy.isEntry kind name = e.isEntry kind name := by
  rw [Element.tidy_eq]
  rfl

lemma findChild?_tidy {e c : Element} {kind name : String} (h : e.findChild? kind name = some c) :
    e.tidy.findChild? kind name = some c.tidy := by
  have he : Element.isEntry kind name ∘ Element.tidy = Element.isEntry kind name :=
    funext (isEntry_tidy kind name)
  unfold Element.findChild? at h ⊢
  rw [Element.tidy_eq]
  simp only [List.find?_map, he, h, Option.map_some]

lemma Satisfies.tidy {set : Element} {w : EntryKind × String} (h : Satisfies set w) :
    Satisfies set.tidy w := by
  obtain ⟨e, hf, hc⟩ := h
  exact ⟨e.tidy, findChild?_tidy hf, (hasContent_tidy e).trans hc⟩

lemma Covers.tidy {theme : Element} {x : ViewIndex} {name : String} (h : Covers theme x name) :
    Covers theme.tidy.alone x name := by
  obtain ⟨set, hf, hs⟩ := h
  exact ⟨set.tidy, findChild?_tidy hf, fun w hw => (hs w hw).tidy⟩

end Tidy

end LayoutSync.Theme
