import LayoutSync.Proofs.Theme.Entries

namespace LayoutSync.Theme

open Markup Layout

section Children

variable {kind p q : String} {f g : Element → Element} {cs : List Element}

lemma isEntry_of_ne {e : Element} (he : e.isEntry kind p = true) (h : p ≠ q) :
    e.isEntry kind q = false := by
  rw [Bool.eq_false_iff]
  intro hq
  exact h (Option.some.inj ((isEntry_iff.mp he).2.symm.trans (isEntry_iff.mp hq).2))

lemma modifyChild_go_append_of_find? {e : Element} (h : cs.find? (Element.isEntry kind p) = some e)
    (ds : List Element) : Element.modifyChild.go kind p f (cs ++ ds) =
      Element.modifyChild.go kind p f cs ++ ds := by
  obtain ⟨he, l, r, rfl, hl, hm⟩ := around_of_find? h
  rw [hm, List.append_assoc, List.cons_append, modifyChild_go_append hl he, List.append_assoc]
  rfl

variable (hf : ∀ c n, (f c).isEntry kind n = c.isEntry kind n)

include hf

lemma find?_modifyChild_go_of_ne (h : p ≠ q) :
    (Element.modifyChild.go kind p f cs).find? (Element.isEntry kind q) =
      cs.find? (Element.isEntry kind q) := by
  induction cs with
  | nil => rfl
  | cons c cs ih =>
    rw [Element.modifyChild.go]
    split
    next hc =>
      have hq := isEntry_of_ne hc h
      rw [List.find?_cons_of_neg (by simp [hf, hq]), List.find?_cons_of_neg (by simp [hq])]
    · rw [List.find?_cons, List.find?_cons, ih]

lemma modifyChild_go_comm (hg : ∀ c n, (g c).isEntry kind n = c.isEntry kind n) (h : p ≠ q) :
    Element.modifyChild.go kind q g (Element.modifyChild.go kind p f cs) =
      Element.modifyChild.go kind p f (Element.modifyChild.go kind q g cs) := by
  induction cs with
  | nil => rfl
  | cons c cs ih =>
    cases hp : c.isEntry kind p with
    | true =>
      have hq := isEntry_of_ne hp h
      simp [Element.modifyChild.go, hp, hq, hf]
    | false => cases hq : c.isEntry kind q <;> simp [Element.modifyChild.go, hp, hq, hg, ih]

end Children

def updated (x : ViewIndex) (set : Element) : Element := (syncSet x set {}).1

def fresh (x : ViewIndex) (name : String) : Element :=
  (syncSet x (newSet name) { createdPropertySet := true }).1

section Sync

variable {theme theme' set : Element} {x y : ViewIndex} {name p q : String}

lemma isEntry_updated (x : ViewIndex) (set : Element) (name : String) :
    (updated x set).isEntry "property-set" name = set.isEntry "property-set" name :=
  isEntry_syncSet x set {} _ _

lemma isEntry_fresh (x : ViewIndex) (name other : String) :
    (fresh x name).isEntry "property-set" other = (newSet name).isEntry "property-set" other :=
  isEntry_syncSet x (newSet name) _ _ _

lemma isEntry_fresh_self (x : ViewIndex) (name : String) :
    (fresh x name).isEntry "property-set" name = true :=
  (isEntry_fresh x name name).trans (isEntry_iff.mpr ⟨rfl, rfl⟩)

lemma isEntry_fresh_of_ne (x : ViewIndex) (h : p ≠ q) :
    (fresh x p).isEntry "property-set" q = false :=
  isEntry_of_ne (isEntry_fresh_self x p) h

lemma sync_of_some (h : theme.findChild? "property-set" name = some set) (x : ViewIndex) :
    sync theme x name =
      (theme.modifyChild "property-set" name (updated x), (syncSet x set {}).2) := by
  obtain ⟨_, l, r, _, _, hm⟩ := around_of_findChild? h
  unfold sync
  rw [h]
  dsimp only
  rw [hm, hm]
  rfl

lemma sync_of_none (h : theme.findChild? "property-set" name = none) (x : ViewIndex) :
    sync theme x name = ({ theme with children := theme.children ++ [fresh x name] },
      (syncSet x (newSet name) { createdPropertySet := true }).2) :=
  (sync_of_missing h x).2

lemma report_congr (h : theme'.findChild? "property-set" name =
    theme.findChild? "property-set" name) (x : ViewIndex) :
    (sync theme' x name).2 = (sync theme x name).2 := by
  cases hf : theme.findChild? "property-set" name with
  | some set => rw [sync_of_some hf, sync_of_some (h.trans hf)]
  | none => rw [sync_of_none hf, sync_of_none (h.trans hf)]

lemma findChild?_sync_of_ne (theme : Element) (x : ViewIndex) (h : p ≠ q) :
    (sync theme x p).1.findChild? "property-set" q = theme.findChild? "property-set" q := by
  cases hf : theme.findChild? "property-set" p with
  | some set =>
    rw [sync_of_some hf]
    exact find?_modifyChild_go_of_ne (isEntry_updated x) h
  | none =>
    have hn := isEntry_fresh_of_ne x h
    rw [sync_of_none hf, Element.findChild?, List.find?_append]
    simp [hn, Element.findChild?]

lemma sync_comm_of_some (hp : theme.findChild? "property-set" p = some set) (h : p ≠ q)
    (x y : ViewIndex) : (sync (sync theme x p).1 y q).1 = (sync (sync theme y q).1 x p).1 := by
  have hp' := (findChild?_sync_of_ne theme y h.symm).trans hp
  rw [sync_of_some hp', sync_of_some hp]
  cases hq : theme.findChild? "property-set" q with
  | some other =>
    have hq' := (findChild?_sync_of_ne theme x h).trans hq
    rw [sync_of_some hp] at hq'
    rw [sync_of_some hq', sync_of_some hq, Element.modifyChild, Element.modifyChild,
      Element.modifyChild, Element.modifyChild]
    dsimp only
    rw [modifyChild_go_comm (isEntry_updated x) (isEntry_updated y) h]
  | none =>
    have hq' := (findChild?_sync_of_ne theme x h).trans hq
    rw [sync_of_some hp] at hq'
    rw [sync_of_none hq', sync_of_none hq, Element.modifyChild, Element.modifyChild]
    dsimp only
    rw [modifyChild_go_append_of_find? hp]

end Sync

/-- Updates of two property sets come to the same in either order: each says what it would say alone,
and the themes are the same unless both sets are new, which then come in the order of the updates. -/
theorem sync_comm (theme : Element) (x y : ViewIndex) {p q : String} (h : p ≠ q) :
    let first := sync theme x p
    let second := sync first.1 y q
    let first' := sync theme y q
    let second' := sync first'.1 x p
    (first.2, second.2) = (second'.2, first'.2) ∧
    if theme.findChild? "property-set" p = none ∧ theme.findChild? "property-set" q = none then
      ∃ setP setQ : Element, setP.isEntry "property-set" p = true ∧
        setQ.isEntry "property-set" q = true ∧
        second.1 = { theme with children := theme.children ++ [setP, setQ] } ∧
        second'.1 = { theme with children := theme.children ++ [setQ, setP] }
    else second.1 = second'.1 := by
  intro first second first' second'
  have hq := findChild?_sync_of_ne theme x h
  have hp := findChild?_sync_of_ne theme y h.symm
  refine ⟨Prod.ext (report_congr hp x).symm (report_congr hq y), ?_⟩
  split
  next hn =>
    have hq' := hq.trans hn.2
    have hp' := hp.trans hn.1
    refine ⟨fresh x p, fresh y q, isEntry_fresh_self x p, isEntry_fresh_self y q, ?_, ?_⟩
    · dsimp only [second, first]
      rw [sync_of_none hq', sync_of_none hn.1]
      simp
    · dsimp only [second', first']
      rw [sync_of_none hp', sync_of_none hn.2]
      simp
  next hn =>
    cases hfp : theme.findChild? "property-set" p with
    | some set => exact sync_comm_of_some hfp h x y
    | none =>
      cases hfq : theme.findChild? "property-set" q with
      | some set => exact (sync_comm_of_some hfq h.symm y x).symm
      | none => exact absurd ⟨hfp, hfq⟩ hn

def crowded : Element where
  tag := "theme"
  children := [
    { tag := "property-set" },
    { tag := "property-set"
      attributes := Dict.ofList [("name", "a")]
      children := [{ tag := "id", attributes := Dict.ofList [("name", "v")] }] },
    { tag := "property-set", attributes := Dict.ofList [("name", "a")] }]

theorem sync_comm_crowded :
    let x := ViewIndex.ofLayout { tag := "V", attributes := Dict.ofList [("id", "v")] } .structural
    let y := ViewIndex.ofLayout { tag := "W", attributes := Dict.ofList [("id", "w")] } .structural
    ("a" ≠ "b" ∧ (sync (sync crowded x "a").1 y "b").1 = (sync (sync crowded y "b").1 x "a").1) ∧
    "c" ≠ "b" ∧ ∃ setC setB : Element, setC.isEntry "property-set" "c" = true ∧
      setB.isEntry "property-set" "b" = true ∧
      (sync (sync crowded x "c").1 y "b").1.children = crowded.children ++ [setC, setB] ∧
      (sync (sync crowded y "b").1 x "c").1.children = crowded.children ++ [setB, setC] := by
  intro x y
  have hab : "a" ≠ "b" := by decide
  have hcb : "c" ≠ "b" := by decide
  have hsame := (sync_comm crowded x y hab).2
  have hnew := (sync_comm crowded x y hcb).2
  rw [if_neg (by decide)] at hsame
  rw [if_pos (by decide)] at hnew
  obtain ⟨setC, setB, hC, hB, h1, h2⟩ := hnew
  exact ⟨⟨hab, hsame⟩, hcb, setC, setB, hC, hB, congrArg Element.children h1,
    congrArg Element.children h2⟩

def syncs (theme : Element) (ws : List (ViewIndex × String)) : Element :=
  ws.foldl (fun theme w => (sync theme w.1 w.2).1) theme

/-- Once a theme has the sets of all layouts that share it, their order does not matter. -/
theorem syncs_perm {theme : Element} {vs ws : List (ViewIndex × String)} (h : vs.Perm ws)
    (hn : (vs.map Prod.snd).Nodup)
    (hs : ∀ v ∈ vs, theme.findChild? "property-set" v.2 ≠ none) :
    syncs theme vs = syncs theme ws := by
  induction h generalizing theme with
  | nil => rfl
  | cons v h ih =>
    rw [List.map_cons, List.nodup_cons] at hn
    refine ih hn.2 fun w hw => ?_
    have hne : v.2 ≠ w.2 := fun he => hn.1 (he ▸ List.mem_map_of_mem hw)
    rw [findChild?_sync_of_ne theme v.1 hne]
    exact hs w (List.mem_cons_of_mem _ hw)
  | swap v w l =>
    obtain ⟨set, hw⟩ := Option.ne_none_iff_exists'.mp (hs w List.mem_cons_self)
    have hne : w.2 ≠ v.2 := by
      have hn' := (List.nodup_cons.mp hn).1
      exact fun he => hn' (he ▸ List.mem_cons_self)
    unfold syncs
    rw [List.foldl_cons, List.foldl_cons, List.foldl_cons, List.foldl_cons,
      sync_comm_of_some hw hne w.1 v.1]
  | trans h _ ih ih' =>
    rw [ih hn hs]
    exact ih' ((h.map Prod.snd).nodup_iff.mp hn) fun w hw => hs w (h.mem_iff.mpr hw)

end LayoutSync.Theme
