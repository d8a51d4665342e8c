import LayoutSync.Proofs.Workspace.Locality

/-!
Runs of stages in any order. In a run each stage does what it would do alone: what it says and what
becomes of its file depends on the tree along the file's path, and the directories that several of
them need are made by the first.
-/

namespace LayoutSync

open FileTree Markup Layout Workspace

/-- A stage that keeps to its file's path. -/
structure Confined (t : FileTree) (p : String) (stage : Stage) : Prop where
  alike : Local t p stage
  effect : ∀ s, Effect p s (stage s)
  orderly : ∀ s, Orderly p s (stage s).1

variable {t s u w : FileTree} {p : String} {ps qs : List String}

namespace FileTree

lemma Apart.symm {p q : String} (h : t.Apart p q) : t.Apart q p := And.symm h

lemma Within.none_of_none (h : Within ps t u) {l : Location} (hn : u.find? l = none) :
    t.find? l = none := by
  rcases h.find? l with he | ⟨h1, _⟩ | ⟨_, ⟨c, hc⟩, _⟩
  · rw [← he, hn]
  · exact h1
  · rw [hc] at hn
    cases hn

lemma Within.near (h : Within ps t u) (ht : t.WellFormed) (hp : ∀ q ∈ ps, t.Apart q p) :
    Near p t u := by
  refine ⟨⟨h.current, fun l hl => ?_⟩, ?_⟩
  · rcases h.find? l with he | ⟨h1, h2, _⟩ | ⟨_, _, q, hm, rfl⟩
    · exact .inl he
    · exact .inr ⟨h1, h2⟩
    · exact absurd hl (hp q hm).1
  · rcases h.find? (t.location p) with he | ⟨_, _, q, hm, hl⟩ | ⟨hd, _, q, hm, hl⟩
    · exact he
    · exact absurd (mem_trailOf_of_mem_wayTo hl) (hp q hm).2
    · by_cases hs : stepsOf p = []
      · rw [location, hs] at hd
        exact absurd (ht.start p) hd
      · exact absurd ((mem_trailOf_iff hs).mpr (.inr hl.symm)) (hp q hm).1

lemma near_of_same (ht : t.WellFormed) (hs : s.WellFormed) (hc : s.current = t.current)
    (h : ∀ l ∈ t.trailOf p, s.find? l = t.find? l) : Near p t s := by
  refine ⟨⟨hc, fun l hl => .inl (h l hl)⟩, ?_⟩
  by_cases hp : stepsOf p = []
  · rw [location, hp, List.foldl_nil, ht.start, ← start_congr hc, hs.start]
  · exact h _ ((mem_trailOf_iff hp).mpr (.inr rfl))

structure Interim (ps : List String) (t u : FileTree) : Prop where
  within : Within ps t u
  wellFormed : u.WellFormed
  below : ∀ r, (∀ p ∈ ps, ∀ l ∈ t.trailOf p, ¬ r <+: l) → u.below r = t.below r

lemma Interim.refl (ps : List String) (ht : t.WellFormed) : Interim ps t t :=
  ⟨Within.refl ps t, ht, fun _ _ => rfl⟩

lemma Interim.mono (h : Interim ps t u) (hq : ∀ p ∈ ps, p ∈ qs) : Interim qs t u :=
  ⟨h.within.mono hq, h.wellFormed, fun r hr => h.below r fun p hp => hr p (hq p hp)⟩

lemma Apart.congr {q : String} (hc : u.current = t.current) : u.Apart q p ↔ t.Apart q p := by
  rw [Apart, Apart, location_congr hc, location_congr hc, trailOf_congr hc, trailOf_congr hc]

lemma Interim.near (h : Interim ps t u) (hw : Interim qs u w) (hq : ∀ q ∈ qs, t.Apart q p) :
    Near p u w :=
  hw.within.near h.wellFormed fun q hm => (Apart.congr h.within.current).mpr (hq q hm)

lemma Interim.step {r : Step Status} (h : Interim ps t u) (hp : p ∈ ps) (he : Effect p u r)
    (ho : Orderly p u r.1) : Interim ps t r.1 := by
  refine ⟨(h.within.trans he.within).mono fun q hq => ?_, ho.wellFormed h.wellFormed, fun r hr => ?_⟩
  · rcases List.mem_append.mp hq with hq | hq
    · exact hq
    · exact List.mem_singleton.mp hq ▸ hp
  · rw [ho.below r fun l hl => ?_, h.below r hr]
    rw [trailOf_congr h.within.current] at hl
    exact hr p hp l hl

end FileTree

section Run

variable {stages stages' : List (String × Stage)}

lemma interim_run (h : Interim ps t u) (hp : ∀ s ∈ stages, s.1 ∈ ps)
    (he : ∀ s ∈ stages, ∀ w, Effect s.1 w (s.2 w))
    (ho : ∀ s ∈ stages, ∀ w, Orderly s.1 w (s.2 w).1) : Interim ps t (runStages stages u).1 := by
  induction stages generalizing u with
  | nil => exact h
  | cons s stages ih =>
    exact ih (h.step (hp s List.mem_cons_self) (he s List.mem_cons_self u) (ho s List.mem_cons_self u))
      (fun r hr => hp r (List.mem_cons_of_mem _ hr)) (fun r hr => he r (List.mem_cons_of_mem _ hr))
      fun r hr => ho r (List.mem_cons_of_mem _ hr)

structure Separately (stages : List (String × Stage)) (t u : FileTree) (r : Step (List FileStatus)) :
    Prop where
  current : r.1.current = u.current
  statuses : r.2 = stages.map fun s => ⟨s.1, (s.2 t).2⟩
  files : ∀ s ∈ stages, r.1.find? (t.location s.1) = (s.2 t).1.find? (t.location s.1)
  elsewhere : ∀ l, (∀ s ∈ stages, l ≠ t.location s.1) → ∀ e, r.1.find? l = some e ↔
    u.find? l = some e ∨ u.find? l = none ∧ ∃ s ∈ stages, (s.2 t).1.find? l = some e

lemma Effect.directory_of_none {r : Step Status} (h : Effect p t r) {l : Location} {e : Entry}
    (hl : l ≠ t.location p) (hn : t.find? l = none) (he : r.1.find? l = some e) : e = .directory := by
  rcases h.within.find? l with hs | ⟨_, hd, _⟩ | ⟨_, _, q, hq, hlq⟩
  · rw [he, hn] at hs
    cases hs
  · exact Option.some.inj (he.symm.trans hd)
  · obtain rfl := List.mem_singleton.mp hq
    exact absurd hlq hl

lemma separately_run (ht : t.WellFormed) (h : Interim ps t u) (hp : ∀ s ∈ stages, ∀ q ∈ ps, t.Apart q s.1)
    (hs : ∀ s ∈ stages, Confined t s.1 s.2) (ha : (stages.map Prod.fst).Pairwise t.Apart) :
    Separately stages t u (runStages stages u) := by
  induction stages generalizing u ps with
  | nil => exact ⟨rfl, rfl, by simp, by simp [runStages]⟩
  | cons s stages ih =>
    obtain ⟨hsa, ha⟩ := List.pairwise_cons.mp ha
    have hc := hs s List.mem_cons_self
    have hrest : ∀ r ∈ stages, Confined t r.1 r.2 := fun r hr => hs r (List.mem_cons_of_mem _ hr)
    have halike := hc.alike u h.wellFormed (h.within.near ht (hp s List.mem_cons_self))
    have hnext : Interim (s.1 :: ps) t (s.2 u).1 :=
      (h.mono fun _ => List.mem_cons_of_mem _).step List.mem_cons_self (hc.effect u) (hc.orderly u)
    have hrun := ih hnext (fun r hr q hq => by
      rcases List.mem_cons.mp hq with rfl | hq
      · exact hsa _ (List.mem_map_of_mem hr)
      · exact hp r (List.mem_cons_of_mem _ hr) q hq) hrest ha
    refine ⟨hrun.current.trans (hc.effect u).within.current, ?_, fun r hr => ?_, fun l hl e => ?_⟩
    · simp only [runStages, List.map_cons, hrun.statuses, halike.status]
    · rcases List.mem_cons.mp hr with rfl | hr
      · -- The stages that follow leave the file as it is.
        have hw := within_run (fun r hr => (hrest r hr).effect) (r.2 u).1
        have hnear := hw.near (p := r.1) hnext.wellFormed fun q hq => by
          have hqa := hsa q hq
          rw [Apart, location_congr hnext.within.current, location_congr hnext.within.current,
            trailOf_congr hnext.within.current, trailOf_congr hnext.within.current]
          exact hqa.symm
        have hsame := hnear.same
        rw [location_congr hnext.within.current] at hsame
        exact hsame.trans halike.file
      · exact hrun.files r hr
    · obtain ⟨hls, hl⟩ := List.forall_mem_cons.mp hl
      refine (hrun.elsewhere l hl e).trans ?_
      have hmade := halike.elsewhere l hls h.within.none_of_none
      rw [hmade]
      cases hu : u.find? l with
      | some e' => simp
      | none =>
        have hn := h.within.none_of_none hu
        cases hst : (s.2 t).1.find? l with
        | none => simp [hst]
        | some e' =>
          obtain rfl := (hc.effect t).directory_of_none hls hn hst
          simp only [Option.none_or, reduceCtorEq, false_and, or_false, false_or, true_and,
            List.exists_mem_cons_iff, hst]
          refine ⟨.inl, fun he => he.elim id ?_⟩
          rintro ⟨r, hr, he⟩
          rw [(hrest r hr).effect t |>.directory_of_none (hl r hr) hn he]

lemma run_perm {r r' : Step (List FileStatus)} (hp : stages'.Perm stages)
    (h : Separately stages t t r) (h' : Separately stages' t t r') :
    r'.1.current = r.1.current ∧ (∀ l, r'.1.find? l = r.1.find? l) ∧ r'.2.Perm r.2 := by
  refine ⟨h'.current.trans h.current.symm, fun l => ?_, ?_⟩
  · by_cases hl : ∃ s ∈ stages, l = t.location s.1
    · obtain ⟨s, hm, rfl⟩ := hl
      rw [h.files s hm, h'.files s (hp.mem_iff.mpr hm)]
    · have hl : ∀ s ∈ stages, l ≠ t.location s.1 := fun s hm he => hl ⟨s, hm, he⟩
      refine Option.ext fun e => ?_
      rw [h.elsewhere l hl e, h'.elsewhere l (fun s hm => hl s (hp.mem_iff.mp hm)) e]
      simp only [hp.mem_iff]
  · rw [h.statuses, h'.statuses]
    exact hp.map _

lemma run_along (ht : t.WellFormed) (hs : s.WellFormed) (hn : Near p t s)
    (hc : ∀ st ∈ stages, Confined t st.1 st.2)
    (hm : p ∈ stages.map Prod.fst ∨ ∀ st ∈ stages, t.Apart st.1 p) (hp : stages'.Perm stages)
    (h : Separately stages t t (runStages stages t))
    (h' : Separately stages' s s (runStages stages' s)) :
    (runStages stages' s).1.find? (t.location p) = (runStages stages t).1.find? (t.location p) ∧
      ∀ status, ⟨p, status⟩ ∈ (runStages stages' s).2 ↔ ⟨p, status⟩ ∈ (runStages stages t).2 := by
  have halike : ∀ st ∈ stages, st.1 = p → Alike p t s (st.2 t) (st.2 s) := fun st hst he =>
    he ▸ (hc st hst).alike s hs (he ▸ hn)
  refine ⟨?_, fun status => ?_⟩
  · rcases hm with hm | hm
    · obtain ⟨st, hst, rfl⟩ := List.mem_map.mp hm
      have hf := h'.files st (hp.mem_iff.mpr hst)
      rw [location_congr hn.keeps.current] at hf
      rw [hf, h.files st hst, (halike st hst rfl).file]
    · have hw := within_run (fun st hst => (hc st hst).effect) t
      have hw' := within_run (fun st hst => (hc st (hp.mem_iff.mp hst)).effect) s
      have hq : ∀ q ∈ stages.map Prod.fst, t.Apart q p := List.forall_mem_map.mpr hm
      have hq' : ∀ q ∈ stages'.map Prod.fst, s.Apart q p := fun q hm =>
        (Apart.congr hn.keeps.current).mpr (hq q ((hp.map Prod.fst).mem_iff.mp hm))
      have hsame := (hw'.near hs hq').same
      rw [location_congr hn.keeps.current] at hsame
      rw [hsame, (hw.near ht hq).same, hn.same]
  · rw [h.statuses, h'.statuses]
    simp only [List.mem_map, FileStatus.mk.injEq, hp.mem_iff]
    refine exists_congr fun st => and_congr_right fun hst => and_congr_right fun he => ?_
    rw [(halike st hst he).status]

end Run

end LayoutSync
