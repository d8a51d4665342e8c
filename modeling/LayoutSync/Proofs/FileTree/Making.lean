import LayoutSync.Proofs.FileTree.Access

/-!
Making a directory and those around it. Either the path leads to a directory afterwards, or it meets
something that is in the way and stays in the way.
-/

namespace LayoutSync.FileTree

open Text

structure Made (p : String) (t u : FileTree) : Prop where
  current : u.current = t.current
  find? : ∀ l, u.find? l = t.find? l ∨
    t.find? l = none ∧ u.find? l = some .directory ∧ l ∈ t.trailOf p

def Outcome (u : FileTree) (p : String) : Except AccessFault Unit → Prop
  | .ok _ => ∃ l, u.walk (u.start p) (stepsOf p) = .ok l
  | .error _ => ∃ f, u.walk (u.start p) (stepsOf p) = .error f ∧ f ≠ .missing

structure Ending (p : String) (ns : List String) (n : String) : Prop where
  fault : pathFault? p = none
  steps : stepsOf p = ns ++ [n]
  target : ∀ t : FileTree,
    t.target? p = (do let d ← t.walk (t.start p) ns; return some ⟨d, n, false⟩)

variable {t u v : FileTree} {p n : String} {ns : List String}

namespace Made

lemma refl (p : String) (t : FileTree) : Made p t t := ⟨rfl, fun _ => .inl rfl⟩

lemma trans (h : Made p t u) (h' : Made p u v) : Made p t v := by
  refine ⟨h'.current.trans h.current, fun l => ?_⟩
  rcases h.find? l with hu | ⟨ht, hu, hl⟩
  · rcases h'.find? l with hv | ⟨hu', hv, hl⟩
    · exact .inl (hv.trans hu)
    · exact .inr ⟨hu.symm.trans hu', hv, trailOf_congr h.current p ▸ hl⟩
  · rcases h'.find? l with hv | ⟨hu', _⟩
    · exact .inr ⟨ht, hv.trans hu, hl⟩
    · exact absurd (hu.symm.trans hu') (by simp)

lemma mono {q : String} (h : Made q t u) (hq : ∀ l ∈ t.trailOf q, l ∈ t.trailOf p) : Made p t u :=
  ⟨h.current, fun l => (h.find? l).imp_right fun ⟨h1, h2, h3⟩ => ⟨h1, h2, hq l h3⟩⟩

end Made

lemma isDirectory_mono (hc : u.current = t.current)
    (hd : ∀ l, t.find? l = some .directory → u.find? l = some .directory)
    (h : t.isDirectory p = true) : u.isDirectory p = true := by
  cases hf : pathFault? p with
  | some f => simp [isDirectory, lookup_of_fault hf] at h
  | none =>
    obtain ⟨l, hl⟩ := (isDirectory_iff hf t).mp h
    refine (isDirectory_iff hf u).mpr ⟨l, ?_⟩
    rw [start_congr hc]
    exact walk_mono hd hl

lemma ensureDirectory_of_occupied (hf : pathFault? p = none)
    (ho : t.makeDirectory p = .error .occupied) {l : Location}
    (hl : t.walk (t.start p) (stepsOf p) = .ok l) :
    t.ensureDirectory p = (t, .ok ()) := by
  rw [ensureDirectory, ho, (isDirectory_iff hf t).mpr ⟨l, hl⟩]
  rfl

namespace Ending

variable (h : Ending p ns n)

include h

lemma makeDirectory (t : FileTree) :
    t.makeDirectory p = (do
      let d ← t.walk (t.start p) ns
      if leadsElsewhere n then .error .occupied
      else
        checkName n
        match t.find? (d ++ [n]) with
        | some _ => .error .occupied
        | none => return t.put (d ++ [n]) .directory) := by
  rw [FileTree.makeDirectory, h.target]
  cases t.walk (t.start p) ns with
  | error f => rfl
  | ok d => rfl

lemma walk_steps (t : FileTree) :
    t.walk (t.start p) (stepsOf p) = t.walk (t.start p) ns >>= fun d => t.enter d n := by
  rw [h.steps, walk_concat]

lemma mem_trailOf (t : FileTree) : descend (ns.foldl descend (t.start p)) n ∈ t.trailOf p := by
  rw [trailOf, h.steps, trail_append]
  simp [trail]

lemma made_put {d : Location} (hw : t.walk (t.start p) ns = .ok d)
    (hn : leadsElsewhere n = false) (hc : checkName n = .ok ()) (hf : t.find? (d ++ [n]) = none) :
    Made p t (t.put (d ++ [n]) .directory) ∧
      Outcome (t.put (d ++ [n]) .directory) p (.ok ()) := by
  have hl : d ++ [n] ≠ [] := by simp
  have hm : d ++ [n] ∈ t.trailOf p := by
    have := h.mem_trailOf t
    rwa [← eq_of_walk hw, descend_plain hn] at this
  have hmono : ∀ k, t.find? k = some .directory →
      (t.put (d ++ [n]) .directory).find? k = some .directory := by
    intro k hk
    rw [find?_put t hl]
    split
    · rfl
    · exact hk
  refine ⟨⟨rfl, fun l => ?_⟩, d ++ [n], ?_⟩
  · rw [find?_put t hl]
    split
    next he => exact .inr ⟨he ▸ hf, rfl, he ▸ hm⟩
    · exact .inl rfl
  · have hs : (t.put (d ++ [n]) .directory).start p = t.start p := rfl
    rw [h.walk_steps, hs, walk_mono hmono hw, ok_bind]
    exact enter_eq_ok_iff.mpr ⟨(descend_plain hn).symm, .inr ⟨hc, find?_put_self t .directory hl⟩⟩

lemma makeDirectory_eq_ok_iff : t.makeDirectory p = .ok u ↔
    ∃ d, t.walk (t.start p) ns = .ok d ∧ leadsElsewhere n = false ∧ checkName n = .ok () ∧
      t.find? (d ++ [n]) = none ∧ u = t.put (d ++ [n]) .directory := by
  rw [h.makeDirectory, bind_eq_ok]
  refine exists_congr fun d => and_congr_right fun _ => ?_
  cases hn : leadsElsewhere n with
  | true => simp
  | false =>
    cases hc : checkName n with
    | error f => simp
    | ok _ => cases hf : t.find? (d ++ [n]) <;> simp [pure_eq_ok, eq_comm]

lemma makeDirectory_of_missing (hw : t.walk (t.start p) ns ≠ .error .missing)
    (hm : t.walk (t.start p) (stepsOf p) = .error .missing) : ∃ u, t.makeDirectory p = .ok u := by
  rw [h.walk_steps] at hm
  obtain hm | ⟨d, hd, hm⟩ := bind_eq_error.mp hm
  · exact absurd hm hw
  · obtain ⟨hn, hc, hf⟩ := enter_missing_iff.mp hm
    exact ⟨_, h.makeDirectory_eq_ok_iff.mpr ⟨d, hd, hn, hc, hf, rfl⟩⟩

lemma ensureDirectory_spec (hw : t.walk (t.start p) ns ≠ .error .missing) :
    Made p t (t.ensureDirectory p).1 ∧
      Outcome (t.ensureDirectory p).1 p (t.ensureDirectory p).2 := by
  unfold ensureDirectory
  cases hm : t.makeDirectory p with
  | ok u =>
    obtain ⟨d, hd, hn, hc, hf, rfl⟩ := h.makeDirectory_eq_ok_iff.mp hm
    exact h.made_put hd hn hc hf
  | error f =>
    refine ⟨Made.refl p t, ?_⟩
    dsimp only
    cases hs : t.walk (t.start p) (stepsOf p) with
    | ok l =>
      rw [if_pos ((isDirectory_iff h.fault t).mpr ⟨l, hs⟩)]
      exact ⟨l, hs⟩
    | error g =>
      have hb : ¬ t.isDirectory p = true := fun hb => by
        obtain ⟨l, hl⟩ := (isDirectory_iff h.fault t).mp hb
        rw [hs] at hl
        cases hl
      rw [if_neg hb]
      refine ⟨g, hs, ?_⟩
      -- Had the walk ended for want of the last name, the directory would have been made.
      rintro rfl
      obtain ⟨u, hu⟩ := h.makeDirectory_of_missing hw hs
      rw [hm] at hu
      cases hu

lemma ensureDirectory_of_walk {l : Location} (hl : t.walk (t.start p) (stepsOf p) = .ok l) :
    t.ensureDirectory p = (t, .ok ()) ∧ t.makeDirectory p ≠ .error .missing := by
  have ho : t.makeDirectory p = .error .occupied := by
    rw [h.walk_steps] at hl
    obtain ⟨d, hd, hl⟩ := bind_eq_ok.mp hl
    rw [h.makeDirectory, hd, ok_bind]
    obtain ⟨-, hn | ⟨hc, hf⟩⟩ := enter_eq_ok_iff.mp hl
    · rw [if_pos hn]
    · rw [hc, ok_bind, hf, ite_self]
  exact ⟨ensureDirectory_of_occupied h.fault ho hl, by simp [ho]⟩

end Ending

structure Sound (p : String) : Prop where
  noNul : '\x00' ∉ p.toList
  short : p.utf8ByteSize ≤ maxPathBytes

lemma sound_of_pathFault? (h : pathFault? p = none) : Sound p := by
  unfold pathFault? at h
  split at h
  · cases h
  next hn =>
    split at h
    · cases h
    · split at h
      · cases h
      next hs => exact ⟨by simpa using hn, by omega⟩

lemma pathFault?_of_sound (h : Sound p) (he : p ≠ "") : pathFault? p = none := by
  unfold pathFault?
  have h1 : ¬ p.toList.contains '\x00' = true := by simpa using h.noNul
  have h2 : ¬ p.isEmpty = true := by simpa using he
  rw [if_neg h1, if_neg h2, if_neg (by have := h.short; omega)]

lemma Sound.parent {q : String} (h : Sound p) (hq : Path.IsParent q p) : Sound q := by
  obtain ⟨r, hr⟩ := hq.start
  have hp : p = q ++ String.ofList r := by
    rw [← String.toList_inj, String.toList_append, String.toList_ofList, hr]
  refine ⟨fun hn => h.noNul ?_, ?_⟩
  · rw [← hr]
    exact List.mem_append_left _ hn
  · have := h.short
    rw [hp, String.utf8ByteSize_append] at this
    omega

lemma ending_cases (ht : Path.IsTrimmed p.toList) (hf : pathFault? p = none) :
    (stepsOf p = [] ∧ ∀ t : FileTree, t.makeDirectory p = .error .occupied) ∨
      ∃ ns n, Ending p ns n := by
  rcases ht with he | he | he | ⟨hl, ns, n, hs, hn⟩
  · exact absurd he (isEmpty_of_pathFault? hf)
  · obtain rfl : p = "/" := String.toList_inj.mp he
    exact .inl ⟨rfl, fun t => rfl⟩
  · obtain rfl : p = "." := String.toList_inj.mp he
    exact .inl ⟨rfl, fun t => rfl⟩
  · have hso : segmentsOf p = ns.map String.ofList ++ [String.ofList n] := by
      rw [segmentsOf, hs, List.map_append]
      rfl
    have hd : String.ofList n ≠ "." := by
      intro hd
      rw [ofList_eq_dot.mp hd] at hn
      cases hn
    refine .inr ⟨(ns.map String.ofList).filter (· ≠ "."), String.ofList n, hf, ?_, fun t => ?_⟩
    · rw [stepsOf_eq_filter, hso, List.filter_append]
      simp [hd]
    · rw [target?_concat hf hso, walk_filter, decide_eq_false hl]

lemma stepsOf_parent {q : String} (h : Path.IsParent q p) : stepsOf q = (stepsOf p).dropLast := by
  rw [stepsOf, stepsOf, h.steps, List.map_dropLast]

lemma start_parent {q : String} (h : Path.IsParent q p) (t : FileTree) : t.start q = t.start p := by
  rw [start, start, h.isAbsolute]

lemma trailOf_parent {q : String} (h : Path.IsParent q p) (t : FileTree) :
    ∀ l ∈ t.trailOf q, l ∈ t.trailOf p := by
  intro l hl
  rw [trailOf, stepsOf_parent h, start_parent h] at hl
  rw [trailOf]
  rcases List.eq_nil_or_concat' (stepsOf p) with hs | ⟨ns, n, hs⟩
  · rw [hs] at hl
    cases hl
  · rw [hs, List.dropLast_concat] at hl
    rw [hs, trail_append]
    exact List.mem_append_left _ hl

section Parent

variable {q : String}

lemma Ending.outcome_of_error (h : Ending p ns n) (hq : Path.IsParent q p) {f : AccessFault}
    (hout : Outcome u q (.error f)) : Outcome u p (.error f) := by
  obtain ⟨g, hg, hne⟩ := hout
  rw [stepsOf_parent hq, h.steps, List.dropLast_concat, start_parent hq] at hg
  exact ⟨g, by rw [h.walk_steps, hg, error_bind], hne⟩

lemma Ending.ensureDirectory_of_outcome (h : Ending p ns n) (hq : Path.IsParent q p)
    (hout : Outcome u q (.ok ())) :
    Made p u (u.ensureDirectory p).1 ∧
      Outcome (u.ensureDirectory p).1 p (u.ensureDirectory p).2 := by
  obtain ⟨l, hl⟩ := hout
  rw [stepsOf_parent hq, h.steps, List.dropLast_concat, start_parent hq] at hl
  exact h.ensureDirectory_spec (by rw [hl]; simp)

end Parent

lemma makeDirectoriesWithin_spec {fuel : Nat} (ht : Path.IsTrimmed p.toList) (hp : Sound p)
    (hl : p.length < fuel) (t : FileTree) :
    Made p t (t.makeDirectoriesWithin fuel p).1 ∧
      Outcome (t.makeDirectoriesWithin fuel p).1 p (t.makeDirectoriesWithin fuel p).2 := by
  induction fuel generalizing t p with
  | zero => exact absurd hl (Nat.not_lt_zero _)
  | succ fuel ih =>
    rw [makeDirectoriesWithin]
    by_cases he : p = ""
    · subst he
      exact ⟨Made.refl _ t, t.start "", rfl⟩
    have hf := pathFault?_of_sound hp he
    rw [if_neg (by simpa using he)]
    rcases ending_cases ht hf with ⟨hs, ho⟩ | ⟨ns, n, h⟩
    · have hw : t.walk (t.start p) (stepsOf p) = .ok (t.start p) := by
        rw [hs]
        rfl
      rw [ho]
      dsimp only
      rw [ensureDirectory_of_occupied hf (ho t) hw]
      exact ⟨Made.refl p t, _, hw⟩
    by_cases hm : t.makeDirectory p = .error .missing
    · cases hq : Path.parent? p with
      | none =>
        -- Without a parent a path has no names at all.
        have hs := h.steps
        rw [stepsOf, (Path.steps_of_parent?_none hq).1] at hs
        simp at hs
      | some q =>
        have hpar := Path.isParent_of_parent? hq
        -- The parent is shorter, so that there is fuel enough for it.
        have hfuel : q.length < fuel := by
          have := hpar.shorter
          omega
        obtain ⟨hmade, hout⟩ := ih hpar.trimmed (hp.parent hpar) hfuel t
        rw [hm]
        dsimp only
        generalize t.makeDirectoriesWithin fuel q = r at hmade hout
        obtain ⟨u, r⟩ := r
        have hmade' : Made p t u := hmade.mono (trailOf_parent hpar t)
        cases r with
        | error f => exact ⟨hmade', h.outcome_of_error hpar hout⟩
        | ok _ =>
          obtain ⟨h1, h2⟩ := h.ensureDirectory_of_outcome hpar hout
          exact ⟨hmade'.trans h1, h2⟩
    · have hw : t.walk (t.start p) ns ≠ .error .missing := by
        intro hw
        rw [h.makeDirectory, hw] at hm
        exact hm rfl
      split
      next hm' _ => exact absurd hm' hm
      · exact h.ensureDirectory_spec hw

lemma makeDirectories_spec (ht : Path.IsTrimmed p.toList) (hp : Sound p) (t : FileTree) :
    Made p t (t.makeDirectories p).1 ∧
      Outcome (t.makeDirectories p).1 p (t.makeDirectories p).2 :=
  makeDirectoriesWithin_spec ht hp (Nat.lt_succ_self _) t

lemma makeDirectories_of_walk (ht : Path.IsTrimmed p.toList) (hp : Sound p) {l : Location}
    (hl : t.walk (t.start p) (stepsOf p) = .ok l) : t.makeDirectories p = (t, .ok ()) := by
  rw [makeDirectories, makeDirectoriesWithin]
  by_cases he : p = ""
  · subst he
    rfl
  · have hf := pathFault?_of_sound hp he
    rw [if_neg (by simpa using he)]
    rcases ending_cases ht hf with ⟨_, ho⟩ | ⟨ns, n, h⟩
    · rw [ho]
      exact ensureDirectory_of_occupied hf (ho t) hl
    · obtain ⟨h1, h2⟩ := h.ensureDirectory_of_walk hl
      split
      next hm _ => exact absurd hm h2
      · exact h1

end LayoutSync.FileTree
