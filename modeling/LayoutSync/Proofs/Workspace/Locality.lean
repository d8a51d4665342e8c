import LayoutSync.Proofs.FileTree.Clear
import LayoutSync.Proofs.Workspace.Reporting

/-!
What a stage for a file depends on. In two trees that are the same along the file's path it ends
alike, and the directories that it makes are those that it would make in the other tree, unless they
are there.
-/

namespace LayoutSync

open FileTree Workspace Layout

structure Alike (p : String) (t s : FileTree) (r r' : Step Status) : Prop where
  status : r'.2 = r.2
  file : r'.1.find? (t.location p) = r.1.find? (t.location p)
  elsewhere : ∀ l, l ≠ t.location p → (s.find? l = none → t.find? l = none) →
    r'.1.find? l = (s.find? l).or (r.1.find? l)

def Local (t : FileTree) (p : String) (stage : Stage) : Prop :=
  ∀ s, s.WellFormed → Near p t s → Alike p t s (stage t) (stage s)

variable {t s u v : FileTree} {p text : String}

section Alike

lemma or_find? {l : Location} (h : s.find? l = none → t.find? l = none) :
    s.find? l = (s.find? l).or (t.find? l) := by
  cases hs : s.find? l with
  | none => rw [h hs, Option.or_none]
  | some e => rfl

lemma alike_kept (h : Near p t s) (status : Status) : Alike p t s (t, status) (s, status) :=
  ⟨rfl, h.same, fun _ _ => or_find?⟩

lemma alike_put (hl : t.location p ≠ []) (e : Entry) (status : Status) :
    Alike p t s (t.put (t.location p) e, status) (s.put (t.location p) e, status) := by
  refine ⟨rfl, ?_, fun l hne hs => ?_⟩
  · rw [find?_put_self t e hl, find?_put_self s e hl]
  · rw [find?_put_of_ne s e hne, find?_put_of_ne t e hne]
    exact or_find? hs

end Alike

lemma FileTree.Clear.fault (h : t.Clear p) (ht : t.WellFormed) (hm : t.read p = .error .missing) :
    pathFault? p = none := by
  rcases sound_of_read (.inl hm) with rfl | hf
  · exact absurd rfl (h.steps ht)
  · exact hf

lemma FileTree.Near.read (h : Near p t s) (ht : t.WellFormed) (hs : s.WellFormed)
    (hc : t.read p = .error .missing → t.Clear p) : s.read p = t.read p := by
  by_cases hm : t.read p = .error .missing
  · rw [hm, ((hc hm).near h).missing hs ((hc hm).fault ht hm)]
  · exact h.keeps.read hm

lemma find?_of_ways (hn : Near p t s) (ht : t.WellFormed) (hc : t.Clear p)
    (hu : ∀ l, u.find? l = if l ∈ t.wayTo p then some .directory else t.find? l)
    (hv : ∀ l, v.find? l = if l ∈ s.wayTo p then some .directory else s.find? l) :
    (∀ k ∈ t.trailOf p, v.find? k = u.find? k) ∧
      ∀ l, (s.find? l = none → t.find? l = none) → v.find? l = (s.find? l).or (u.find? l) := by
  refine ⟨fun k hk => ?_, fun l hl => ?_⟩
  · rw [hu, hv, wayTo_congr hn.keeps.current]
    split
    · rfl
    next hw =>
      rcases (mem_trailOf_iff (hc.steps ht)).mp hk with hk | rfl
      · exact absurd hk hw
      · exact hn.same
  · rw [hu, hv, wayTo_congr hn.keeps.current]
    split
    next hw =>
      rw [← wayTo_congr hn.keeps.current] at hw
      rcases (hc.near hn).way l hw with he | he <;> rw [he] <;> rfl
    · exact or_find? hl

lemma alike_of_missing (hn : Near p t s) (ht : t.WellFormed) (hs : s.WellFormed)
    (hm : t.read p = .error .missing) (hc : t.Clear p) :
    Alike p t s (writeStage p text t) (writeStage p text s) := by
  have hf := hc.fault ht hm
  have hcs := hc.near hn
  -- The same directories are made in both trees, and then the file is written in both.
  obtain ⟨q, hq⟩ := parent?_of_missing hm hf
  obtain ⟨u, hmu, hcu, hu⟩ := hc.makeDirectories ht hf hq
  obtain ⟨v, hmv, hcv, hv⟩ := hcs.makeDirectories hs hf hq
  have hcur : v.current = u.current := hcv.trans (hn.keeps.current.trans hcu.symm)
  obtain ⟨hagree, hother⟩ := find?_of_ways hn ht hc hu hv
  rw [← trailOf_congr hcu] at hagree
  have hloc : t.location p ∈ u.trailOf p := by
    rw [trailOf_congr hcu]
    exact (mem_trailOf_iff (hc.steps ht)).mpr (.inr rfl)
  have hms : s.read p = .error .missing := hcs.missing hs hf
  unfold writeStage
  rw [writeIfChanged_eq (.inl hm), writeIfChanged_eq (.inl hms), hq]
  dsimp only
  rw [hmu, hmv]
  dsimp only
  unfold writeIfChanged.writeIn
  rcases write_congr hcur hagree text.toUTF8 with ⟨f, h1, h2⟩ | ⟨h1, h2⟩
  · rw [h1, h2]
    exact ⟨rfl, hagree _ hloc, fun l _ => hother l⟩
  · rw [h1, h2, location_congr hcu]
    obtain ⟨ns, n, hp, _⟩ := write_ok h1
    have hne := location_ne_nil hp t
    refine ⟨rfl, ?_, fun l hl hsl => ?_⟩
    · rw [find?_put_self v _ hne, find?_put_self u _ hne]
    · rw [find?_put_of_ne v _ hl, find?_put_of_ne u _ hl]
      exact hother l hsl

lemma local_writeStage (ht : t.WellFormed) (hc : t.read p = .error .missing → t.Clear p)
    (text : String) : Local t p (writeStage p text) := by
  intro s hs hn
  have hr := hn.read ht hs hc
  rcases writeIfChanged_cases t p text with ⟨h, _⟩ | ⟨f, h, hf, _⟩ | hm | ⟨c, h, hne⟩
  · rw [writeStage, writeStage, writeIfChanged_of_read h, writeIfChanged_of_read (hr.trans h)]
    exact alike_kept hn _
  · rw [writeStage, writeStage, writeIfChanged_of_error h hf, writeIfChanged_of_error (hr.trans h) hf]
    exact alike_kept hn _
  · exact alike_of_missing hn ht hs hm (hc hm)
  · rw [writeStage, writeStage, writeIfChanged_of_other h hne,
      writeIfChanged_of_other (hr.trans h) hne, location_congr hn.keeps.current]
    obtain ⟨ns, n, hp⟩ := filePath_of_read h
    exact alike_put (location_ne_nil hp t) _ _

lemma local_updateFile (ht : t.WellFormed) (hc : t.read p = .error .missing → t.Clear p)
    (update : Option String → Except Fault (Option String)) :
    Local t p (updateFile · p update) := by
  intro s hs hn
  have hr : s.readText? p = t.readText? p := by
    rw [readText?_eq, readText?_eq, hn.read ht hs hc]
  dsimp only
  unfold updateFile
  rw [hr]
  cases t.readText? p with
  | error f => exact alike_kept hn _
  | ok existing =>
    dsimp only
    cases update existing with
    | error f => exact alike_kept hn _
    | ok new =>
      cases new with
      | none => exact alike_kept hn _
      | some text => exact local_writeStage ht hc text s hs hn

structure FileTree.Orderly (p : String) (t u : FileTree) : Prop where
  wellFormed : t.WellFormed → u.WellFormed
  below : ∀ r, (∀ l ∈ t.trailOf p, ¬ r <+: l) → u.below r = t.below r

section Orderly

lemma FileTree.Orderly.refl (p : String) (t : FileTree) : Orderly p t t := ⟨id, fun _ _ => rfl⟩

lemma FileTree.Builds.orderly (h : Builds (t.start p) (stepsOf p).dropLast t u) : Orderly p t u :=
  ⟨fun ht => (h.wellFormed ht (ht.start p)).1, fun _ hr => h.below_eq fun l hl =>
    hr l (mem_trailOf_of_mem_wayTo hl)⟩

lemma orderly_writeIn (h : Builds (t.start p) (stepsOf p).dropLast t u) (text : String) :
    Orderly p t (writeIfChanged.writeIn p text u).1 := by
  rcases writeIn_cases u p text with ⟨v, hw, he⟩ | ⟨f, _, he⟩
  · obtain ⟨ns, n, hp, hwalk, _, hd, rfl⟩ := write_ok hw
    rw [he]
    refine ⟨fun ht => ?_, fun r hr => ?_⟩
    · have hu := h.orderly.wellFormed ht
      rw [hp.location_eq] at hd ⊢
      exact hu.put (hu.walk (hu.start p) hwalk).1 hd _
    · have hl : ¬ r <+: u.location p := by
        rw [location_congr h.current]
        exact hr _ (hp.location_mem_trailOf t)
      exact (below_put hl u _).trans (h.orderly.below r hr)
  · rw [he]
    exact h.orderly

lemma orderly_writeStage (t : FileTree) (p text : String) : Orderly p t (writeStage p text t).1 := by
  unfold writeStage
  rcases writeIfChanged_cases t p text with ⟨_, he⟩ | ⟨_, _, _, he⟩ | h
  · rw [he]
    exact Orderly.refl p t
  · rw [he]
    exact Orderly.refl p t
  · obtain ⟨u, hu, he⟩ := writeIfChanged_course h
    have hb : Builds (t.start p) (stepsOf p).dropLast t u := by
      rcases hu with rfl | ⟨q, hq, hs, rfl⟩
      · exact .refl
      · rw [← start_parent hq, ← stepsOf_parent hq]
        exact builds_makeDirectoriesWithin hq.trimmed hs t
    rcases he with ⟨f, he⟩ | he
    · rw [he]
      exact hb.orderly
    · rw [he]
      exact orderly_writeIn hb text

lemma orderly_updateFile (t : FileTree) (p : String)
    (update : Option String → Except Fault (Option String)) :
    Orderly p t (updateFile t p update).1 := by
  rcases updateFile_cases t p update with ⟨_, text, _, _, he⟩ | ⟨_, he, _⟩
  · rw [he]
    exact orderly_writeStage t p text
  · rw [he]
    exact Orderly.refl p t

end Orderly

end LayoutSync
