import LayoutSync.Proofs.Workspace.Contents

/-!
What a stage for a file does to a tree, and what it says. It may make directories on the way to the
file and write the file; it says that the file was written just if its content is another then.
-/

namespace LayoutSync

open FileTree Workspace

namespace FileTree

def contentAt? (t : FileTree) (p : String) : Option ByteArray :=
  match t.find? (t.location p) with
  | some (.file c) => some c
  | _ => none

/-- A file that a path leads to is not missed when it is read by the path. -/
def Finds (t : FileTree) (p : String) : Prop :=
  t.read p = .error .missing → t.contentAt? p = none

structure Opened (p : String) (t u : FileTree) : Prop where
  current : u.current = t.current
  find? : ∀ l, u.find? l = t.find? l ∨
    t.find? l = none ∧ u.find? l = some .directory ∧ l ∈ t.wayTo p

/-- The only changes are new directories on the way to paths, and files that they lead to. -/
structure Within (ps : List String) (t u : FileTree) : Prop where
  current : u.current = t.current
  find? : ∀ l, u.find? l = t.find? l ∨
    (t.find? l = none ∧ u.find? l = some .directory ∧ ∃ p ∈ ps, l ∈ t.wayTo p) ∨
    (t.find? l ≠ some .directory ∧ (∃ c, u.find? l = some (.file c)) ∧ ∃ p ∈ ps, l = t.location p)

end FileTree

/-- What a status tells of a file: it is called written if its content is another than before, and if it
is called written its content is another, unless the file was missed when it was read. -/
structure Tells (t u : FileTree) (p : String) (status : Status) : Prop where
  of_changed : u.contentAt? p ≠ t.contentAt? p → status = .written
  changed : status = .written → t.Finds p → u.contentAt? p ≠ t.contentAt? p

/-- What may come of a stage for a file. -/
inductive Effect (p : String) (t : FileTree) : Step Status → Prop
  | kept {status : Status} (h : status ≠ .written) : Effect p t (t, status)
  | failed {u : FileTree} {message : String} (h : Opened p t u) : Effect p t (u, .failed message)
  | written {u : FileTree} {c : ByteArray} (h : Opened p t u) (hp : ∃ ns n, FilePath p ns n)
      (hf : t.find? (t.location p) ≠ some .directory)
      (hr : t.read p = .error .missing ∨ ∃ old, t.read p = .ok old ∧ old ≠ c) :
      Effect p t (u.put (t.location p) (.file c), .written)

variable {t u v : FileTree} {p q : String} {ps qs : List String} {r : Step Status}

namespace FileTree

lemma Opened.refl (p : String) (t : FileTree) : Opened p t t := ⟨rfl, fun _ => .inl rfl⟩

lemma Made.opened (h : Made q t u) (hq : Path.IsParent q p) : Opened p t u := by
  refine ⟨h.current, fun l => (h.find? l).imp_right fun ⟨h1, h2, h3⟩ => ⟨h1, h2, ?_⟩⟩
  rwa [trailOf, stepsOf_parent hq, start_parent hq] at h3

lemma contentAt?_congr (h : u.current = t.current)
    (hf : u.find? (t.location p) = t.find? (t.location p)) : u.contentAt? p = t.contentAt? p := by
  unfold contentAt?
  rw [location_congr h, hf]

lemma contentAt?_of_read {c : ByteArray} (h : t.read p = .ok c) : t.contentAt? p = some c := by
  obtain ⟨ns, n, hp⟩ := filePath_of_read h
  rw [contentAt?, (hp.read_eq_ok_iff.mp h).2.2]

namespace Within

lemma refl (ps : List String) (t : FileTree) : Within ps t t := ⟨rfl, fun _ => .inl rfl⟩

lemma mono (h : Within ps t u) (hq : ∀ p ∈ ps, p ∈ qs) : Within qs t u := by
  refine ⟨h.current, fun l => ?_⟩
  rcases h.find? l with he | ⟨h1, h2, p, hp, hl⟩ | ⟨h1, h2, p, hp, hl⟩
  · exact .inl he
  · exact .inr (.inl ⟨h1, h2, p, hq p hp, hl⟩)
  · exact .inr (.inr ⟨h1, h2, p, hq p hp, hl⟩)

lemma trans (h : Within ps t u) (h' : Within qs u v) : Within (ps ++ qs) t v := by
  refine ⟨h'.current.trans h.current, fun l => ?_⟩
  -- A directory that was made stays one; a file that was written may be written again.
  rcases h.find? l with hu | ⟨hn, hd, p, hp, hl⟩ | ⟨hn, ⟨c, hc⟩, p, hp, hl⟩
  · rcases h'.find? l with hv | ⟨hn', hv, q, hq, hl⟩ | ⟨hn', hv, q, hq, hl⟩
    · exact .inl (hv.trans hu)
    · refine .inr (.inl ⟨hu ▸ hn', hv, q, List.mem_append_right _ hq, ?_⟩)
      rwa [wayTo_congr h.current] at hl
    · refine .inr (.inr ⟨hu ▸ hn', hv, q, List.mem_append_right _ hq, ?_⟩)
      rwa [location_congr h.current] at hl
  · rcases h'.find? l with hv | ⟨hn', _⟩ | ⟨hn', _⟩
    · exact .inr (.inl ⟨hn, hv.trans hd, p, List.mem_append_left _ hp, hl⟩)
    · rw [hd] at hn'
      cases hn'
    · exact absurd hd hn'
  · rcases h'.find? l with hv | ⟨hn', _⟩ | ⟨_, hv, _⟩
    · exact .inr (.inr ⟨hn, ⟨c, hv.trans hc⟩, p, List.mem_append_left _ hp, hl⟩)
    · rw [hc] at hn'
      cases hn'
    · exact .inr (.inr ⟨hn, hv, p, List.mem_append_left _ hp, hl⟩)

lemma contentAt?_eq (h : Within ps t u) (hp : ∀ q ∈ ps, t.location q ≠ t.location p) :
    u.contentAt? p = t.contentAt? p := by
  rcases h.find? (t.location p) with hu | ⟨hn, hd, _⟩ | ⟨_, _, q, hq, hl⟩
  · exact contentAt?_congr h.current hu
  · rw [contentAt?, contentAt?, location_congr h.current, hn, hd]
  · exact absurd hl.symm (hp q hq)

lemma of_some (h : Within ps t u) {l : Location} {e : Entry} (he : t.find? l = some e) :
    u.find? l = some e ∨ ∃ c d, e = .file c ∧ u.find? l = some (.file d) := by
  rcases h.find? l with hu | ⟨hn, _⟩ | ⟨hn, ⟨d, hd⟩, _⟩
  · exact .inl (hu.trans he)
  · rw [he] at hn
    cases hn
  · cases e with
    | file c => exact .inr ⟨c, d, rfl, hd⟩
    | directory => exact absurd he hn

lemma walk (h : Within ps t u) {l : Location} {ns : List String}
    (hm : t.walk l ns ≠ .error .missing) : u.walk l ns = t.walk l ns := by
  refine walk_of_some (fun k _ e he => ?_) hm
  rcases h.of_some he with hu | ⟨c, d, rfl, hu⟩
  · exact ⟨e, hu, Iff.rfl⟩
  · exact ⟨.file d, hu, by simp⟩

lemma missing (h : Within ps t u) (hm : u.read p = .error .missing) :
    t.read p = .error .missing := by
  cases hf : pathFault? p with
  | some f =>
    rw [read_missing_iff, lookup_of_fault hf] at hm ⊢
    exact hm
  | none =>
    rw [read_missing_iff_walk hf] at hm ⊢
    by_contra ht
    rw [start_congr h.current, h.walk ht] at hm
    exact ht hm

lemma finds (h : Within ps t u) (hp : ∀ q ∈ ps, t.location q ≠ t.location p) (hf : t.Finds p) :
    u.Finds p := by
  intro hm
  rw [h.contentAt?_eq hp]
  exact hf (h.missing hm)

end Within

end FileTree

namespace Tells

variable {status : Status}

lemma iff (h : Tells t u p status) (hf : t.Finds p) :
    status = .written ↔ u.contentAt? p ≠ t.contentAt? p :=
  ⟨fun hw => h.changed hw hf, h.of_changed⟩

lemma later (h : Tells t u p status) (hc : v.contentAt? p = u.contentAt? p) :
    Tells t v p status := by
  constructor
  · rw [hc]
    exact h.of_changed
  · rw [hc]
    exact h.changed

lemma sooner (h : Tells u v p status) (hc : u.contentAt? p = t.contentAt? p)
    (hf : t.Finds p → u.Finds p) : Tells t v p status := by
  constructor
  · rw [← hc]
    exact h.of_changed
  · rw [← hc]
    exact fun hw ht => h.changed hw (hf ht)

end Tells

namespace Effect

lemma within (h : Effect p t r) : Within [p] t r.1 := by
  cases h with
  | kept _ => exact Within.refl [p] t
  | failed h =>
    exact ⟨h.current, fun l => (h.find? l).imp_right fun ⟨h1, h2, h3⟩ =>
      .inl ⟨h1, h2, p, List.mem_singleton.mpr rfl, h3⟩⟩
  | @written u c h hp hf _ =>
    obtain ⟨ns, n, hp⟩ := hp
    refine ⟨h.current, fun l => ?_⟩
    rw [find?_put u (location_ne_nil hp t)]
    split
    next hl => exact .inr (.inr ⟨hl ▸ hf, ⟨c, rfl⟩, p, List.mem_singleton.mpr rfl, hl⟩)
    · exact (h.find? l).imp_right fun ⟨h1, h2, h3⟩ =>
        .inl ⟨h1, h2, p, List.mem_singleton.mpr rfl, h3⟩

lemma tree_of_quiet (h : Effect p t r) (hq : r.2.isQuiet = true) : r.1 = t := by
  cases h with
  | kept _ => rfl
  | failed _ => cases hq
  | written _ _ _ _ => cases hq

lemma tells (h : Effect p t r) : Tells t r.1 p r.2 := by
  cases h with
  | kept hs => exact ⟨fun hc => absurd rfl hc, fun hw => absurd hw hs⟩
  | @failed u message h =>
    have hc : u.contentAt? p = t.contentAt? p := by
      rcases h.find? (t.location p) with hu | ⟨hn, hd, _⟩
      · exact contentAt?_congr h.current hu
      · rw [contentAt?, contentAt?, location_congr h.current, hn, hd]
    exact ⟨fun hne => absurd hc hne, fun hw => nomatch hw⟩
  | @written u c h hp _ hr =>
    obtain ⟨ns, n, hp⟩ := hp
    have hput : (u.put (t.location p) (.file c)).contentAt? p = some c := by
      have hl : (u.put (t.location p) (.file c)).location p = t.location p :=
        location_congr h.current p
      rw [contentAt?, hl, find?_put_self u _ (location_ne_nil hp t)]
    refine ⟨fun _ => rfl, fun _ hf he => ?_⟩
    rw [hput] at he
    rcases hr with hm | ⟨old, ho, hne⟩
    · rw [hf hm] at he
      cases he
    · rw [contentAt?_of_read ho] at he
      exact hne (Option.some.inj he).symm

end Effect

section Stages

variable {text : String}

lemma effect_writeIn (h : Opened p t u) (hr : t.read p = .error .missing ∨
    ∃ old, t.read p = .ok old ∧ old ≠ text.toUTF8) :
    Effect p t ((writeIfChanged.writeIn p text u).1,
      .ofResult (writeIfChanged.writeIn p text u).2) := by
  rcases writeIn_cases u p text with ⟨v, hw, he⟩ | ⟨f, _, he⟩
  · obtain ⟨ns, n, hp, _, _, hd, rfl⟩ := write_ok hw
    rw [he, location_congr h.current]
    refine .written h ⟨ns, n, hp⟩ (fun hn => hd ?_) hr
    rw [location_congr h.current]
    rcases h.find? (t.location p) with hu | ⟨ht, _⟩
    · exact hu.trans hn
    · rw [hn] at ht
      cases ht
  · rw [he]
    exact .failed h

lemma effect_writeStage (t : FileTree) (p text : String) : Effect p t (writeStage p text t) := by
  unfold writeStage
  rcases writeIfChanged_cases t p text with ⟨_, he⟩ | ⟨_, _, _, he⟩ | h
  · rw [he]
    exact .kept (by simp [Status.ofResult])
  · rw [he]
    exact .kept (by simp [Status.ofResult])
  · obtain ⟨u, hu, he⟩ := writeIfChanged_course h
    have ho : Opened p t u := by
      rcases hu with rfl | ⟨q, hq, hs, rfl⟩
      · exact Opened.refl p u
      · exact (makeDirectories_spec hq.trimmed hs t).1.opened hq
    rcases he with ⟨f, he⟩ | he
    · rw [he]
      exact .failed ho
    · rw [he]
      exact effect_writeIn ho h

lemma effect_updateFile (t : FileTree) (p : String)
    (update : Option String → Except Fault (Option String)) :
    Effect p t (updateFile t p update) := by
  rcases updateFile_cases t p update with ⟨_, text, _, _, he⟩ | ⟨_, h1, h2⟩
  · rw [he]
    exact effect_writeStage t p text
  · have he : updateFile t p update = (t, (updateFile t p update).2) := Prod.ext h1 rfl
    rw [he]
    exact .kept h2

end Stages

section Run

variable {stages : List (String × Stage)}

lemma within_run (h : ∀ s ∈ stages, ∀ w, Effect s.1 w (s.2 w)) (t : FileTree) :
    Within (stages.map Prod.fst) t (runStages stages t).1 := by
  induction stages generalizing t with
  | nil => exact Within.refl [] t
  | cons s stages ih =>
    exact (h s List.mem_cons_self t).within.trans
      (ih (fun r hr => h r (List.mem_cons_of_mem _ hr)) (s.2 t).1)

lemma map_path_run (stages : List (String × Stage)) (t : FileTree) :
    (runStages stages t).2.map (·.path) = stages.map Prod.fst := by
  induction stages generalizing t with
  | nil => rfl
  | cons s stages ih => simp only [runStages, List.map_cons, ih]

lemma tree_of_quiet_run (h : ∀ s ∈ stages, ∀ w, Effect s.1 w (s.2 w))
    (hq : ∀ r ∈ (runStages stages t).2, r.status.isQuiet = true) : (runStages stages t).1 = t := by
  induction stages generalizing t with
  | nil => rfl
  | cons s stages ih =>
    have hs : (s.2 t).1 = t :=
      (h s List.mem_cons_self t).tree_of_quiet (hq ⟨s.1, (s.2 t).2⟩ List.mem_cons_self)
    simp only [runStages, hs] at hq ⊢
    exact ih (fun r hr => h r (List.mem_cons_of_mem _ hr)) fun r hr =>
      hq r (List.mem_cons_of_mem _ hr)

lemma tells_run (h : ∀ s ∈ stages, ∀ w, Effect s.1 w (s.2 w))
    (hl : (stages.map fun s => t.location s.1).Nodup) :
    ∀ r ∈ (runStages stages t).2, Tells t (runStages stages t).1 r.path r.status := by
  induction stages generalizing t with
  | nil => simp [runStages]
  | cons s stages ih =>
    rw [List.map_cons, List.nodup_cons] at hl
    have he := h s List.mem_cons_self t
    have hc := he.within.current
    have hrest : ∀ r ∈ stages, ∀ w, Effect r.1 w (r.2 w) :=
      fun r hr => h r (List.mem_cons_of_mem _ hr)
    have hne : ∀ r ∈ stages, t.location s.1 ≠ t.location r.1 := fun r hr hsr =>
      hl.1 (hsr ▸ List.mem_map_of_mem hr)
    have hw := within_run hrest (s.2 t).1
    intro r hr
    -- Other stages have files of their own: what is said of a file is true before them and after.
    rcases List.mem_cons.mp hr with rfl | hr
    · have hlast : (runStages stages (s.2 t).1).1.contentAt? s.1 = (s.2 t).1.contentAt? s.1 := by
        refine hw.contentAt?_eq fun q hq => ?_
        obtain ⟨r, hr, rfl⟩ := List.mem_map.mp hq
        rw [location_congr hc, location_congr hc]
        exact (hne r hr).symm
      exact he.tells.later hlast
    · have hpath : r.path ∈ stages.map Prod.fst := by
        rw [← map_path_run stages (s.2 t).1]
        exact List.mem_map_of_mem hr
      obtain ⟨a, ha, hap⟩ := List.mem_map.mp hpath
      have hfirst : ∀ q ∈ [s.1], t.location q ≠ t.location r.path := fun q hq => by
        obtain rfl := List.mem_singleton.mp hq
        exact hap ▸ hne a ha
      refine (ih hrest ?_ r hr).sooner (he.within.contentAt?_eq hfirst) (he.within.finds hfirst)
      simp only [location_congr hc]
      exact hl.2

lemma written_iff_run (h : ∀ s ∈ stages, ∀ w, Effect s.1 w (s.2 w))
    (hl : (stages.map fun s => t.location s.1).Nodup) (hf : ∀ s ∈ stages, t.Finds s.1) :
    ∀ r ∈ (runStages stages t).2, r.status = .written ↔
      (runStages stages t).1.contentAt? r.path ≠ t.contentAt? r.path := by
  intro r hr
  have hpath : r.path ∈ stages.map Prod.fst := by
    rw [← map_path_run stages t]
    exact List.mem_map_of_mem hr
  obtain ⟨s, hs, hsp⟩ := List.mem_map.mp hpath
  exact (tells_run h hl r hr).iff (hsp ▸ hf s hs)

end Run

end LayoutSync
