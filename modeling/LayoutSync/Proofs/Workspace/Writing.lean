import LayoutSync.Proofs.FileTree.Making
import LayoutSync.Workspace.Generator

/-!
Writing a file that is not up to date. It touches the file's own trail only; afterwards the file
holds the text, or writing it fails for good, as long as its trail is kept.
-/

namespace LayoutSync

open FileTree

/-- The only changes are those that writing one file may make. -/
structure FileTree.Touched (p : String) (t u : FileTree) : Prop where
  current : u.current = t.current
  find? : ∀ l, u.find? l = t.find? l ∨
    (t.find? l = none ∧ u.find? l = some .directory ∧ l ∈ t.trailOf p) ∨
    (l = t.location p ∧ (∃ ns n, FilePath p ns n) ∧ t.find? l ≠ some .directory ∧
      ∃ c, u.find? l = some (.file c))

variable {t u v : FileTree} {p text : String}

namespace FileTree

lemma Touched.refl (p : String) (t : FileTree) : Touched p t t := ⟨rfl, fun _ => .inl rfl⟩

lemma Made.touched (h : Made p t u) : Touched p t u :=
  ⟨h.current, fun l => (h.find? l).imp_right .inl⟩

lemma Made.touched_write {q : String} (h : Made q t u) (hq : ∀ l ∈ t.trailOf q, l ∈ t.trailOf p)
    {c : ByteArray} (hw : u.write p c = .ok v) : Touched p t v := by
  obtain ⟨ns, n, hp, _, _, hd, rfl⟩ := write_ok hw
  refine ⟨h.current, fun l => ?_⟩
  rw [find?_put u (location_ne_nil hp u), location_congr h.current]
  rw [location_congr h.current] at hd
  split
  next he =>
    subst he
    refine .inr (.inr ⟨rfl, ⟨ns, n, hp⟩, fun hn => hd ?_, c, rfl⟩)
    rcases h.find? (t.location p) with he | ⟨he, _⟩
    · exact he.trans hn
    · exact absurd (he.symm.trans hn) (by simp)
  · exact (h.find? l).imp_right fun ⟨h1, h2, h3⟩ => .inl ⟨h1, h2, hq l h3⟩

lemma Touched.keeps {ls : List Location} (h : Touched p t u) (hl : t.location p ∉ ls) :
    Keeps ls t u := by
  refine ⟨h.current, fun l hm => ?_⟩
  rcases h.find? l with he | ⟨h1, h2, _⟩ | ⟨he, _⟩
  · exact .inl he
  · exact .inr ⟨h1, h2⟩
  · exact absurd (he ▸ hm) hl

end FileTree

lemma writeIfChanged_eq (h : t.read p = .error .missing ∨
    ∃ c, t.read p = .ok c ∧ c ≠ text.toUTF8) :
    writeIfChanged t p text =
      match Path.parent? p with
      | none => writeIfChanged.writeIn p text t
      | some q =>
        match t.makeDirectories q with
        | (u, .error f) => (u, .error (.access q f))
        | (u, .ok ()) => writeIfChanged.writeIn p text u := by
  unfold writeIfChanged
  rcases h with h | ⟨c, h, hc⟩
  · rw [h]
    rfl
  · rw [h]
    dsimp only
    rw [if_neg hc]
    rfl

lemma writeIn_cases (t : FileTree) (p text : String) :
    (∃ u, t.write p text.toUTF8 = .ok u ∧ writeIfChanged.writeIn p text t = (u, .ok true)) ∨
      ∃ f, t.write p text.toUTF8 = .error f ∧
        writeIfChanged.writeIn p text t = (t, .error (.access p f)) := by
  unfold writeIfChanged.writeIn
  cases h : t.write p text.toUTF8 with
  | ok u => exact .inl ⟨u, rfl, rfl⟩
  | error f => exact .inr ⟨f, rfl, rfl⟩

lemma writeIfChanged_of_error {f : AccessFault} (h : t.read p = .error f) (hf : f ≠ .missing)
    (text : String) : writeIfChanged t p text = (t, .error (.access p f)) := by
  unfold writeIfChanged
  rw [h]
  cases f with
  | missing => exact absurd rfl hf
  | _ => rfl

lemma writeIfChanged_cases (t : FileTree) (p text : String) :
    (t.read p = .ok text.toUTF8 ∧ writeIfChanged t p text = (t, .ok false)) ∨
      (∃ f, t.read p = .error f ∧ f ≠ .missing ∧
        writeIfChanged t p text = (t, .error (.access p f))) ∨
      (t.read p = .error .missing ∨ ∃ c, t.read p = .ok c ∧ c ≠ text.toUTF8) := by
  cases h : t.read p with
  | error f =>
    by_cases hf : f = .missing
    · subst hf
      exact .inr (.inr (.inl rfl))
    · exact .inr (.inl ⟨f, rfl, hf, writeIfChanged_of_error h hf text⟩)
  | ok c =>
    by_cases hc : c = text.toUTF8
    · refine .inl ⟨by rw [hc], ?_⟩
      unfold writeIfChanged
      rw [h]
      exact if_pos hc
    · exact .inr (.inr (.inr ⟨c, rfl, hc⟩))

lemma sound_of_read (h : t.read p = .error .missing ∨ ∃ c, t.read p = .ok c) :
    p = "" ∨ pathFault? p = none := by
  cases hf : pathFault? p with
  | none => exact .inr rfl
  | some f =>
    left
    have hr : t.read p = .error f := by
      unfold FileTree.read
      rw [lookup_of_fault hf]
      rfl
    rw [hr] at h
    rcases h with h | ⟨c, h⟩
    · obtain rfl := Except.error.inj h
      unfold pathFault? at hf
      split at hf
      · cases hf
      · split at hf
        next he => simpa using he
        · split at hf <;> cases hf
    · cases h

lemma writeIfChanged_course (h : t.read p = .error .missing ∨
    ∃ c, t.read p = .ok c ∧ c ≠ text.toUTF8) :
    ∃ u, (u = t ∨ ∃ q, Path.IsParent q p ∧ Sound q ∧ u = (t.makeDirectories q).1) ∧
      ((∃ f, writeIfChanged t p text = (u, .error f)) ∨
        writeIfChanged t p text = writeIfChanged.writeIn p text u) := by
  rw [writeIfChanged_eq h]
  cases hq : Path.parent? p with
  | none => exact ⟨t, .inl rfl, .inr rfl⟩
  | some q =>
    have hpar := Path.isParent_of_parent? hq
    have hs : Sound p := by
      rcases sound_of_read (h.imp_right (Exists.imp fun _ => And.left)) with rfl | hf
      · cases hq
      · exact sound_of_pathFault? hf
    refine ⟨_, .inr ⟨q, hpar, hs.parent hpar, rfl⟩, ?_⟩
    dsimp only
    obtain ⟨u, r⟩ := t.makeDirectories q
    cases r with
    | error f => exact .inl ⟨_, rfl⟩
    | ok _ => exact .inr rfl

lemma touched_writeIn {q : String} (h : Made q t u) (hq : ∀ l ∈ t.trailOf q, l ∈ t.trailOf p) :
    Touched p t (writeIfChanged.writeIn p text u).1 := by
  rcases writeIn_cases u p text with ⟨v, hw, he⟩ | ⟨f, _, he⟩
  · rw [he]
    exact h.touched_write hq hw
  · rw [he]
    exact (h.mono hq).touched

lemma touched_writeIfChanged (t : FileTree) (p text : String) :
    Touched p t (writeIfChanged t p text).1 := by
  rcases writeIfChanged_cases t p text with ⟨_, he⟩ | ⟨_, _, _, he⟩ | h
  · rw [he]
    exact Touched.refl p t
  · rw [he]
    exact Touched.refl p t
  · obtain ⟨u, hu, he⟩ := writeIfChanged_course h
    obtain ⟨q, hm, hq⟩ : ∃ q, Made q t u ∧ ∀ l ∈ t.trailOf q, l ∈ t.trailOf p := by
      rcases hu with rfl | ⟨q, hq, hs, rfl⟩
      · exact ⟨p, Made.refl p u, fun _ hl => hl⟩
      · exact ⟨q, (makeDirectories_spec hq.trimmed hs t).1, trailOf_parent hq t⟩
    rcases he with ⟨f, he⟩ | he
    · rw [he]
      exact (hm.mono hq).touched
    · rw [he]
      exact touched_writeIn hm hq

lemma read_of_writeIn {b : Bool} (h : writeIfChanged.writeIn p text t = (u, .ok b)) :
    u.read p = .ok text.toUTF8 := by
  rcases writeIn_cases t p text with ⟨v, hw, he⟩ | ⟨f, _, he⟩
  · rw [he] at h
    obtain rfl := (Prod.mk.inj h).1
    exact read_of_write hw
  · rw [he] at h
    cases (Prod.mk.inj h).2

lemma read_of_writeIfChanged {b : Bool} (h : writeIfChanged t p text = (u, .ok b)) :
    u.read p = .ok text.toUTF8 := by
  rcases writeIfChanged_cases t p text with ⟨hr, he⟩ | ⟨_, _, _, he⟩ | hc
  · rw [he] at h
    rw [← (Prod.mk.inj h).1]
    exact hr
  · rw [he] at h
    cases (Prod.mk.inj h).2
  · rw [writeIfChanged_eq hc] at h
    split at h
    · exact read_of_writeIn h
    · split at h
      · cases (Prod.mk.inj h).2
      · exact read_of_writeIn h

lemma writeIfChanged_of_read (h : t.read p = .ok text.toUTF8) :
    writeIfChanged t p text = (t, .ok false) := by
  unfold writeIfChanged
  rw [h]
  exact if_pos rfl

lemma writeIn_of_read {c : ByteArray} (h : t.read p = .ok c) (text : String) :
    writeIfChanged.writeIn p text t = (t.put (t.location p) (.file text.toUTF8), .ok true) := by
  unfold writeIfChanged.writeIn
  rw [write_of_read h]

lemma writeIfChanged_of_other {c : ByteArray} (h : t.read p = .ok c) (hc : c ≠ text.toUTF8) :
    writeIfChanged t p text = (t.put (t.location p) (.file text.toUTF8), .ok true) := by
  rw [writeIfChanged_eq (.inr ⟨c, h, hc⟩)]
  cases hq : Path.parent? p with
  | none => exact writeIn_of_read h text
  | some q =>
    have hpar := Path.isParent_of_parent? hq
    obtain ⟨ns, n, hp⟩ := filePath_of_read h
    have hw : t.walk (t.start q) (stepsOf q) = .ok (ns.foldl descend (t.start p)) := by
      rw [stepsOf_parent hpar, hp.steps, List.dropLast_concat, start_parent hpar]
      exact (hp.read_eq_ok_iff.mp h).1
    have hm := makeDirectories_of_walk hpar.trimmed ((sound_of_pathFault? hp.fault).parent hpar) hw
    dsimp only
    rw [hm]
    exact writeIn_of_read h text

lemma writeIfChanged_of_ok {c : ByteArray} (h : t.read p = .ok c) (text : String) :
    ∃ u b, writeIfChanged t p text = (u, .ok b) ∧
      (u = t ∨ u = t.put (t.location p) (.file text.toUTF8)) := by
  by_cases hc : c = text.toUTF8
  · subst hc
    exact ⟨t, false, writeIfChanged_of_read h, .inl rfl⟩
  · exact ⟨_, true, writeIfChanged_of_other h hc, .inr rfl⟩

lemma parent?_of_missing (hm : t.read p = .error .missing) (hf : pathFault? p = none) :
    ∃ q, Path.parent? p = some q := by
  rw [← Option.ne_none_iff_exists']
  intro hq
  have hs : stepsOf p = [] := by
    rw [stepsOf, (Path.steps_of_parent?_none hq).1]
    rfl
  unfold FileTree.read at hm
  rcases shape_cases p with ⟨g, hg⟩ | hd | ⟨ns, n, hp⟩
  · rw [hf] at hg
    cases hg
  · rw [hd.lookup, hs] at hm
    cases hm
  · have := hp.steps
    rw [hs] at this
    simp at this

end LayoutSync
