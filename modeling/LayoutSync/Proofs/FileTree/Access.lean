import LayoutSync.Proofs.FileTree.Walk

namespace LayoutSync.FileTree

section Access

variable {t u : FileTree} {p n : String} {ns : List String} {f : AccessFault} {c : ByteArray}

lemma target?_of_fault (h : pathFault? p = some f) (t : FileTree) : t.target? p = .error f := by
  rw [target?_eq, h]

lemma lookup_of_fault (h : pathFault? p = some f) (t : FileTree) : t.lookup p = .error f := by
  rw [lookup, target?_of_fault h]
  rfl

lemma write_of_fault (h : pathFault? p = some f) (t : FileTree) (c : ByteArray) :
    t.write p c = .error f := by
  rw [write, target?_of_fault h]
  rfl

namespace FilePath

variable (h : FilePath p ns n)

include h

lemma lookup (t : FileTree) :
    t.lookup p = (do
      let d ← t.walk (t.start p) ns
      checkName n
      match t.find? (d ++ [n]) with
      | none => .error .missing
      | some e => return (d ++ [n], e)) := by
  rw [FileTree.lookup, h.target]
  cases t.walk (t.start p) ns with
  | error f => rfl
  | ok d =>
    have hb : ¬ (leadsElsewhere n || false) = true := by simp [h.plain]
    exact if_neg hb

lemma write (t : FileTree) (c : ByteArray) :
    t.write p c = (do
      let d ← t.walk (t.start p) ns
      checkName n
      match t.find? (d ++ [n]) with
      | some .directory => .error .isDirectory
      | _ => return t.put (d ++ [n]) (.file c)) := by
  rw [FileTree.write, h.target]
  cases t.walk (t.start p) ns with
  | error f => rfl
  | ok d =>
    have hb : ¬ leadsElsewhere n = true := by simp [h.plain]
    exact if_neg hb

lemma location_eq (t : FileTree) : t.location p = ns.foldl descend (t.start p) ++ [n] := by
  rw [location, h.steps, List.foldl_concat, descend_plain h.plain]

lemma wayTo_eq (t : FileTree) : t.wayTo p = trail (t.start p) ns := by
  rw [wayTo, h.steps, List.dropLast_concat]

lemma location_mem_trailOf (t : FileTree) : t.location p ∈ t.trailOf p :=
  (mem_trailOf_iff (by simp [h.steps])).mpr (.inr rfl)

lemma lookup_eq_ok_iff {l : Location} {e : Entry} : t.lookup p = .ok (l, e) ↔
    t.walk (t.start p) ns = .ok (ns.foldl descend (t.start p)) ∧ checkName n = .ok () ∧
      l = t.location p ∧ t.find? (t.location p) = some e := by
  rw [h.lookup, h.location_eq, bind_eq_ok]
  constructor
  · rintro ⟨d, hw, hl⟩
    obtain rfl := eq_of_walk hw
    obtain ⟨_, hc, hl⟩ := bind_eq_ok.mp hl
    split at hl
    · cases hl
    next he =>
      obtain ⟨rfl, rfl⟩ := Prod.mk.inj (Except.ok.inj hl)
      exact ⟨hw, hc, rfl, he⟩
  · rintro ⟨hw, hc, rfl, he⟩
    exact ⟨_, hw, by rw [hc, ok_bind, he]; rfl⟩

lemma write_eq_ok_iff : t.write p c = .ok u ↔
    t.walk (t.start p) ns = .ok (ns.foldl descend (t.start p)) ∧ checkName n = .ok () ∧
      t.find? (t.location p) ≠ some .directory ∧ u = t.put (t.location p) (.file c) := by
  rw [h.write, h.location_eq, bind_eq_ok]
  constructor
  · rintro ⟨d, hw, hl⟩
    obtain rfl := eq_of_walk hw
    obtain ⟨_, hc, hl⟩ := bind_eq_ok.mp hl
    split at hl
    · cases hl
    next hn => exact ⟨hw, hc, hn, (Except.ok.inj hl).symm⟩
  · rintro ⟨hw, hc, hn, rfl⟩
    refine ⟨_, hw, ?_⟩
    rw [hc, ok_bind]
    split
    next hd => exact absurd hd hn
    · rfl

end FilePath

lemma file_of_lookup {l : Location} (h : t.lookup p = .ok (l, .file c)) :
    (∃ ns n, FilePath p ns n) ∧ l = t.location p ∧ t.find? l = some (.file c) := by
  rcases shape_cases p with ⟨f, hf⟩ | hd | ⟨ns, n, hp⟩
  · rw [lookup_of_fault hf] at h
    cases h
  · rw [hd.lookup] at h
    obtain ⟨d, _, hl⟩ := bind_eq_ok.mp h
    cases hl
  · obtain ⟨_, _, rfl, he⟩ := hp.lookup_eq_ok_iff.mp h
    exact ⟨⟨ns, n, hp⟩, rfl, he⟩

lemma lookup_directory_iff (hf : pathFault? p = none) {l : Location} :
    t.lookup p = .ok (l, .directory) ↔ t.walk (t.start p) (stepsOf p) = .ok l := by
  rcases shape_cases p with ⟨f, hf'⟩ | hd | ⟨ns, n, hp⟩
  · rw [hf] at hf'
    cases hf'
  · simp [hd.lookup, bind_eq_ok, pure_eq_ok]
  · rw [hp.lookup_eq_ok_iff, hp.location_eq, hp.steps, walk_concat, bind_eq_ok]
    constructor
    · rintro ⟨hw, hc, rfl, he⟩
      exact ⟨_, hw, enter_eq_ok_iff.mpr ⟨(descend_plain hp.plain).symm, .inr ⟨hc, he⟩⟩⟩
    · rintro ⟨d, hw, he⟩
      obtain rfl := eq_of_walk hw
      obtain ⟨rfl, hl | ⟨hc, he⟩⟩ := enter_eq_ok_iff.mp he
      · rw [hp.plain] at hl
        cases hl
      · exact ⟨hw, hc, descend_plain hp.plain, he⟩

lemma isDirectory_iff_lookup :
    t.isDirectory p = true ↔ ∃ l, t.lookup p = .ok (l, .directory) := by
  unfold isDirectory
  constructor
  · intro h
    split at h
    next l hl => exact ⟨l, hl⟩
    next => cases h
  · rintro ⟨l, hl⟩
    rw [hl]

lemma isDirectory_iff (hf : pathFault? p = none) (t : FileTree) :
    t.isDirectory p = true ↔ ∃ l, t.walk (t.start p) (stepsOf p) = .ok l :=
  isDirectory_iff_lookup.trans (exists_congr fun _ => lookup_directory_iff hf)

lemma read_ok_iff : t.read p = .ok c ↔ ∃ l, t.lookup p = .ok (l, .file c) := by
  unfold read
  cases h : t.lookup p with
  | error f => simp
  | ok r =>
    obtain ⟨l, e⟩ := r
    cases e <;> simp [pure_eq_ok]

lemma Keeps.walk_way (h : Keeps (t.trailOf p) t u) (hp : FilePath p ns n)
    (hm : t.walk (t.start p) ns ≠ .error .missing) :
    u.walk (u.start p) ns = t.walk (t.start p) ns := by
  rw [h.start, Keeps.walk (h.mono fun l hl => ?_) hm]
  exact mem_trailOf_of_mem_wayTo (hp.wayTo_eq t ▸ hl)

lemma filePath_of_read (h : t.read p = .ok c) : ∃ ns n, FilePath p ns n := by
  obtain ⟨l, hl⟩ := read_ok_iff.mp h
  exact (file_of_lookup hl).1

lemma FilePath.read_eq_ok_iff (h : FilePath p ns n) : t.read p = .ok c ↔
    t.walk (t.start p) ns = .ok (ns.foldl descend (t.start p)) ∧ checkName n = .ok () ∧
      t.find? (t.location p) = some (.file c) := by
  simp only [read_ok_iff, h.lookup_eq_ok_iff, exists_and_left, exists_eq_left]

lemma Keeps.lookup (h : Keeps (t.trailOf p) t u) (hm : t.lookup p ≠ .error .missing) :
    u.lookup p = t.lookup p := by
  rcases shape_cases p with ⟨f, hf⟩ | hd | ⟨ns, n, hp⟩
  · rw [lookup_of_fault hf, lookup_of_fault hf]
  · rw [hd.lookup] at hm
    have hw : t.walk (t.start p) (stepsOf p) ≠ .error .missing := by
      intro hw
      rw [hw] at hm
      exact hm rfl
    rw [hd.lookup, hd.lookup, h.start, h.walk hw]
  · rw [hp.lookup] at hm
    have hw : t.walk (t.start p) ns ≠ .error .missing := by
      intro hw
      rw [hw] at hm
      exact hm rfl
    rw [hp.lookup, hp.lookup, h.walk_way hp hw]
    cases hd : t.walk (t.start p) ns with
    | error f => rfl
    | ok d =>
      obtain rfl := eq_of_walk hd
      rw [hd, ok_bind, ← hp.location_eq] at hm
      rw [ok_bind, ok_bind, ← hp.location_eq]
      cases hc : checkName n with
      | error f => rfl
      | ok _ =>
        cases hf : t.find? (t.location p) with
        | none => simp [hc, hf] at hm
        | some e => rw [h.of_some (hp.location_mem_trailOf t) hf]

lemma read_missing_iff : t.read p = .error .missing ↔ t.lookup p = .error .missing := by
  unfold read
  cases t.lookup p with
  | error f => simp
  | ok r =>
    obtain ⟨l, e⟩ := r
    cases e <;> simp [pure_eq_ok]

lemma read_missing_iff_walk (hf : pathFault? p = none) :
    t.read p = .error .missing ↔ t.walk (t.start p) (stepsOf p) = .error .missing := by
  rw [read_missing_iff]
  rcases shape_cases p with ⟨f, hf'⟩ | hd | ⟨ns, n, hp⟩
  · rw [hf] at hf'
    cases hf'
  · rw [hd.lookup]
    cases t.walk (t.start p) (stepsOf p) with
    | error f => simp
    | ok d => simp [pure_eq_ok]
  · rw [hp.lookup, hp.steps, walk_concat]
    cases t.walk (t.start p) ns with
    | error f => simp
    | ok d =>
      rw [ok_bind, ok_bind, enter_missing_iff]
      cases hc : checkName n with
      | error f => simpa using checkName_ne_missing hc
      | ok _ => cases t.find? (d ++ [n]) <;> simp [hp.plain, pure_eq_ok]

lemma Keeps.read (h : Keeps (t.trailOf p) t u) (hm : t.read p ≠ .error .missing) :
    u.read p = t.read p := by
  unfold FileTree.read
  rw [h.lookup (mt read_missing_iff.mpr hm)]

lemma DirectoryPath.read (h : DirectoryPath p) (t : FileTree) : ∃ f, t.read p = .error f := by
  unfold FileTree.read
  rw [h.lookup]
  cases t.walk (t.start p) (stepsOf p) with
  | error f => exact ⟨f, rfl⟩
  | ok d => exact ⟨_, rfl⟩

lemma find?_put (t : FileTree) {l : Location} (hl : l ≠ []) (e : Entry) (m : Location) :
    (t.put l e).find? m = if m = l then some e else t.find? m := by
  split
  next h => rw [h, find?_put_self t e hl]
  next h => exact find?_put_of_ne t e h

lemma write_ok (h : t.write p c = .ok u) :
    ∃ ns n, FilePath p ns n ∧ t.walk (t.start p) ns = .ok (ns.foldl descend (t.start p)) ∧
      checkName n = .ok () ∧ t.find? (t.location p) ≠ some .directory ∧
      u = t.put (t.location p) (.file c) := by
  rcases shape_cases p with ⟨f, hf⟩ | hd | ⟨ns, n, hp⟩
  · rw [write_of_fault hf] at h
    cases h
  · obtain ⟨f, hf⟩ := hd.write t c
    rw [hf] at h
    cases h
  · exact ⟨ns, n, hp, hp.write_eq_ok_iff.mp h⟩

lemma location_ne_nil (h : FilePath p ns n) (t : FileTree) :
    t.location p ≠ [] := by
  rw [h.location_eq]
  simp

lemma read_of_write (h : t.write p c = .ok u) : u.read p = .ok c := by
  obtain ⟨ns, n, hp, hw, hc, hd, rfl⟩ := write_ok h
  have hl := location_ne_nil hp t
  have hm : ∀ k, t.find? k = some .directory →
      (t.put (t.location p) (.file c)).find? k = some .directory := by
    intro k hk
    rw [find?_put t hl, if_neg, hk]
    rintro rfl
    exact hd hk
  exact hp.read_eq_ok_iff.mpr ⟨walk_mono hm hw, hc, find?_put_self t (.file c) hl⟩

lemma write_of_read (h : t.read p = .ok c) (d : ByteArray) :
    t.write p d = .ok (t.put (t.location p) (.file d)) := by
  obtain ⟨ns, n, hp⟩ := filePath_of_read h
  obtain ⟨hw, hc, hf⟩ := hp.read_eq_ok_iff.mp h
  exact hp.write_eq_ok_iff.mpr ⟨hw, hc, by simp [hf], rfl⟩

end Access

section Overwritten

variable {t : FileTree} {k l : Location} {n q : String} {ns : List String} {c d : ByteArray}

lemma enter_put (h : t.find? k = some (.file c)) :
    (t.put k (.file d)).enter l n = t.enter l n := by
  have hk : k ≠ [] := by
    rintro rfl
    cases h
  unfold enter
  rw [find?_put t hk]
  split
  · rfl
  · split
    · rfl
    · by_cases hl : l ++ [n] = k
      · rw [if_pos hl, hl, h]
      · rw [if_neg hl]

lemma walk_put (h : t.find? k = some (.file c)) :
    (t.put k (.file d)).walk l ns = t.walk l ns := by
  induction ns generalizing l with
  | nil => rfl
  | cons n ns ih =>
    rw [walk_cons, walk_cons, enter_put h]
    exact congrArg _ (funext fun m => ih)

lemma lookup_put (h : t.find? k = some (.file c))
    (hq : ∀ ns n, FilePath q ns n → t.location q ≠ k) :
    (t.put k (.file d)).lookup q = t.lookup q := by
  have hs : (t.put k (.file d)).start q = t.start q := rfl
  rcases shape_cases q with ⟨f, hf⟩ | hd | ⟨ns, n, hp⟩
  · rw [lookup_of_fault hf, lookup_of_fault hf]
  · rw [hd.lookup, hd.lookup, hs, walk_put h]
  · have hl := hq ns n hp
    rw [hp.location_eq] at hl
    rw [hp.lookup, hp.lookup, hs, walk_put h]
    cases hw : t.walk (t.start q) ns with
    | error f => rfl
    | ok d =>
      obtain rfl := eq_of_walk hw
      simp only [ok_bind, find?_put_of_ne t _ hl]

end Overwritten

end LayoutSync.FileTree
