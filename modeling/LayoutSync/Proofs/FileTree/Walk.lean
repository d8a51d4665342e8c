import LayoutSync.Fallible
import LayoutSync.FileTree.Access
import LayoutSync.Proofs.Path.Steps

/-!
What is at a path is found by a walk over the names that lead somewhere. A walk that does not miss
anything goes the same way in every tree that keeps what it passes.
-/

namespace LayoutSync.FileTree

open Text

def stepsOf (p : String) : List String := (Path.steps p.toList).map String.ofList

def start (t : FileTree) (p : String) : Location := if Path.isAbsolute p then [] else t.current

def walk (t : FileTree) (l : Location) (ns : List String) : Except AccessFault Location :=
  ns.foldlM t.enter l

def descend (l : Location) (n : String) : Location :=
  if n = "." then l else if n = ".." then l.dropLast else l ++ [n]

def trail : Location → List String → List Location
  | _, [] => []
  | l, n :: ns => descend l n :: trail (descend l n) ns

lemma trail_append (l : Location) (ms ns : List String) :
    trail l (ms ++ ns) = trail l ms ++ trail (ms.foldl descend l) ns := by
  induction ms generalizing l with
  | nil => rfl
  | cons m ms ih => rw [List.cons_append, trail, trail, ih, List.cons_append, List.foldl_cons]

/-- Where a path leads, whatever is there. -/
def location (t : FileTree) (p : String) : Location := (stepsOf p).foldl descend (t.start p)

def trailOf (t : FileTree) (p : String) : List Location := trail (t.start p) (stepsOf p)

def wayTo (t : FileTree) (p : String) : List Location := trail (t.start p) (stepsOf p).dropLast

section Way

variable {t u : FileTree} {l : Location} {p : String}

lemma start_congr (h : u.current = t.current) (p : String) : u.start p = t.start p := by
  unfold start
  rw [h]

lemma location_congr (h : u.current = t.current) (p : String) : u.location p = t.location p := by
  rw [location, location, start_congr h]

lemma trailOf_congr (h : u.current = t.current) (p : String) : u.trailOf p = t.trailOf p := by
  rw [trailOf, trailOf, start_congr h]

lemma wayTo_congr (h : u.current = t.current) (p : String) : u.wayTo p = t.wayTo p := by
  rw [wayTo, wayTo, start_congr h]

lemma mem_trailOf_iff (h : stepsOf p ≠ []) : l ∈ t.trailOf p ↔ l ∈ t.wayTo p ∨ l = t.location p := by
  obtain ⟨ns, n, hs⟩ := (List.eq_nil_or_concat' (stepsOf p)).resolve_left h
  rw [trailOf, wayTo, location, hs, trail_append, List.dropLast_concat, List.foldl_concat]
  simp [trail]

lemma mem_trailOf_of_mem_wayTo (h : l ∈ t.wayTo p) : l ∈ t.trailOf p := by
  by_cases hs : stepsOf p = []
  · rw [wayTo, hs] at h
    cases h
  · exact (mem_trailOf_iff hs).mpr (.inl h)

end Way

section Walk

variable {t u : FileTree} {l m : Location} {n : String} {ns : List String}

lemma walk_cons : t.walk l (n :: ns) = t.enter l n >>= fun m => t.walk m ns := rfl

lemma walk_concat : t.walk l (ns ++ [n]) = t.walk l ns >>= fun m => t.enter m n := by
  unfold walk
  rw [List.foldlM_append]
  simp

lemma enter_elsewhere (h : leadsElsewhere n = true) : t.enter l n = .ok (descend l n) := by
  obtain rfl | rfl : n = "." ∨ n = ".." := by simpa [leadsElsewhere] using h
  · rfl
  · rfl

lemma enter_plain (h : leadsElsewhere n = false) :
    t.enter l n = (do
      checkName n
      match t.find? (l ++ [n]) with
      | none => .error .missing
      | some (.file _) => .error .notDirectory
      | some .directory => .ok (l ++ [n])) := by
  obtain ⟨h1, h2⟩ : n ≠ "." ∧ n ≠ ".." := by simpa [leadsElsewhere] using h
  exact (if_neg h1).trans (if_neg h2)

lemma checkName_ne_missing {f : AccessFault} (h : checkName n = .error f) : f ≠ .missing := by
  unfold checkName at h
  split at h
  · cases h
    decide
  · cases h

lemma descend_plain (h : leadsElsewhere n = false) : descend l n = l ++ [n] := by
  obtain ⟨h1, h2⟩ : n ≠ "." ∧ n ≠ ".." := by simpa [leadsElsewhere] using h
  rw [descend, if_neg h1, if_neg h2]

lemma enter_eq_ok_iff : t.enter l n = .ok m ↔ m = descend l n ∧
    (leadsElsewhere n = true ∨ checkName n = .ok () ∧ t.find? (l ++ [n]) = some .directory) := by
  cases hn : leadsElsewhere n with
  | true => simp [enter_elsewhere hn, eq_comm]
  | false =>
    rw [enter_plain hn, descend_plain hn, bind_eq_ok]
    constructor
    · rintro ⟨_, hc, h⟩
      split at h
      · cases h
      · cases h
      next hf => exact ⟨(Except.ok.inj h).symm, .inr ⟨hc, hf⟩⟩
    · rintro ⟨rfl, hl | ⟨hc, hf⟩⟩
      · cases hl
      · exact ⟨(), hc, by rw [hf]⟩

lemma enter_missing_iff : t.enter l n = .error .missing ↔
    leadsElsewhere n = false ∧ checkName n = .ok () ∧ t.find? (l ++ [n]) = none := by
  cases hn : leadsElsewhere n with
  | true => simp [enter_elsewhere hn]
  | false =>
    rw [enter_plain hn]
    cases hc : checkName n with
    | error f => simpa using checkName_ne_missing hc
    | ok _ =>
      cases hf : t.find? (l ++ [n]) with
      | none => simp
      | some e => cases e <;> simp

lemma descend_of_enter (h : t.enter l n = .ok m) : m = descend l n := (enter_eq_ok_iff.mp h).1

lemma enter_of_some (h : ∀ e, t.find? (descend l n) = some e →
      ∃ e', u.find? (descend l n) = some e' ∧ (e' = .directory ↔ e = .directory))
    (hm : t.enter l n ≠ .error .missing) : u.enter l n = t.enter l n := by
  cases hn : leadsElsewhere n with
  | true => rw [enter_elsewhere hn, enter_elsewhere hn]
  | false =>
    rw [descend_plain hn] at h
    rw [enter_plain hn, enter_plain hn]
    cases hc : checkName n with
    | error f => rfl
    | ok _ =>
      cases hf : t.find? (l ++ [n]) with
      | none => exact absurd (enter_missing_iff.mpr ⟨hn, hc, hf⟩) hm
      | some e =>
        obtain ⟨e', he', hd⟩ := h e hf
        rw [he']
        cases e <;> cases e' <;> simp_all

lemma eq_of_walk (h : t.walk l ns = .ok m) : m = ns.foldl descend l := by
  induction ns generalizing l with
  | nil => exact (Except.ok.inj h).symm
  | cons n ns ih =>
    obtain ⟨k, he, hk⟩ := bind_eq_ok.mp h
    rw [ih hk, descend_of_enter he]
    rfl

lemma walk_of_some (h : ∀ k ∈ trail l ns, ∀ e, t.find? k = some e →
      ∃ e', u.find? k = some e' ∧ (e' = .directory ↔ e = .directory))
    (hm : t.walk l ns ≠ .error .missing) : u.walk l ns = t.walk l ns := by
  induction ns generalizing l with
  | nil => rfl
  | cons n ns ih =>
    rw [walk_cons] at hm ⊢
    rw [walk_cons, enter_of_some (h _ List.mem_cons_self) fun he => hm (by rw [he]; rfl)]
    cases he : t.enter l n with
    | error f => rfl
    | ok m =>
      obtain rfl := descend_of_enter he
      rw [he, ok_bind] at hm
      exact ih (fun k hk => h k (List.mem_cons_of_mem _ hk)) hm

lemma walk_filter (l : Location) (ns : List String) :
    t.walk l (ns.filter (· ≠ ".")) = t.walk l ns := by
  induction ns generalizing l with
  | nil => rfl
  | cons n ns ih =>
    by_cases h : n = "."
    · subst h
      rw [List.filter_cons_of_neg (by simp), ih, walk_cons]
      rfl
    · rw [List.filter_cons_of_pos (by simpa using h), walk_cons, walk_cons]
      exact congrArg (t.enter l n >>= ·) (funext ih)

lemma walk_mono (h : ∀ k, t.find? k = some .directory → u.find? k = some .directory)
    (hw : t.walk l ns = .ok m) : u.walk l ns = .ok m := by
  induction ns generalizing l with
  | nil => exact hw
  | cons n ns ih =>
    obtain ⟨k, he, hk⟩ := bind_eq_ok.mp hw
    have hu : u.enter l n = .ok k := by
      obtain ⟨hd, hn⟩ := enter_eq_ok_iff.mp he
      exact enter_eq_ok_iff.mpr ⟨hd, hn.imp_right (And.imp_right (h _))⟩
    rw [walk_cons, hu]
    exact ih hk

end Walk

/-- What was at the locations still is, but directories may have come where nothing was. -/
structure Keeps (ls : List Location) (t u : FileTree) : Prop where
  current : u.current = t.current
  find? : ∀ l ∈ ls, u.find? l = t.find? l ∨ t.find? l = none ∧ u.find? l = some .directory

namespace Keeps

variable {t u v : FileTree} {ls ms : List Location} {l : Location} {p : String}

lemma refl (ls : List Location) (t : FileTree) : Keeps ls t t := ⟨rfl, fun _ _ => .inl rfl⟩

lemma trans (h : Keeps ls t u) (h' : Keeps ls u v) : Keeps ls t v := by
  refine ⟨h'.current.trans h.current, fun l hl => ?_⟩
  rcases h.find? l hl with hu | ⟨ht, hu⟩
  · rcases h'.find? l hl with hv | ⟨hu', hv⟩
    · exact .inl (hv.trans hu)
    · exact .inr ⟨hu.symm.trans hu', hv⟩
  · rcases h'.find? l hl with hv | ⟨hu', _⟩
    · exact .inr ⟨ht, hv.trans hu⟩
    · exact absurd (hu.symm.trans hu') (by simp)

lemma mono (h : Keeps ls t u) (hm : ∀ l ∈ ms, l ∈ ls) : Keeps ms t u :=
  ⟨h.current, fun l hl => h.find? l (hm l hl)⟩

lemma of_some (h : Keeps ls t u) (hl : l ∈ ls) {e : Entry} (he : t.find? l = some e) :
    u.find? l = some e := by
  rcases h.find? l hl with hu | ⟨hn, _⟩
  · exact hu.trans he
  · exact absurd (he.symm.trans hn) (by simp)

lemma start (h : Keeps ls t u) (p : String) : u.start p = t.start p := start_congr h.current p

lemma walk {l : Location} {ns : List String} (h : Keeps (trail l ns) t u)
    (hm : t.walk l ns ≠ .error .missing) : u.walk l ns = t.walk l ns :=
  walk_of_some (fun _ hk e he => ⟨e, h.of_some hk he, Iff.rfl⟩) hm

end Keeps

section Shape

def pathFault? (p : String) : Option AccessFault :=
  if p.toList.contains '\x00' then some .nul
  else if p.isEmpty then some .missing
  else if maxPathBytes < p.utf8ByteSize then some .nameTooLong
  else none

def segmentsOf (p : String) : List String := (Path.segments p.toList).map String.ofList

lemma target?_eq (t : FileTree) (p : String) :
    t.target? p =
      match pathFault? p with
      | some f => .error f
      | none =>
        match (segmentsOf p).getLast? with
        | none => .ok none
        | some n => do
          let d ← t.walk (t.start p) (segmentsOf p).dropLast
          return some ⟨d, n, p.toList.getLast? = some '/'⟩ := by
  unfold target? pathFault?
  split
  · rfl
  · split
    · rfl
    · split
      · rfl
      · rfl

lemma ofList_eq_dot {n : List Char} : String.ofList n = "." ↔ n = ['.'] := by
  rw [← String.toList_inj, String.toList_ofList]
  rfl

lemma stepsOf_eq_filter (p : String) : stepsOf p = (segmentsOf p).filter (· ≠ ".") := by
  unfold stepsOf segmentsOf
  rw [Path.steps_eq_filter_segments, List.filter_map]
  congr 1
  apply List.filter_congr
  intro n _
  simp [ofList_eq_dot]

structure FilePath (p : String) (ns : List String) (n : String) : Prop where
  fault : pathFault? p = none
  steps : stepsOf p = ns ++ [n]
  plain : leadsElsewhere n = false
  spelled : ∃ ks, pieces '/' p.toList = ks ++ [n.toList]
  target : ∀ t : FileTree,
    t.target? p = (do let d ← t.walk (t.start p) ns; return some ⟨d, n, false⟩)

structure DirectoryPath (p : String) : Prop where
  fault : pathFault? p = none
  lookup : ∀ t : FileTree,
    t.lookup p = (do let l ← t.walk (t.start p) (stepsOf p); return (l, .directory))
  write : ∀ (t : FileTree) (c : ByteArray), ∃ f, t.write p c = .error f

lemma segments_ne_nil {cs : List Char} (h : cs ≠ []) (hs : Path.segments cs = []) :
    cs.head? = some '/' := by
  obtain ⟨c, r, rfl⟩ := List.exists_cons_of_ne_nil h
  by_contra hc
  obtain ⟨q, qs, _, hq⟩ := pieces_cons (show c ≠ '/' by simpa using hc) r
  rw [Path.segments, hq, List.filter_cons_of_pos (by simp)] at hs
  cases hs

lemma isEmpty_of_pathFault? {p : String} (h : pathFault? p = none) : p.toList ≠ [] := by
  intro he
  obtain rfl := String.toList_eq_nil_iff.mp he
  cases h

lemma directoryPath_of_root {p : String} (hf : pathFault? p = none) (hs : segmentsOf p = []) :
    DirectoryPath p := by
  have hh := segments_ne_nil (isEmpty_of_pathFault? hf) (List.map_eq_nil_iff.mp hs)
  have ht : ∀ t : FileTree, t.target? p = .ok none := by
    intro t
    rw [target?_eq, hf, hs]
    rfl
  refine ⟨hf, fun t => ?_, fun t c => ⟨.isDirectory, ?_⟩⟩
  · have ha : t.start p = [] := if_pos (decide_eq_true hh)
    rw [lookup, ht, stepsOf_eq_filter, hs, ha]
    rfl
  · rw [write, ht]
    rfl

lemma target?_concat {p n : String} {ns : List String} (hf : pathFault? p = none)
    (hs : segmentsOf p = ns ++ [n]) (t : FileTree) :
    t.target? p =
      (do
        let d ← t.walk (t.start p) ns
        return some ⟨d, n, p.toList.getLast? = some '/'⟩) := by
  rw [target?_eq, hf, hs]
  simp only [List.getLast?_concat, List.dropLast_concat]

lemma directoryPath_of_concat {p n : String} {ns : List String} (hf : pathFault? p = none)
    (hs : segmentsOf p = ns ++ [n])
    (hn : leadsElsewhere n = true ∨ p.toList.getLast? = some '/') : DirectoryPath p := by
  have hb : (leadsElsewhere n || decide (p.toList.getLast? = some '/')) = true := by
    simpa using hn
  refine ⟨hf, fun t => ?_, fun t c => ?_⟩
  · rw [stepsOf_eq_filter, walk_filter, hs, walk_concat, lookup, target?_concat hf hs]
    cases t.walk (t.start p) ns with
    | error f => rfl
    | ok d => exact if_pos hb
  · rw [write, target?_concat hf hs]
    cases t.walk (t.start p) ns with
    | error f => exact ⟨f, rfl⟩
    | ok d =>
      simp only [ok_bind, pure_eq_ok]
      split
      · exact ⟨_, rfl⟩
      next ha =>
        have hl : leadsElsewhere n = true := by
          rcases hn with hn | hn
          · exact hn
          · exact absurd (decide_eq_true hn) ha
        rw [if_pos hl]
        cases t.enter d n with
        | error f => exact ⟨f, rfl⟩
        | ok m => exact ⟨_, rfl⟩

lemma pieces_of_segmentsOf {p n : String} {ns : List String} (hs : segmentsOf p = ns ++ [n])
    (hl : p.toList.getLast? ≠ some '/') : ∃ ks, pieces '/' p.toList = ks ++ [n.toList] := by
  obtain ⟨ks, z, hk⟩ := (List.eq_nil_or_concat' (pieces '/' p.toList)).resolve_left
    (pieces_ne_nil '/' p.toList)
  -- An empty last name would mean a slash at the end.
  have hz : z ≠ [] := by
    rintro rfl
    have hc := Path.ofNames_pieces p.toList
    cases ks with
    | nil =>
      rw [segmentsOf, Path.segments, hk] at hs
      cases ns <;> cases hs
    | cons k ks =>
      rw [hk] at hc
      exact hl (hc ▸ Path.getLast?_ofNames (List.cons_ne_nil k ks))
  refine ⟨ks, ?_⟩
  rw [segmentsOf, Path.segments, hk, List.filter_append, List.map_append] at hs
  have he := (List.append_inj' hs (by simp [hz])).2
  obtain rfl : String.ofList z = n := by simpa [hz] using he
  rw [hk, String.toList_ofList]

lemma filePath_of_concat {p n : String} {ns : List String} (hf : pathFault? p = none)
    (hs : segmentsOf p = ns ++ [n]) (hn : leadsElsewhere n = false)
    (hl : p.toList.getLast? ≠ some '/') : FilePath p (ns.filter (· ≠ ".")) n := by
  have hd : n ≠ "." := by
    rintro rfl
    cases hn
  refine ⟨hf, ?_, hn, pieces_of_segmentsOf hs hl, fun t => ?_⟩
  · rw [stepsOf_eq_filter, hs, List.filter_append]
    simp [hd]
  · rw [target?_concat hf hs, walk_filter, decide_eq_false hl]

lemma shape_cases (p : String) :
    (∃ f, pathFault? p = some f) ∨ DirectoryPath p ∨ ∃ ns n, FilePath p ns n := by
  cases hf : pathFault? p with
  | some f => exact .inl ⟨f, rfl⟩
  | none =>
    right
    rcases List.eq_nil_or_concat' (segmentsOf p) with hs | ⟨ns, n, hs⟩
    · exact .inl (directoryPath_of_root hf hs)
    · by_cases hn : leadsElsewhere n = true ∨ p.toList.getLast? = some '/'
      · exact .inl (directoryPath_of_concat hf hs hn)
      · obtain ⟨h1, h2⟩ := not_or.mp hn
        exact .inr ⟨_, n, filePath_of_concat hf hs (by simpa using h1) h2⟩

end Shape

end LayoutSync.FileTree
