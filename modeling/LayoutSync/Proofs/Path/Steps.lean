import LayoutSync.Path.Basic
import Mathlib.Data.List.DropRight
import Mathlib.Tactic.Lemma

/-!
Where a path leads depends on the names in it that say something. The parent of a path has all of
them but the last, and is spelled like the start of the path.
-/

namespace LayoutSync.Text

section Pieces

variable {s : Char}

lemma pieces_sep (s : Char) (r : List Char) : pieces s (s :: r) = [] :: pieces s r := by
  cases h : pieces s r with
  | nil =>
    cases r with
    | nil => cases h
    | cons c r =>
      rw [pieces] at h
      split at h
      · cases h
      · split at h <;> cases h
  | cons p ps => simp [pieces, h]

lemma pieces_ne_nil (s : Char) (cs : List Char) : pieces s cs ≠ [] := by
  cases cs with
  | nil => simp [pieces]
  | cons c r =>
    rw [pieces]
    split
    · simp
    · split <;> simp

lemma pieces_cons {c : Char} (h : c ≠ s) (r : List Char) :
    ∃ p ps, pieces s r = p :: ps ∧ pieces s (c :: r) = (c :: p) :: ps := by
  obtain ⟨p, ps, hp⟩ := List.exists_cons_of_ne_nil (pieces_ne_nil s r)
  exact ⟨p, ps, hp, by simp [pieces, hp, h]⟩

lemma not_mem_of_mem_pieces {cs p : List Char} (h : p ∈ pieces s cs) : s ∉ p := by
  induction cs generalizing p with
  | nil => simp_all [pieces]
  | cons c r ih =>
    by_cases hc : c = s
    · subst hc
      rw [pieces_sep] at h
      rcases List.mem_cons.mp h with rfl | h
      · simp
      · exact ih h
    · obtain ⟨q, qs, hq, hcq⟩ := pieces_cons hc r
      rw [hcq] at h
      rcases List.mem_cons.mp h with rfl | h
      · have := ih (p := q) (by simp [hq])
        simp [this, Ne.symm hc]
      · exact ih (by simp [hq, h])

lemma pieces_append_sep (a b : List Char) : pieces s (a ++ s :: b) = pieces s a ++ pieces s b := by
  induction a with
  | nil => exact pieces_sep s b
  | cons c a ih =>
    by_cases hc : c = s
    · subst hc
      rw [List.cons_append, pieces_sep, pieces_sep, ih, List.cons_append]
    · obtain ⟨p, ps, hp, hcp⟩ := pieces_cons hc a
      obtain ⟨q, qs, hq, hcq⟩ := pieces_cons hc (a ++ s :: b)
      rw [ih, hp, List.cons_append] at hq
      obtain ⟨rfl, rfl⟩ := List.cons.inj hq
      rw [List.cons_append, hcq, hcp, List.cons_append]

lemma pieces_of_not_mem {cs : List Char} (h : s ∉ cs) : pieces s cs = [cs] := by
  induction cs with
  | nil => rfl
  | cons c r ih =>
    have hc : c ≠ s := fun hc => h (by simp [hc])
    obtain ⟨p, ps, hp, hcp⟩ := pieces_cons hc r
    rw [ih fun hr => h (by simp [hr])] at hp
    obtain ⟨rfl, rfl⟩ := List.cons.inj hp
    exact hcp

end Pieces

end LayoutSync.Text

namespace LayoutSync.Path

open Text

def segments (cs : List Char) : List (List Char) := (pieces '/' cs).filter (· ≠ [])

def steps (cs : List Char) : List (List Char) := (pieces '/' cs).filter (!isIdle ·)

lemma steps_eq_filter_segments (cs : List Char) :
    steps cs = (segments cs).filter (· ≠ ['.']) := by
  unfold steps segments
  rw [List.filter_filter]
  apply List.filter_congr
  intro n _
  by_cases h : n = [] <;> simp [isIdle, h]

section Names

lemma ofNames_cons (n : List Char) {ns : List (List Char)} (h : ns ≠ []) :
    ofNames (n :: ns) = n ++ '/' :: ofNames ns := by
  obtain ⟨m, ms, rfl⟩ := List.exists_cons_of_ne_nil h
  simp [ofNames]

lemma ofNames_pieces (cs : List Char) : ofNames (pieces '/' cs) = cs := by
  induction cs with
  | nil => rfl
  | cons c r ih =>
    by_cases hc : c = '/'
    · subst hc
      rw [pieces_sep, ofNames_cons _ (pieces_ne_nil _ _), ih]
      rfl
    · obtain ⟨p, ps, hp, hcp⟩ := pieces_cons hc r
      rw [hp] at ih
      rw [hcp]
      cases ps with
      | nil =>
        simp only [ofNames, List.intercalate_singleton] at ih ⊢
        rw [ih]
      | cons q qs =>
        rw [ofNames_cons _ (List.cons_ne_nil q qs)] at ih ⊢
        rw [List.cons_append, ih]

lemma pieces_ofNames {ns : List (List Char)} (h : ns ≠ []) (hs : ∀ n ∈ ns, '/' ∉ n) :
    pieces '/' (ofNames ns) = ns := by
  induction ns with
  | nil => exact absurd rfl h
  | cons n ns ih =>
    cases ns with
    | nil =>
      rw [ofNames, List.intercalate_singleton]
      exact pieces_of_not_mem (hs n (by simp))
    | cons m ms =>
      rw [ofNames_cons _ (List.cons_ne_nil m ms), pieces_append_sep,
        pieces_of_not_mem (hs n (by simp)), ih (List.cons_ne_nil m ms) fun k hk => hs k (by simp [hk])]
      rfl

lemma ofNames_start (ms rest : List (List Char)) : ofNames ms <+: ofNames (ms ++ rest) := by
  induction ms with
  | nil => exact List.nil_prefix
  | cons m ms ih =>
    cases ms with
    | nil =>
      cases rest with
      | nil => exact List.prefix_refl _
      | cons r rest =>
        have hm : ofNames [m] = m := by simp [ofNames]
        rw [List.singleton_append, ofNames_cons m (List.cons_ne_nil r rest), hm]
        exact List.prefix_append _ _
    | cons n ms =>
      have hc : (n :: ms) ++ rest ≠ [] := by simp
      change ofNames (m :: n :: ms) <+: ofNames (m :: ((n :: ms) ++ rest))
      rw [ofNames_cons m (List.cons_ne_nil n ms), ofNames_cons m hc]
      apply (List.prefix_append_right_inj m).mpr
      exact List.cons_prefix_cons.mpr ⟨rfl, ih⟩

lemma ofNames_concat (ms : List (List Char)) (n : List Char) :
    ofNames (ms ++ [n]) = ofNames (ms ++ [[]]) ++ n := by
  induction ms with
  | nil => simp [ofNames]
  | cons m ms ih =>
    rw [List.cons_append, List.cons_append, ofNames_cons m (by simp), ofNames_cons m (by simp), ih,
      List.append_assoc, List.cons_append]

lemma getLast?_ofNames_concat (ms : List (List Char)) {n : List Char} (hn : n ≠ []) :
    (ofNames (ms ++ [n])).getLast? = n.getLast? := by
  rw [ofNames_concat, List.getLast?_append_of_ne_nil _ hn]

lemma getLast?_ofNames {ms : List (List Char)} (h : ms ≠ []) :
    (ofNames (ms ++ [[]])).getLast? = some '/' := by
  induction ms with
  | nil => exact absurd rfl h
  | cons m ms ih =>
    rw [List.cons_append, ofNames_cons m (by simp), List.getLast?_append]
    cases ms with
    | nil => rfl
    | cons k ks =>
      have hk := ih (List.cons_ne_nil k ks)
      rw [List.getLast?_cons, hk]
      rfl

end Names

lemma lead_cases (cs : List Char) :
    (∃ r, cs = '/' :: r ∧ lead cs = ['/']) ∨ (cs = ['.'] ∧ lead cs = ['.']) ∨
      (∃ r, cs = '.' :: '/' :: r ∧ lead cs = ['.']) ∨ (lead cs = [] ∧ cs.head? ≠ some '/') := by
  unfold lead
  split
  next r => exact .inl ⟨r, rfl, rfl⟩
  · exact .inr (.inl ⟨rfl, rfl⟩)
  next r => exact .inr (.inr (.inl ⟨r, rfl, rfl⟩))
  next h1 _ _ =>
    refine .inr (.inr (.inr ⟨rfl, ?_⟩))
    cases cs with
    | nil => simp
    | cons c r =>
      intro hc
      obtain rfl : c = '/' := by simpa using hc
      exact h1 r rfl

lemma isAbsolute_iff (p : String) : isAbsolute p = true ↔ ∃ r, p.toList = '/' :: r := by
  unfold isAbsolute
  cases h : p.toList with
  | nil => simp
  | cons c r => simp

lemma steps_names (cs : List Char) : (names cs).filter (!isIdle ·) = steps cs := by
  have hs : ∀ r, (pieces '/' ('/' :: r)).filter (!isIdle ·) = steps r := by
    intro r
    rw [pieces_sep]
    rfl
  unfold names
  rcases lead_cases cs with ⟨r, rfl, hl⟩ | ⟨rfl, hl⟩ | ⟨r, rfl, hl⟩ | ⟨hl, _⟩
  · rw [hl]
    exact (hs r).symm
  · rfl
  · rw [hl]
    apply (hs r).trans
    have hd : pieces '/' ('.' :: '/' :: r) = ['.'] :: pieces '/' r := by
      rw [show '.' :: '/' :: r = ['.'] ++ '/' :: r from rfl, pieces_append_sep]
      rfl
    rw [steps, steps, hd]
    rfl
  · rw [hl]
    rfl

lemma trimEnd_eq (ns : List (List Char)) : trimEnd ns = ns.rdropWhile isIdle := rfl

lemma trimEnd_start (ns : List (List Char)) : trimEnd ns <+: ns :=
  List.rdropWhile_prefix isIdle ns

lemma filter_trimEnd (ns : List (List Char)) :
    (trimEnd ns).filter (!isIdle ·) = ns.filter (!isIdle ·) := by
  induction ns using List.reverseRecOn with
  | nil => rfl
  | append_singleton ns n ih =>
    rw [trimEnd_eq, List.rdropWhile_concat]
    split
    next h => simpa [trimEnd_eq, h] using ih
    · rfl

lemma ne_nil_of_not_isIdle {n : List Char} (h : isIdle n = false) : n ≠ [] := by
  rintro rfl
  cases h

lemma trimEnd_concat {ns : List (List Char)} (h : trimEnd ns ≠ []) :
    ∃ ms n, trimEnd ns = ms ++ [n] ∧ isIdle n = false := by
  refine ⟨(trimEnd ns).dropLast, (trimEnd ns).getLast h, (List.dropLast_append_getLast h).symm, ?_⟩
  exact Bool.eq_false_iff.mpr (List.rdropWhile_last_not isIdle ns h)

def IsTrimmed (cs : List Char) : Prop :=
  cs = [] ∨ cs = ['/'] ∨ cs = ['.'] ∨
    cs.getLast? ≠ some '/' ∧ ∃ ns n, segments cs = ns ++ [n] ∧ isIdle n = false

lemma segments_concat {cs : List Char} {ns : List (List Char)} {n : List Char}
    (h : pieces '/' cs = ns ++ [n]) (hn : isIdle n = false) :
    segments cs = ns.filter (· ≠ []) ++ [n] := by
  rw [segments, h, List.filter_append]
  simp [ne_nil_of_not_isIdle hn]

lemma getLast?_of_pieces {cs : List Char} {ns : List (List Char)} {n : List Char}
    (h : pieces '/' cs = ns ++ [n]) (hn : n ≠ []) : cs.getLast? = n.getLast? := by
  rw [← ofNames_pieces cs, h, getLast?_ofNames_concat ns hn]

lemma isTrimmed_of_pieces {cs : List Char} {ns : List (List Char)} {n : List Char}
    (h : pieces '/' cs = ns ++ [n]) (hn : isIdle n = false) : IsTrimmed cs := by
  refine .inr (.inr (.inr ⟨?_, _, _, segments_concat h hn, hn⟩))
  rw [getLast?_of_pieces h (ne_nil_of_not_isIdle hn)]
  intro hl
  have hm : n ∈ pieces '/' cs := by simp [h]
  exact not_mem_of_mem_pieces hm (List.mem_of_getLast? hl)

lemma lead_append_names (cs : List Char) : lead cs ++ ofNames (names cs) = cs := by
  rw [names, ofNames_pieces]
  rcases lead_cases cs with ⟨r, rfl, hl⟩ | ⟨rfl, hl⟩ | ⟨r, rfl, hl⟩ | ⟨hl, _⟩
  · rw [hl]
    rfl
  · rfl
  · rw [hl]
    rfl
  · rw [hl]
    rfl

lemma getLast?_of_names {cs n : List Char} {ks : List (List Char)} (h : names cs = ks ++ [n])
    (hn : n ≠ []) : cs.getLast? = n.getLast? := by
  rw [← lead_append_names cs, h, ofNames_concat, ← List.append_assoc,
    List.getLast?_append_of_ne_nil _ hn]

lemma isTrimmed_lead (cs : List Char) : steps (lead cs) = [] ∧ IsTrimmed (lead cs) := by
  rcases lead_cases cs with ⟨r, _, hl⟩ | ⟨_, hl⟩ | ⟨r, _, hl⟩ | ⟨hl, _⟩ <;> rw [hl]
  · exact ⟨rfl, .inr (.inl rfl)⟩
  · exact ⟨rfl, .inr (.inr (.inl rfl))⟩
  · exact ⟨rfl, .inr (.inr (.inl rfl))⟩
  · exact ⟨rfl, .inl rfl⟩

lemma steps_start_concat {cs z : List Char} {ks rest : List (List Char)}
    (h : names cs = ks ++ [z] ++ rest) (hz : isIdle z = false) :
    steps (lead cs ++ ofNames (ks ++ [z])) = (ks ++ [z]).filter (!isIdle ·) ∧
      IsTrimmed (lead cs ++ ofNames (ks ++ [z])) := by
  have hs : ∀ n ∈ ks ++ [z], '/' ∉ n := by
    intro n hn
    have hm : n ∈ names cs := h ▸ List.mem_append_left _ hn
    exact not_mem_of_mem_pieces hm
  have hp := pieces_ofNames (List.append_ne_nil_of_right_ne_nil ks (List.cons_ne_nil z [])) hs
  rcases lead_cases cs with ⟨r, rfl, hl⟩ | ⟨rfl, hl⟩ | ⟨r, rfl, hl⟩ | ⟨hl, _⟩ <;> rw [hl]
  · have hq : pieces '/' (['/'] ++ ofNames (ks ++ [z])) = ([] :: ks) ++ [z] := by
      rw [List.singleton_append, pieces_sep, hp]
      rfl
    refine ⟨?_, isTrimmed_of_pieces hq hz⟩
    rw [steps, hq]
    rfl
  · -- A path that is only the directory itself has no name that says something.
    have hn : ([[]] : List (List Char)) = ks ++ [z] ++ rest := h
    have hk : z ∈ ([[]] : List (List Char)) := by
      rw [hn]
      simp
    rw [List.mem_singleton.mp hk] at hz
    cases hz
  · have hn : [] :: pieces '/' r = ks ++ [z] ++ rest := by
      rw [← pieces_sep]
      exact h
    cases ks with
    | nil =>
      obtain ⟨rfl, _⟩ := List.cons.inj hn
      cases hz
    | cons k ks =>
      obtain ⟨rfl, _⟩ := List.cons.inj hn
      have hp' : pieces '/' (ofNames (ks ++ [z])) = ks ++ [z] :=
        pieces_ofNames (by simp) fun n hn => hs n (List.mem_cons_of_mem _ hn)
      have hq : pieces '/' (['.'] ++ ofNames ([] :: ks ++ [z])) = (['.'] :: ks) ++ [z] := by
        have ho : ofNames ([] :: ks ++ [z]) = '/' :: ofNames (ks ++ [z]) := ofNames_cons [] (by simp)
        rw [ho, pieces_append_sep, hp']
        rfl
      refine ⟨?_, isTrimmed_of_pieces hq hz⟩
      rw [steps, hq]
      rfl
  · rw [List.nil_append]
    refine ⟨?_, isTrimmed_of_pieces hp hz⟩
    rw [steps, hp]

lemma steps_start {cs : List Char} {ms rest : List (List Char)} (h : names cs = ms ++ rest)
    (hm : ms = [] ∨ ∃ ks z, ms = ks ++ [z] ∧ isIdle z = false) :
    steps (lead cs ++ ofNames ms) = ms.filter (!isIdle ·) ∧ IsTrimmed (lead cs ++ ofNames ms) := by
  rcases hm with rfl | ⟨ks, z, rfl, hz⟩
  · have ho : lead cs ++ ofNames [] = lead cs := List.append_nil _
    rw [ho]
    exact isTrimmed_lead cs
  · exact steps_start_concat h hz

structure IsParent (q p : String) : Prop where
  start : q.toList <+: p.toList
  shorter : q.length < p.length
  steps : steps q.toList = (steps p.toList).dropLast
  isAbsolute : isAbsolute q = isAbsolute p
  trimmed : IsTrimmed q.toList

lemma isAbsolute_of_lead {p q : String} (h : q.toList <+: p.toList)
    (hq : q.toList = [] → isAbsolute p = false) : isAbsolute q = isAbsolute p := by
  unfold isAbsolute at hq ⊢
  obtain ⟨r, hr⟩ := h
  cases hc : q.toList with
  | nil =>
    rw [hq hc]
    rfl
  | cons c cs =>
    rw [← hr, hc]
    rfl

lemma lead_of_nil {cs : List Char} (h : lead cs = []) : cs.head? ≠ some '/' := by
  rcases lead_cases cs with ⟨r, _, hl⟩ | ⟨_, hl⟩ | ⟨r, _, hl⟩ | ⟨_, hc⟩
  · rw [hl] at h
    cases h
  · rw [hl] at h
    cases h
  · rw [hl] at h
    cases h
  · exact hc

lemma cons_of_lead_dot {cs : List Char} (h : lead cs = ['.']) : ∃ r, cs = '.' :: r := by
  rcases lead_cases cs with ⟨r, _, hl⟩ | ⟨hc, _⟩ | ⟨r, hc, _⟩ | ⟨hl, _⟩
  · rw [hl] at h
    cases h
  · exact ⟨_, hc⟩
  · exact ⟨_, hc⟩
  · rw [hl] at h
    cases h

lemma filter_trimEnd_names (cs : List Char) :
    (trimEnd (names cs)).filter (!isIdle ·) = steps cs :=
  (filter_trimEnd _).trans (steps_names _)

lemma isParent_empty {p : String} (hl : lead p.toList = ['.'])
    (hn : trimEnd (names p.toList) = []) : IsParent "" p := by
  obtain ⟨r, hr⟩ := cons_of_lead_dot hl
  refine ⟨List.nil_prefix, ?_, ?_, ?_, .inl rfl⟩
  · rw [← String.length_toList, ← String.length_toList, hr]
    exact Nat.zero_lt_succ _
  · rw [← filter_trimEnd_names p.toList, hn]
    rfl
  · rw [Path.isAbsolute, Path.isAbsolute, hr]
    rfl

lemma isParent_of_names {p : String} {ks : List (List Char)} {z : List Char}
    (hks : trimEnd (names p.toList) = ks ++ [z]) (hz : isIdle z = false) :
    IsParent (String.ofList (lead p.toList ++ ofNames (trimEnd ks))) p := by
  have hf := filter_trimEnd_names p.toList
  have hpre : trimEnd ks <+: names p.toList :=
    (trimEnd_start ks).trans ((List.prefix_append ks [z]).trans (hks ▸ trimEnd_start _))
  obtain ⟨rest, hrest⟩ := hpre
  have hm : trimEnd ks = [] ∨ ∃ ls y, trimEnd ks = ls ++ [y] ∧ isIdle y = false := by
    by_cases hk : trimEnd ks = []
    · exact .inl hk
    · exact .inr (trimEnd_concat hk)
  obtain ⟨hst, htr⟩ := steps_start hrest.symm hm
  have hsteps : Path.steps (lead p.toList ++ ofNames (trimEnd ks)) =
      (Path.steps p.toList).dropLast := by
    rw [hst, filter_trimEnd, ← hf, hks, List.filter_append]
    simp [hz]
  have hsn : Path.steps p.toList ≠ [] := by
    rw [← hf, hks, List.filter_append]
    simp [hz]
  have hstart : lead p.toList ++ ofNames (trimEnd ks) <+: p.toList := by
    have hp := (List.prefix_append_right_inj (lead p.toList)).mpr
      (ofNames_start (trimEnd ks) rest)
    rwa [hrest, lead_append_names] at hp
  refine ⟨?_, ?_, ?_, ?_, ?_⟩
  · rw [String.toList_ofList]
    exact hstart
  · rw [← String.length_toList, ← String.length_toList, String.toList_ofList]
    apply Nat.lt_of_le_of_ne hstart.length_le
    intro hl
    have hs := congrArg List.length hsteps
    rw [hstart.eq_of_length hl, List.length_dropLast] at hs
    exact hsn (List.length_eq_zero_iff.mp (by omega))
  · rw [String.toList_ofList]
    exact hsteps
  · apply isAbsolute_of_lead (by rwa [String.toList_ofList])
    intro hn
    rw [String.toList_ofList] at hn
    exact decide_eq_false (lead_of_nil (List.append_eq_nil_iff.mp hn).1)
  · rw [String.toList_ofList]
    exact htr

lemma isParent_of_parent? {p q : String} (h : parent? p = some q) : IsParent q p := by
  unfold parent? at h
  dsimp only at h
  split at h
  next he =>
    split at h
    next hl =>
      obtain rfl := Option.some.inj h
      exact isParent_empty hl (by simpa using he)
    · cases h
  next he =>
    obtain ⟨ks, z, hks, hz⟩ := trimEnd_concat (by simpa using he)
    rw [hks, List.dropLast_concat] at h
    obtain rfl := Option.some.inj h
    exact isParent_of_names hks hz

lemma eq_nil_of_steps {cs : List Char} (hl : lead cs = []) (hc : cs.head? ≠ some '/')
    (h : steps cs = []) : cs = [] := by
  cases cs with
  | nil => rfl
  | cons c r =>
    have hc' : c ≠ '/' := by simpa using hc
    obtain ⟨q, qs, hq, hcq⟩ := pieces_cons hc' r
    have hi : isIdle (c :: q) = true := by
      by_contra hi
      rw [steps, hcq, List.filter_cons_of_pos (by simpa using hi)] at h
      cases h
    obtain ⟨rfl, rfl⟩ : c = '.' ∧ q = [] := by simpa [isIdle] using hi
    cases r with
    | nil => cases hl
    | cons d r =>
      by_cases hd : d = '/'
      · subst hd
        cases hl
      · obtain ⟨q', _, _, hdq⟩ := pieces_cons hd r
        rw [hdq] at hq
        cases hq

lemma steps_of_parent?_none {p : String} (h : parent? p = none) :
    steps p.toList = [] ∧ (p = "" ∨ isAbsolute p = true) := by
  unfold parent? at h
  dsimp only at h
  split at h
  next he =>
    have hn : trimEnd (names p.toList) = [] := by simpa using he
    have hf := filter_trimEnd (names p.toList)
    rw [hn, steps_names] at hf
    refine ⟨hf.symm, ?_⟩
    split at h
    · cases h
    next hl =>
      rcases lead_cases p.toList with ⟨r, hc, _⟩ | ⟨_, hl'⟩ | ⟨r, _, hl'⟩ | ⟨hl', hc⟩
      · exact .inr ((isAbsolute_iff p).mpr ⟨r, hc⟩)
      · exact absurd hl' hl
      · exact absurd hl' hl
      · refine .inl (String.toList_eq_nil_iff.mp ?_)
        exact eq_nil_of_steps hl' hc hf.symm
  · cases h

end LayoutSync.Path
