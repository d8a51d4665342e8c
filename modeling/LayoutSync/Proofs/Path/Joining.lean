import LayoutSync.Proofs.Path.Endings

namespace LayoutSync.Path

open Text

structure IsProper (n : String) : Prop where
  notIdle : isIdle n.toList = false
  notUp : n ≠ ".."
  whole : '/' ∉ n.toList

instance (n : String) : Decidable (IsProper n) :=
  decidable_of_iff (isIdle n.toList = false ∧ n ≠ ".." ∧ '/' ∉ n.toList)
    ⟨fun ⟨h1, h2, h3⟩ => ⟨h1, h2, h3⟩, fun h => ⟨h.notIdle, h.notUp, h.whole⟩⟩

def EndsInName (p : String) : Prop := ∃ ks m, names p.toList = ks ++ [m] ∧ isIdle m = false

variable {p n : String}

lemma not_isAbsolute_of_slash (h : '/' ∉ n.toList) : isAbsolute n = false :=
  decide_eq_false fun hs => h (List.mem_of_head? hs)

lemma join_around (p : String) : ∃ d, IsAround d ∧
    ∀ n : String, '/' ∉ n.toList → (join p n).toList = d ++ n.toList := by
  by_cases he : p.isEmpty = true
  · refine ⟨[], .inl rfl, fun n _ => ?_⟩
    rw [join, he, Bool.or_true, if_pos rfl]
    rfl
  have hj : ∀ n : String, '/' ∉ n.toList → (isAbsolute n || p.isEmpty) = false := fun n hn => by
    rw [not_isAbsolute_of_slash hn, Bool.eq_false_iff.mpr he]
    rfl
  by_cases hs : p.toList.getLast? = some '/'
  · refine ⟨p.toList, .inr hs, fun n hn => ?_⟩
    rw [join, hj n hn, if_neg (by decide), if_pos hs, String.toList_append]
  · refine ⟨p.toList ++ ['/'], .inr (by simp), fun n hn => ?_⟩
    rw [join, hj n hn, if_neg (by decide), if_neg hs, String.toList_append, String.toList_append]
    rfl

lemma endsInName_join (p : String) (hn : IsProper n) : EndsInName (join p n) := by
  obtain ⟨d, hd, hj⟩ := join_around p
  obtain ⟨ks, hk, _⟩ := names_around hd hn.whole hn.notIdle
  exact ⟨ks, n.toList, by rw [hj n hn.whole, hk], hn.notIdle⟩

lemma EndsInName.getLast? (h : EndsInName p) :
    ∃ c, p.toList.getLast? = some c ∧ c ≠ '/' := by
  obtain ⟨ks, m, hk, hm⟩ := h
  have hne := ne_nil_of_not_isIdle hm
  have hs : '/' ∉ m := by
    have hmem : m ∈ names p.toList := by simp [hk]
    exact not_mem_of_mem_pieces hmem
  obtain ⟨c, hc⟩ := Option.ne_none_iff_exists'.mp (mt List.getLast?_eq_none_iff.mp hne)
  refine ⟨c, ?_, ?_⟩
  · rw [getLast?_of_names hk hne, hc]
  · rintro rfl
    exact hs (List.mem_of_getLast? hc)

lemma EndsInName.join (h : EndsInName p) (hn : '/' ∉ n.toList) :
    (join p n).toList = p.toList ++ '/' :: n.toList := by
  obtain ⟨c, hc, hcs⟩ := h.getLast?
  have he : p.isEmpty = false := by
    rw [← Bool.not_eq_true, String.isEmpty_iff]
    rintro rfl
    cases hc
  rw [Path.join, not_isAbsolute_of_slash hn, he, Bool.or_self, if_neg (by decide), if_neg,
    String.toList_append, String.toList_append]
  · simp
  · rw [hc]
    exact fun hs => hcs (Option.some.inj hs)

lemma lead_append_slash {cs : List Char} (h : cs ≠ []) (r : List Char) :
    lead (cs ++ '/' :: r) = lead cs := by
  rcases lead_cases cs with ⟨s, rfl, _⟩ | ⟨rfl, _⟩ | ⟨s, rfl, _⟩ | ⟨hl, hh⟩
  · rfl
  · rfl
  · rfl
  · rw [hl]
    obtain ⟨c, cs, rfl⟩ := List.exists_cons_of_ne_nil h
    rcases lead_cases (c :: cs ++ '/' :: r) with ⟨s, hs, _⟩ | ⟨hs, _⟩ | ⟨s, hs, _⟩ | ⟨hl', _⟩
    · exact absurd (congrArg List.head? hs) hh
    · have := congrArg List.length hs
      simp at this
    · -- A point before the slash would be the lead already.
      obtain ⟨rfl, ht⟩ := List.cons.inj hs
      cases cs with
      | nil => cases hl
      | cons d cs =>
        obtain rfl : d = '/' := (List.cons.inj ht).1
        cases hl
    · exact hl'

lemma names_append_slash {cs : List Char} (h : cs ≠ []) (r : List Char) :
    names (cs ++ '/' :: r) = names cs ++ pieces '/' r := by
  have hk : (lead cs).length ≤ cs.length := by
    have hs := congrArg List.length (lead_append_names cs)
    rw [List.length_append] at hs
    omega
  rw [names, lead_append_slash h, List.drop_append_of_le_length hk, pieces_append_sep]
  rfl

lemma EndsInName.ne_nil (h : EndsInName p) : p.toList ≠ [] := by
  obtain ⟨c, hc, _⟩ := h.getLast?
  intro he
  rw [he] at hc
  cases hc

lemma EndsInName.names_join (h : EndsInName p) (hn : '/' ∉ n.toList) :
    lead (Path.join p n).toList = lead p.toList ∧
      names (Path.join p n).toList = names p.toList ++ [n.toList] := by
  rw [h.join hn]
  refine ⟨lead_append_slash h.ne_nil _, ?_⟩
  rw [names_append_slash h.ne_nil, pieces_of_not_mem hn]

lemma EndsInName.parent?_join (h : EndsInName p) (hn : IsProper n) :
    parent? (Path.join p n) = some p := by
  obtain ⟨hl, hk⟩ := h.names_join hn.whole
  obtain ⟨ks, m, hp, hm⟩ := h
  rw [parent?, hk, hl, trimEnd_of_last hn.notIdle, if_neg (by simp), List.dropLast_concat, hp,
    trimEnd_of_last hm, ← hp, lead_append_names, String.ofList_toList]

lemma EndsInName.fileName?_join (h : EndsInName p) (hn : IsProper n) :
    fileName? (Path.join p n) = some n := by
  have hne : n.toList ≠ ['.', '.'] := fun he => hn.notUp (String.toList_inj.mp he)
  rw [fileName?, (h.names_join hn.whole).2, trimEnd_of_last hn.notIdle, List.getLast?_concat]
  dsimp only
  rw [if_neg hne, String.ofList_toList]

lemma lead_of_isProper (hn : IsProper n) : lead n.toList = [] := by
  rcases lead_cases n.toList with ⟨r, hr, _⟩ | ⟨hr, _⟩ | ⟨r, hr, _⟩ | ⟨hl, _⟩
  · exact absurd (by rw [hr]; exact List.mem_cons_self) hn.whole
  · exact absurd hn.notIdle (by rw [hr]; decide)
  · exact absurd (by rw [hr]; simp) hn.whole
  · exact hl

lemma names_join (p : String) (hn : IsProper n) : ∃ ms, names (join p n).toList = ms ++ [n.toList] ∧
    lead (join p n).toList = lead p.toList ∧ ms.filter (!isIdle ·) = steps p.toList ∧
    (p = "" → ms = []) := by
  have hna := not_isAbsolute_of_slash hn.whole
  by_cases he : p.isEmpty = true
  · obtain rfl := String.isEmpty_iff.mp he
    have hj : join "" n = n := by
      rw [join, he, Bool.or_true, if_pos rfl]
    rw [hj]
    refine ⟨[], ?_, lead_of_isProper hn, rfl, fun _ => rfl⟩
    rw [names, lead_of_isProper hn, List.length_nil, List.drop_zero, pieces_of_not_mem hn.whole]
    rfl
  have hne : p ≠ "" := fun h => he (String.isEmpty_iff.mpr h)
  have hnil : p.toList ≠ [] := fun h => hne (String.toList_eq_nil_iff.mp h)
  have hj : join p n = if p.toList.getLast? = some '/' then p ++ n else p ++ "/" ++ n := by
    rw [join, hna, Bool.eq_false_iff.mpr he]
    rfl
  by_cases hs : p.toList.getLast? = some '/'
  · rw [if_pos hs] at hj
    obtain ⟨cs, hcs⟩ := List.getLast?_eq_some_iff.mp hs
    have hjl : (join p n).toList = cs ++ '/' :: n.toList := by
      rw [hj, String.toList_append, hcs, List.append_assoc]
      rfl
    rw [hjl, hcs]
    by_cases hc : cs = []
    · subst hc
      refine ⟨[], ?_, rfl, rfl, fun _ => rfl⟩
      exact pieces_of_not_mem hn.whole
    · refine ⟨names cs, ?_, ?_, ?_, fun h => absurd h hne⟩
      · rw [names_append_slash hc, pieces_of_not_mem hn.whole]
      · rw [lead_append_slash hc, lead_append_slash hc]
      · rw [← steps_names, names_append_slash hc, List.filter_append]
        exact (List.append_nil _).symm
  · rw [if_neg hs] at hj
    have hjl : (join p n).toList = p.toList ++ '/' :: n.toList := by
      rw [hj, String.toList_append, String.toList_append, List.append_assoc]
      rfl
    rw [hjl]
    refine ⟨names p.toList, ?_, lead_append_slash hnil _, steps_names _, fun h => absurd h hne⟩
    rw [names_append_slash hnil, pieces_of_not_mem hn.whole]

lemma steps_join (p : String) (hn : IsProper n) :
    steps (join p n).toList = steps p.toList ++ [n.toList] := by
  obtain ⟨ms, hnames, _, hms, _⟩ := names_join p hn
  rw [← steps_names (join p n).toList, hnames, List.filter_append, hms]
  simp [hn.notIdle]

lemma isAbsolute_iff_lead (p : String) : isAbsolute p = true ↔ lead p.toList = ['/'] := by
  rw [isAbsolute_iff]
  rcases lead_cases p.toList with ⟨r, hr, hl⟩ | ⟨hr, hl⟩ | ⟨r, hr, hl⟩ | ⟨hl, hr⟩
  · simp [hr, lead]
  · simp [hr, lead]
  · simp [hr, lead]
  · rw [hl]
    constructor
    · rintro ⟨r, he⟩
      exact absurd (congrArg List.head? he) hr
    · intro he
      cases he

lemma isAbsolute_join (p : String) (hn : IsProper n) : isAbsolute (join p n) = isAbsolute p := by
  obtain ⟨_, _, hlead, _⟩ := names_join p hn
  rw [Bool.eq_iff_iff, isAbsolute_iff_lead, isAbsolute_iff_lead, hlead]

end LayoutSync.Path
