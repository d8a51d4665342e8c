import Mathlib.Data.List.TakeWhile
import LayoutSync.Proofs.Text.Upper
import LayoutSync.Source.Naming

/-!
Names in camel case. The words of a text are joined while it is scanned; here they are found by
division, and the laws on texts put together follow from those of dividing.
-/

namespace LayoutSync.Source

open Text

def divides (c : Char) : Bool := !c.isAlphanum

def spaced : List Char → List Char
  | [] => []
  | c :: cs => if divides c then ' ' :: spaced (cs.dropWhile divides) else c :: spaced cs
termination_by cs => cs.length
decreasing_by
  · exact Nat.lt_succ_of_le (List.dropWhile_suffix divides).length_le
  · exact Nat.lt_succ_self _

lemma divides_iff {c : Char} : divides c = true ↔ c.isAlphanum = false := by
  rw [divides, Bool.not_eq_true']

lemma not_divides_iff {c : Char} : ¬ divides c = true ↔ c.isAlphanum = true := by
  rw [divides_iff, Bool.not_eq_false]

section Words

variable {c : Char} {cs w : List Char} {ws : List (List Char)}

lemma joinWords_divider (h : divides c = true) (start : Bool) (cs : List Char) :
    joinWords start (c :: cs) = joinWords true cs := by
  rw [joinWords, divides_iff.mp h, if_neg Bool.false_ne_true]

lemma joinWords_letter (h : c.isAlphanum = true) (start : Bool) (cs : List Char) :
    joinWords start (c :: cs) = (if start then c.toUpper else c) :: joinWords false cs := by
  rw [joinWords, if_pos h]

lemma capitalize_letter (h : c.isAlphanum = true) (cs : List Char) :
    capitalize (c :: cs) = c.toUpper :: cs := by
  rw [capitalize, upper_of_isAlphanum h, List.singleton_append]

lemma joinWords_of_splitOnP (h : cs.splitOnP divides = w :: ws) (start : Bool) :
    joinWords start cs = (if start then capitalize w else w) ++ ws.flatMap capitalize := by
  -- Whether a word starts here varies along the text.
  induction cs generalizing w ws start with
  | nil =>
    rw [List.splitOnP_nil] at h
    cases h
    cases start <;> rfl
  | cons c cs ih =>
    obtain ⟨v, vs, hv⟩ := List.exists_cons_of_ne_nil (List.splitOnP_ne_nil divides cs)
    rw [List.splitOnP_cons_eq_if_modifyHead, hv] at h
    by_cases hc : divides c = true
    · rw [if_pos hc] at h
      cases h
      rw [joinWords_divider hc, ih hv true, List.flatMap_cons]
      cases start <;> rfl
    · rw [if_neg hc] at h
      cases h
      have ha : c.isAlphanum = true := not_divides_iff.mp hc
      rw [joinWords_letter ha, ih hv false, capitalize_letter ha]
      cases start <;> rfl

lemma joinWords_eq_flatMap (cs : List Char) :
    joinWords true cs = (cs.splitOnP divides).flatMap capitalize := by
  obtain ⟨w, ws, h⟩ := List.exists_cons_of_ne_nil (List.splitOnP_ne_nil divides cs)
  rw [joinWords_of_splitOnP h true, h, List.flatMap_cons, if_pos rfl]

lemma joinWords_append_divider (h : divides c = true) (xs ys : List Char) :
    joinWords true (xs ++ c :: ys) = joinWords true xs ++ joinWords true ys := by
  simp only [joinWords_eq_flatMap]
  rw [List.splitOnP_append_cons xs ys h, List.flatMap_append]

lemma joinWords_dividers (h : ∀ c ∈ cs, divides c = true) (ys : List Char) :
    joinWords true (cs ++ ys) = joinWords true ys := by
  induction cs with
  | nil => rfl
  | cons c cs ih =>
    obtain ⟨hc, hs⟩ := List.forall_mem_cons.mp h
    rw [List.cons_append, joinWords_divider hc, ih hs]

lemma joinWords_dropWhile (cs : List Char) :
    joinWords true (cs.dropWhile divides) = joinWords true cs := by
  have h : ∀ c ∈ cs.takeWhile divides, divides c = true := fun _ => List.mem_takeWhile_imp
  rw [← joinWords_dividers h, List.takeWhile_append_dropWhile]

lemma joinWords_letters (h : ∀ c ∈ cs, c.isAlphanum = true) :
    joinWords true cs = capitalize cs := by
  have hs : cs.splitOnP divides = [cs] :=
    List.splitOnP_eq_singleton fun c hc => by rw [divides, h c hc, Bool.not_true]
  rw [joinWords_eq_flatMap, hs, List.flatMap_singleton]

end Words

section Spaces

lemma joinWords_spaced (start : Bool) (cs : List Char) :
    joinWords start (spaced cs) = joinWords start cs := by
  induction cs using spaced.induct generalizing start with
  | case1 => rw [spaced]
  | case2 c cs hc ih =>
    rw [spaced, if_pos hc, joinWords_divider (by decide), joinWords_divider hc, ih,
      joinWords_dropWhile]
  | case3 c cs hc ih =>
    have ha : c.isAlphanum = true := not_divides_iff.mp hc
    rw [spaced, if_neg hc, joinWords_letter ha, joinWords_letter ha, ih]

lemma eq_space_of_mem_spaced (cs : List Char) : ∀ c ∈ spaced cs, (c == ' ') = divides c := by
  induction cs using spaced.induct with
  | case1 => simp [spaced]
  | case2 c cs hc ih =>
    rw [spaced, if_pos hc]
    exact List.forall_mem_cons.mpr ⟨rfl, ih⟩
  | case3 c cs hc ih =>
    have hs : c ≠ ' ' := fun h => hc (h ▸ rfl)
    rw [spaced, if_neg hc]
    exact List.forall_mem_cons.mpr ⟨by simp [hs, hc], ih⟩

lemma splitOnP_congr {α : Type*} {p q : α → Bool} {xs : List α} (h : ∀ x ∈ xs, p x = q x) :
    xs.splitOnP p = xs.splitOnP q := by
  induction xs with
  | nil => rfl
  | cons x xs ih =>
    obtain ⟨hx, hs⟩ := List.forall_mem_cons.mp h
    rw [List.splitOnP_cons_eq_if_modifyHead, List.splitOnP_cons_eq_if_modifyHead, hx, ih hs]

lemma joinWords_eq_spaced (cs : List Char) :
    joinWords true cs = ((spaced cs).splitOn ' ').flatMap capitalize := by
  rw [List.splitOn_eq_splitOnP, splitOnP_congr (eq_space_of_mem_spaced cs),
    ← joinWords_eq_flatMap, joinWords_spaced]

end Spaces

section Letters

lemma isAlphanum_joinWords (start : Bool) (cs : List Char) :
    ∀ c ∈ joinWords start cs, c.isAlphanum = true := by
  induction cs generalizing start with
  | nil => simp [joinWords]
  | cons d cs ih =>
    rw [joinWords]
    split
    next hd =>
      refine List.forall_mem_cons.mpr ⟨?_, ih false⟩
      split
      · rwa [isAlphanum_toUpper]
      · exact hd
    · exact ih true

lemma map_toLower_joinWords (start : Bool) (cs : List Char) :
    (joinWords start cs).map Char.toLower = (cs.filter Char.isAlphanum).map Char.toLower := by
  induction cs generalizing start with
  | nil => rfl
  | cons c cs ih =>
    by_cases hc : divides c = true
    · have ha : ¬ c.isAlphanum = true := not_divides_iff.not_right.mp hc
      rw [joinWords_divider hc, List.filter_cons_of_neg ha, ih]
    · have ha : c.isAlphanum = true := not_divides_iff.mp hc
      rw [joinWords_letter ha, List.filter_cons_of_pos ha, List.map_cons, List.map_cons, ih]
      cases start with
      | false => rfl
      | true => rw [if_pos rfl, toLower_toUpper]

lemma toUpper_head_joinWords (cs : List Char) :
    ∀ c ∈ (joinWords true cs).head?, c.toUpper = c := by
  induction cs with
  | nil => simp [joinWords]
  | cons d cs ih =>
    rw [joinWords]
    split
    · intro c hc
      obtain rfl : d.toUpper = c := Option.mem_some.mp hc
      exact toUpper_toUpper d
    · exact ih

lemma joinWords_joinWords (cs : List Char) :
    joinWords true (joinWords true cs) = joinWords true cs := by
  have ha := isAlphanum_joinWords true cs
  have hu := toUpper_head_joinWords cs
  rw [joinWords_letters ha]
  cases hj : joinWords true cs with
  | nil => rfl
  | cons c ds =>
    rw [hj] at ha hu
    rw [capitalize_letter (ha c List.mem_cons_self), hu c rfl]

end Letters

lemma toList_camelCase (s : String) : (camelCase s).toList = joinWords true s.toList :=
  String.toList_ofList

lemma isAlphanum_camelCase (s : String) : ∀ c ∈ (camelCase s).toList, c.isAlphanum = true := by
  rw [toList_camelCase]
  exact isAlphanum_joinWords true s.toList

lemma toList_lowerCamelCase (s : String) :
    (lowerCamelCase s).toList = (camelCase s).toList.modifyHead Char.toLower := by
  rw [toList_camelCase, lowerCamelCase]
  cases joinWords true s.toList with
  | nil => rfl
  | cons c cs => exact String.toList_ofList

/-- The name has the Latin letters and the digits of the text, in any case, and nothing else. -/
structure Condenses (name text : String) : Prop where
  latin : ∀ c ∈ name.toList, c.isAlphanum = true
  letters : name.toList.map Char.toLower = (text.toList.filter Char.isAlphanum).map Char.toLower

lemma condenses_camelCase (s : String) : Condenses (camelCase s) s where
  latin := isAlphanum_camelCase s
  letters := by rw [toList_camelCase, map_toLower_joinWords]

lemma Condenses.lowerHead {name text lowered : String} (h : Condenses name text)
    (hl : lowered.toList = name.toList.modifyHead Char.toLower) : Condenses lowered text := by
  obtain ⟨hn, ht⟩ := h
  cases hc : name.toList with
  | nil =>
    rw [hc] at hl hn ht
    exact ⟨hl ▸ hn, hl ▸ ht⟩
  | cons c cs =>
    rw [hc] at hl hn ht
    obtain ⟨ha, hs⟩ := List.forall_mem_cons.mp hn
    constructor
    · rw [hl]
      exact List.forall_mem_cons.mpr ⟨(isAlphanum_toLower c).trans ha, hs⟩
    · rw [hl, ← ht]
      simp only [List.modifyHead_cons, List.map_cons, toLower_toLower]

lemma camelCase_append_dividers (x y : String) {s : String} (hs : s ≠ "")
    (hd : ∀ c ∈ s.toList, divides c = true) :
    camelCase (x ++ s ++ y) = camelCase x ++ camelCase y := by
  obtain ⟨c, cs, hc⟩ := List.exists_cons_of_ne_nil (mt String.toList_eq_nil_iff.mp hs)
  rw [hc] at hd
  obtain ⟨hc', hcs⟩ := List.forall_mem_cons.mp hd
  apply String.toList_inj.mp
  calc (camelCase (x ++ s ++ y)).toList
      = joinWords true (x.toList ++ c :: (cs ++ y.toList)) := by
        rw [toList_camelCase, String.toList_append, String.toList_append, hc, List.append_assoc,
          List.cons_append]
    _ = joinWords true x.toList ++ joinWords true (cs ++ y.toList) :=
        joinWords_append_divider hc' _ _
    _ = joinWords true x.toList ++ joinWords true y.toList := by rw [joinWords_dividers hcs]
    _ = (camelCase x ++ camelCase y).toList := by
        rw [String.toList_append, toList_camelCase, toList_camelCase]

/-- A name in camel case is made of the words of a text, which are what is left between spaces when
each run of other characters than Latin letters and digits is made one space; each word begins in
upper case. So names are joined where texts are joined with such a run between them. The first
character of a name is a Latin letter or a digit, and its lower case is one character. -/
theorem camelCase_wordwise (x : String) :
    camelCase x = String.ofList (((spaced x.toList).splitOn ' ').flatMap capitalize) ∧
    (∀ s y : String, s ≠ "" → (∀ c ∈ s.toList, c.isAlphanum = false) →
      camelCase (x ++ s ++ y) = camelCase x ++ camelCase y) ∧
    Condenses (camelCase x) x ∧
    camelCase (camelCase x) = camelCase x ∧
    Condenses (lowerCamelCase x) x ∧
    (lowerCamelCase x).toList = (camelCase x).toList.modifyHead Char.toLower := by
  have hl := toList_lowerCamelCase x
  have hc := condenses_camelCase x
  refine ⟨?_, ?_, hc, ?_, hc.lowerHead hl, hl⟩
  · rw [camelCase, joinWords_eq_spaced]
  · intro s y hs ha
    exact camelCase_append_dividers x y hs fun c h => divides_iff.mpr (ha c h)
  · apply String.toList_inj.mp
    rw [toList_camelCase, toList_camelCase, joinWords_joinWords]

theorem camelCase_wordwise_sample :
    "_-é " ≠ "" ∧ (∀ c ∈ "_-é ".toList, c.isAlphanum = false) ∧
    camelCase "ßsubmit btn" = "SubmitBtn" ∧ camelCase "touch end2_" = "TouchEnd2" ∧
    camelCase ("ßsubmit btn" ++ "_-é " ++ "touch end2_") = "SubmitBtn" ++ "TouchEnd2" := by
  have hs : "_-é " ≠ "" := by decide
  have hd : "_-é ".toList.all divides = true := by decide
  have ha : ∀ c ∈ "_-é ".toList, c.isAlphanum = false := fun c hc =>
    divides_iff.mp (List.all_eq_true.mp hd c hc)
  have hx : camelCase "ßsubmit btn" = "SubmitBtn" := by decide +kernel
  have hy : camelCase "touch end2_" = "TouchEnd2" := by decide +kernel
  have hj := (camelCase_wordwise "ßsubmit btn").2.1 "_-é " "touch end2_" hs ha
  rw [hx, hy] at hj
  exact ⟨hs, ha, hx, hy, hj⟩

end LayoutSync.Source
