import LayoutSync.Json.Printer
import LayoutSync.Json.Reader
import Mathlib.Tactic.Lemma

/-!
Numbers in text. Integers that were read fit into 64 bits, and such integers are read as they are
written; a real may differ from the one it reads back as.
-/

namespace LayoutSync.Json

-- Powers are those of the core library, whatever else is imported.
attribute [local instance(high)] instPowNat

def FollowsValue (r : List Char) : Prop := ∃ s, r = ',' :: s ∨ r = '\n' :: s

def Number.ReadsBack (n : Number) : Prop :=
  ∀ r, FollowsValue r → readScalar (printNumber n ++ r) = .ok (.number n, r)

def Number.InRange : Number → Prop
  | .integer i => -2 ^ (63 : Nat) ≤ i ∧ i < 2 ^ (64 : Nat)
  | .real _ => True

def Number.IsInteger : Number → Prop
  | .integer _ => True
  | .real _ => False

section Digits

variable {ds r : List Char}

lemma followsValue_head (h : FollowsValue r) :
    startsWithDigit r = false ∧ skipDigits r = r ∧ r.takeWhile Char.isDigit = [] := by
  obtain ⟨s, rfl | rfl⟩ := h
  · exact ⟨rfl, rfl, rfl⟩
  · exact ⟨rfl, rfl, rfl⟩

lemma readDigits_stop (h : FollowsValue r) (bound n count : Nat) :
    readDigits bound n count r = (n, count, r) := by
  obtain ⟨s, rfl | rfl⟩ := h
  · exact if_neg (fun hd => absurd hd.1 (by decide))
  · exact if_neg (fun hd => absurd hd.1 (by decide))

lemma le_ofDigitChars (ds : List Char) (n : Nat) : n ≤ Nat.ofDigitChars 10 ds n := by
  induction ds generalizing n with
  | nil => exact Nat.le_refl n
  | cons d ds ih =>
    refine Nat.le_trans ?_ (ih (10 * n + (d.toNat - '0'.toNat)))
    omega

lemma readDigits_digits (hd : ∀ d ∈ ds, d.isDigit = true) (hr : FollowsValue r) (bound : Nat) {n : Nat}
    (h : Nat.ofDigitChars 10 ds n < bound) (count : Nat) :
    readDigits bound n count (ds ++ r) = (Nat.ofDigitChars 10 ds n, count + ds.length, r) := by
  induction ds generalizing n count with
  | nil => exact readDigits_stop hr bound n count
  | cons d ds ih =>
    have hn : 10 * n + digitValue d < bound := Nat.lt_of_le_of_lt (le_ofDigitChars ds _) h
    have hc : d.isDigit = true ∧ 10 * n + digitValue d < bound := ⟨hd d (by simp), hn⟩
    have hi := ih (fun e he => hd e (by simp [he])) h (count + 1)
    rw [List.cons_append, readDigits, if_pos hc]
    apply hi.trans
    rw [List.length_cons, Nat.add_assoc, Nat.add_comm 1]
    rfl

lemma toDigits_head {n : Nat} (hn : 0 < n) : ∃ c ds, Nat.toDigits 10 n = c :: ds ∧ c ≠ '0' := by
  induction n using Nat.strongRecOn with
  | ind n ih =>
    rw [Nat.toDigits_eq_if (by decide)]
    split
    next h =>
      refine ⟨Nat.digitChar n, [], rfl, ?_⟩
      have hd : ∀ m < 10, 0 < m → Nat.digitChar m ≠ '0' := by decide
      exact hd n h hn
    next h =>
      obtain ⟨c, ds, hc, hz⟩ := ih (n / 10) (by omega) (by omega)
      exact ⟨c, ds ++ [Nat.digitChar (n % 10)], by rw [hc]; rfl, hz⟩

lemma isDigit_toDigits {n : Nat} : ∀ d ∈ Nat.toDigits 10 n, d.isDigit = true :=
  fun _ hd => Nat.isDigit_of_mem_toDigits (by decide) (by decide) hd

lemma readScale_stop (hr : FollowsValue r) (negative : Bool) (n : Nat) :
    readScale negative n 0 r = .ok (integer negative n, r) := by
  obtain ⟨s, rfl | rfl⟩ := hr
  · rfl
  · rfl

lemma readMagnitude_digits {n : Nat} (h : n < 2 ^ (64 : Nat)) (hr : FollowsValue r) (negative : Bool) :
    readMagnitude negative (Nat.toDigits 10 n ++ r) = .ok (integer negative n, r) := by
  obtain ⟨hs, hk, ht⟩ := followsValue_head hr
  rcases Nat.eq_zero_or_pos n with rfl | hn
  · rw [Nat.toDigits_zero, List.singleton_append, readMagnitude, if_pos rfl, hs]
    exact readScale_stop hr negative 0
  · obtain ⟨c, ds, hc, hz⟩ := toDigits_head hn
    have hd : c.isDigit = true := isDigit_toDigits c (by rw [hc]; simp)
    have hv : Nat.ofDigitChars 10 (c :: ds) 0 = n := hc ▸ Nat.ofDigitChars_ten_toDigits
    have hrd := readDigits_digits (hc ▸ isDigit_toDigits) hr (2 ^ (64 : Nat)) (hv.symm ▸ h) 0
    rw [List.cons_append] at hrd
    rw [hc, List.cons_append, readMagnitude, if_neg hz, if_pos hd, hrd]
    dsimp only
    rw [hk, ht, hv]
    exact readScale_stop hr negative n

end Digits

lemma readScalar_digit {c : Char} (h : c.isDigit = true) (r : List Char) :
    readScalar (c :: r) =
      (do let (n, r) ← readMagnitude false (c :: r); return (.number n, r)) := by
  unfold readScalar
  split
  next he => obtain ⟨rfl, _⟩ := List.cons.inj he; exact absurd h (by decide)
  next he => obtain ⟨rfl, _⟩ := List.cons.inj he; exact absurd h (by decide)
  next he => obtain ⟨rfl, _⟩ := List.cons.inj he; exact absurd h (by decide)
  next he => obtain ⟨rfl, _⟩ := List.cons.inj he; exact absurd h (by decide)
  next he => obtain ⟨rfl, _⟩ := List.cons.inj he; exact absurd h (by decide)
  · exact if_pos (show startsWithDigit (c :: r) = true from h)

lemma printNumber_ofNat (n : Nat) : printNumber (.integer n) = Nat.toDigits 10 n :=
  Nat.toList_repr

lemma printNumber_neg (n : Nat) :
    printNumber (.integer (Int.negSucc n)) = '-' :: Nat.toDigits 10 (n + 1) := by
  have h : toString (Int.negSucc n) = "-" ++ (n + 1).repr := rfl
  rw [printNumber, h, String.toList_append, Nat.toList_repr]
  rfl

lemma readsBack_of_inRange {i : Int} (h : (Number.integer i).InRange) :
    (Number.integer i).ReadsBack := by
  intro r hr
  obtain ⟨hl, hu⟩ := h
  cases i with
  | ofNat n =>
    simp only [Int.ofNat_eq_natCast] at hu ⊢
    have hm := readMagnitude_digits (by omega : n < 2 ^ (64 : Nat)) hr false
    obtain ⟨c, ds, hc⟩ := List.exists_cons_of_ne_nil (Nat.toDigits_ne_nil (b := 10) (n := n))
    have hd : c.isDigit = true := isDigit_toDigits c (by rw [hc]; simp)
    rw [printNumber_ofNat]
    rw [hc, List.cons_append] at hm ⊢
    rw [readScalar_digit hd, hm]
    rfl
  | negSucc n =>
    have hn : n + 1 ≤ 2 ^ (63 : Nat) := by omega
    have hm := readMagnitude_digits (by omega : n + 1 < 2 ^ (64 : Nat)) hr true
    have hi : integer true (n + 1) = .integer (Int.negSucc n) := by
      have hz : ¬ (n + 1 = 0 ∨ 2 ^ (63 : Nat) < n + 1) := by omega
      rw [integer, if_pos rfl, if_neg hz]
      rfl
    rw [printNumber_neg, List.cons_append, readScalar, hm, hi]
    rfl

lemma readsBack_of_isInteger {n : Number} (h : n.InRange) (hi : n.IsInteger) : n.ReadsBack := by
  cases n with
  | integer i => exact readsBack_of_inRange h
  | real x => cases hi

section Range

variable {negative : Bool} {digits : Nat} {exponent : Int} {cs r : List Char} {n : Number}

lemma readDigits_lt {bound n : Nat} (h : n < bound) (count : Nat) (cs : List Char) :
    (readDigits bound n count cs).1 < bound := by
  induction cs generalizing n count with
  | nil => exact h
  | cons c cs ih =>
    rw [readDigits]
    split
    next hc => exact ih hc.2 _
    · exact h

lemma integer_inRange (h : digits < 2 ^ (64 : Nat)) : (integer negative digits).InRange := by
  cases negative with
  | false =>
    refine ⟨?_, ?_⟩
    · omega
    · exact_mod_cast h
  | true =>
    rw [integer, if_pos rfl]
    split
    · trivial
    next hd =>
      refine ⟨?_, ?_⟩ <;> omega

def GivesReal (x : Except Fault (Number × List Char)) : Prop :=
  ∀ n r, x = .ok (n, r) → ∃ f, n = .real f

lemma givesReal_error (f : Fault) : GivesReal (.error f) := by
  intro n r h
  cases h

lemma givesReal_ok (f : Float) (r : List Char) : GivesReal (.ok (.real f, r)) := by
  intro n s h
  exact ⟨f, (Prod.mk.inj (Except.ok.inj h)).1.symm⟩

lemma givesReal_finishReal : GivesReal (finishReal negative digits exponent r) := by
  unfold finishReal
  split
  · exact givesReal_ok _ _
  · exact givesReal_error _

lemma givesReal_readExponent : GivesReal (readExponent negative digits exponent cs) := by
  unfold readExponent
  dsimp only
  split
  · exact givesReal_error _
  · split
    · split
      · split
        · exact givesReal_error _
        · exact givesReal_ok _ _
      · exact givesReal_finishReal
    · exact givesReal_error _

lemma givesReal_readExponent? : GivesReal (readExponent? negative digits exponent cs) := by
  unfold readExponent?
  split
  · exact givesReal_finishReal
  · split
    · exact givesReal_readExponent
    · exact givesReal_finishReal

lemma givesReal_readFraction : GivesReal (readFraction negative digits exponent cs) := by
  unfold readFraction
  dsimp only
  split
  · exact givesReal_readExponent?
  · split
    · exact givesReal_error _
    · exact givesReal_readExponent?

lemma inRange_of_givesReal {x : Except Fault (Number × List Char)} (h : GivesReal x)
    (hx : x = .ok (n, r)) : n.InRange := by
  obtain ⟨f, rfl⟩ := h n r hx
  trivial

lemma inRange_of_readScale {dropped : Nat} (hd : digits < 2 ^ (64 : Nat))
    (h : readScale negative digits dropped cs = .ok (n, r)) : n.InRange := by
  unfold readScale at h
  split at h
  · exact inRange_of_givesReal givesReal_readFraction h
  · split at h
    · exact inRange_of_givesReal givesReal_readExponent? h
    · obtain rfl := (Prod.mk.inj (Except.ok.inj h)).1
      exact integer_inRange hd

lemma inRange_of_readMagnitude (h : readMagnitude negative cs = .ok (n, r)) : n.InRange := by
  unfold readMagnitude at h
  split at h
  · cases h
  next c s =>
    split at h
    · split at h
      · cases h
      · exact inRange_of_readScale (by decide) h
    · split at h
      · have hl := readDigits_lt (Nat.two_pow_pos 64) 0 (c :: s)
        generalize readDigits (2 ^ (64 : Nat)) 0 0 (c :: s) = p at h hl
        exact inRange_of_readScale hl h
      · cases h

end Range

end LayoutSync.Json
