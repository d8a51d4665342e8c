import LayoutSync.Proofs.Markup.Intake

/-!
Reading without positions. Where a text stands matters for faults only: what is read from it depends
on the elements that are open and on the builder that takes in the events.
-/

namespace LayoutSync.Markup

open Text

section References

def meant (name : List Char) : Option Char := (resolve 0 0 name).toOption

lemma toOption_charOfCode (start stop n : Nat) :
    (charOfCode start stop n).toOption = (charOfCode 0 0 n).toOption := by
  unfold charOfCode
  split
  · rfl
  · split <;> rfl

lemma toOption_resolve (start stop : Nat) (name : List Char) :
    (resolve start stop name).toOption = meant name := by
  unfold meant resolve
  split
  · simp only [toOption_bind, toOption_charOfCode start stop]
  · simp only [toOption_bind, toOption_charOfCode start stop]
  · split <;> rfl

lemma toOption_unescapeFrom_ended (total p : Nat) {r rest : List Char}
    (h : r.dropWhile (!endsReference ·) = ';' :: rest) :
    (unescapeFrom total p ('&' :: r)).toOption =
      (meant (r.takeWhile (!endsReference ·))).bind fun x => (unescapeFrom total
        (p + 1 + utf8Length (r.takeWhile (!endsReference ·)) + 1) rest).toOption.map (x :: ·) := by
  rw [unescapeFrom.eq_def]
  simp only [if_true]
  split
  next rest' hs =>
    obtain rfl := (List.cons.inj (h.symm.trans hs)).2
    rw [toOption_bind, toOption_resolve]
    congr 1
    funext x
    cases unescapeFrom total (p + 1 + utf8Length (r.takeWhile (!endsReference ·)) + 1) rest <;> rfl
  next hs => exact absurd h (hs rest)

lemma toOption_unescapeFrom_unended (total p : Nat) {r : List Char}
    (h : ∀ rest, r.dropWhile (!endsReference ·) ≠ ';' :: rest) :
    (unescapeFrom total p ('&' :: r)).toOption = none := by
  rw [unescapeFrom.eq_def]
  simp only [if_true]
  rfl

lemma toOption_unescapeFrom_cons (total p : Nat) {c : Char} (h : c ≠ '&') (r : List Char) :
    (unescapeFrom total p (c :: r)).toOption =
      (unescapeFrom total (p + c.utf8Size) r).toOption.map (c :: ·) := by
  rw [unescapeFrom.eq_def]
  simp only [h, if_false]
  cases unescapeFrom total (p + c.utf8Size) r <;> rfl

lemma toOption_unescapeFrom (total total' p p' : Nat) (cs : List Char) :
    (unescapeFrom total p cs).toOption = (unescapeFrom total' p' cs).toOption := by
  induction p, cs using unescapeFrom.induct generalizing p' with
  | case1 p => simp [unescapeFrom]
  | case2 p r name rest hd stop ih =>
    rw [toOption_unescapeFrom_ended total p hd, toOption_unescapeFrom_ended total' p' hd]
    congr 1
    funext x
    rw [ih]
  | case3 p r hd =>
    rw [toOption_unescapeFrom_unended total p hd, toOption_unescapeFrom_unended total' p' hd]
  | case4 p c r hc ih =>
    rw [toOption_unescapeFrom_cons total p hc, toOption_unescapeFrom_cons total' p' hc, ih]

lemma decode_nil : decode [] = some [] := by
  simp [decode, unescape, unescapeFrom, Except.toOption]

lemma decode_cons {c : Char} (h : c ≠ '&') (r : List Char) :
    decode (c :: r) = (decode r).map (c :: ·) := by
  rw [decode, unescape, toOption_unescapeFrom_cons _ _ h, toOption_unescapeFrom _ (utf8Length r) _ 0]
  rfl

lemma decode_reference {name : List Char} (h : ∀ c ∈ name, endsReference c = false)
    (r : List Char) :
    decode ('&' :: name ++ ';' :: r) = (meant name).bind fun x => (decode r).map (x :: ·) := by
  have hn : ∀ c ∈ name, (!endsReference c) = true := by simpa using h
  have ht : (name ++ ';' :: r).takeWhile (!endsReference ·) = name := takeWhile_run hn rfl
  have hd : (name ++ ';' :: r).dropWhile (!endsReference ·) = ';' :: r := dropWhile_run hn rfl
  rw [decode, unescape, List.cons_append, toOption_unescapeFrom_ended _ _ hd, ht]
  congr 1
  funext x
  rw [toOption_unescapeFrom _ (utf8Length r) _ 0]
  rfl

def Whole (w : List Char) : Prop :=
  ∀ r, decode (w ++ r) = (decode w).bind fun cs => (decode r).map (cs ++ ·)

lemma whole_singleton {c : Char} (h : c ≠ '&') : Whole [c] := by
  intro r
  rw [List.singleton_append, decode_cons h, decode_cons h, decode_nil]
  rfl

lemma whole_reference {name : List Char} (h : ∀ c ∈ name, endsReference c = false) :
    Whole ('&' :: name ++ [';']) := by
  intro r
  rw [List.append_assoc, List.singleton_append, decode_reference h, decode_reference h, decode_nil]
  cases meant name <;> rfl

end References

section Steps

variable (opened : List (List Char)) (p : Nat) (cs : List Char)

structure Found where
  event : Event
  opened : List (List Char)
  rest : List Char

def Step.found (s : Step) : Found := ⟨s.event, s.opened, s.rest⟩

def scan (c : Char) (r : List Char) : Option Found :=
  (readMarkup opened 0 c r).toOption.map Step.found

lemma found_readConstruct (k : Construct) (complete : List Char → Bool) :
    (readConstruct opened p k complete cs).toOption.map Step.found =
      (readBracket complete [] cs).bind fun x =>
        (bangEvent k x.1).toOption.map (⟨·, opened, x.2⟩) := by
  unfold readConstruct
  cases readBracket complete [] cs with
  | none => rfl
  | some x =>
    obtain ⟨content, rest⟩ := x
    simp only [Option.bind_some]
    cases bangEvent k content <;> rfl

lemma found_readBang : (readBang opened p cs).toOption.map Step.found =
    (readBang opened 0 cs).toOption.map Step.found := by
  unfold readBang
  cases cs with
  | nil => rfl
  | cons c r =>
    simp only
    split
    · simp only [found_readConstruct]
    · split
      · simp only [found_readConstruct]
      · split
        · simp only [found_readConstruct]
        · rfl

lemma found_readClosing : (readClosing opened p cs).toOption.map Step.found =
    match opened with
    | [] => none
    | expected :: outer =>
      if closingName (readPlain cs).1 = expected then some ⟨.closing, outer, (readPlain cs).2.2⟩
      else none := by
  unfold readClosing
  cases opened with
  | nil => rfl
  | cons expected outer =>
    simp only
    split <;> rfl

lemma found_readInstruction : (readInstruction opened p cs).toOption.map Step.found =
    if 2 ≤ (readPlain cs).1.length ∧ (readPlain cs).1.getLast? = some '?' then
      some ⟨.aside, opened, (readPlain cs).2.2⟩
    else none := by
  unfold readInstruction
  simp only
  split <;> rfl

lemma found_readOpening : (readOpening opened p cs).found = (readOpening opened 0 cs).found := by
  unfold readOpening
  simp only
  split <;> rfl

lemma found_readMarkup (c : Char) :
    (readMarkup opened p c cs).toOption.map Step.found = scan opened c cs := by
  unfold scan readMarkup
  split
  · exact found_readBang opened p cs
  · split
    · simp only [found_readClosing]
    · split
      · simp only [found_readInstruction]
      · exact congrArg some (found_readOpening opened p (c :: cs))

end Steps

def readFrom (b : Builder) (opened : List (List Char)) (cs : List Char) : Option Document :=
  ((readEvents opened 0 cs).build b).toOption

section Reading

variable (b : Builder) (opened : List (List Char))

lemma toOption_build_markup (p : Nat) (c : Char) (r : List Char) :
    ((readEvents opened p ('<' :: c :: r)).build b).toOption =
      (readMarkup opened (p + 1) c r).toOption.bind fun s => (b.take s.event).bind fun b' =>
        ((readEvents s.opened s.position s.rest).build b').toOption := by
  cases h : readMarkup opened (p + 1) c r with
  | error stop =>
    rw [readEvents_fault h]
    rfl
  | ok s =>
    rw [readEvents_tag opened p h, Reading.build_cons, toOption_bind, Builder.toOption_step]
    rfl

lemma toOption_build_text (p : Nat) {c : Char} (hc : c ≠ '<') (r : List Char) :
    ((readEvents opened p (c :: r)).build b).toOption =
      (b.take (.text (c :: r.takeWhile (· ≠ '<')))).bind fun b' =>
        ((readEvents opened (p + utf8Length (c :: r.takeWhile (· ≠ '<')))
          (r.dropWhile (· ≠ '<'))).build b').toOption := by
  rw [readEvents.eq_def]
  simp only [hc, if_false]
  rw [Reading.build_cons, toOption_bind, Builder.toOption_step]

lemma readEvents_nil (p : Nat) : readEvents opened p [] = ⟨[], none⟩ := by
  rw [readEvents.eq_def]

lemma readEvents_bracket (p : Nat) : readEvents opened p ['<'] = ⟨[], none⟩ := by
  rw [readEvents.eq_def]
  rfl

lemma toOption_build_readEvents (p q : Nat) (cs : List Char) :
    ((readEvents opened p cs).build b).toOption = ((readEvents opened q cs).build b).toOption := by
  induction opened, p, cs using readEvents.induct generalizing b q with
  | case1 opened p => rw [readEvents_nil, readEvents_nil]
  | case2 opened p => rw [readEvents_bracket, readEvents_bracket]
  | case3 opened p c r stop h =>
    have hq : (readMarkup opened (q + 1) c r).toOption.map Step.found = none := by
      rw [found_readMarkup, ← found_readMarkup opened (p + 1), h]
      rfl
    rw [toOption_build_markup, toOption_build_markup, h, Option.map_eq_none_iff.mp hq]
    rfl
  | case4 opened p c r s h ih =>
    -- Both readers find the same; the induction goes on from there, at the two positions.
    have hq : (readMarkup opened (q + 1) c r).toOption.map Step.found = some s.found := by
      rw [found_readMarkup, ← found_readMarkup opened (p + 1), h]
      rfl
    obtain ⟨s', hs', he⟩ := Option.map_eq_some_iff.mp hq
    obtain ⟨event, opened', position, rest⟩ := s
    obtain ⟨rfl, rfl, rfl⟩ : s'.event = event ∧ s'.opened = opened' ∧ s'.rest = rest := by
      simpa [Step.found] using he
    rw [toOption_build_markup, toOption_build_markup, h, hs']
    exact Option.bind_congr fun b' _ => ih b' _
  | case5 opened p c r hc raw rest stop ih =>
    rw [toOption_build_text b opened p hc, toOption_build_text b opened q hc]
    exact Option.bind_congr fun b' _ => ih b' _

lemma readFrom_markup (c : Char) (r : List Char) : readFrom b opened ('<' :: c :: r) =
    (scan opened c r).bind fun s => (b.take s.event).bind fun b' => readFrom b' s.opened s.rest := by
  rw [readFrom, toOption_build_markup, ← found_readMarkup opened 1 r c, Option.bind_map]
  refine Option.bind_congr fun s _ => Option.bind_congr fun b' _ => ?_
  exact toOption_build_readEvents b' s.opened s.position 0 s.rest

lemma readFrom_run (r : List Char) : readFrom b opened r =
    ((decode (r.takeWhile (· ≠ '<'))).bind b.addData?).bind fun b' =>
      readFrom b' opened (r.dropWhile (· ≠ '<')) := by
  have hnil : (decode []).bind b.addData? = some b := by
    rw [decode_nil, Option.bind_some, b.addData?_nil]
  cases r with
  | nil => rw [List.takeWhile_nil, hnil, List.dropWhile_nil, Option.bind_some]
  | cons c r =>
    by_cases hc : c = '<'
    · have ht : (c :: r).takeWhile (· ≠ '<') = [] := List.takeWhile_cons_of_neg (by simp [hc])
      have hd : (c :: r).dropWhile (· ≠ '<') = c :: r := List.dropWhile_cons_of_neg (by simp [hc])
      rw [ht, hd, hnil, Option.bind_some]
    · have ht : (c :: r).takeWhile (· ≠ '<') = c :: r.takeWhile (· ≠ '<') :=
        List.takeWhile_cons_of_pos (by simp [hc])
      have hd : (c :: r).dropWhile (· ≠ '<') = r.dropWhile (· ≠ '<') :=
        List.dropWhile_cons_of_pos (by simp [hc])
      rw [ht, hd, readFrom, toOption_build_text b opened 0 hc, Builder.take_text]
      exact Option.bind_congr fun b' _ => toOption_build_readEvents b' opened _ 0 _

lemma readFrom_whole {w : List Char} (hw : Whole w) (hm : '<' ∉ w) (r : List Char) :
    readFrom b opened (w ++ r) =
      ((decode w).bind b.addData?).bind fun b' => readFrom b' opened r := by
  have hn : ∀ c ∈ w, decide (c ≠ '<') = true := by
    intro c hc
    simpa using ne_of_mem_of_not_mem hc hm
  have ht : (w ++ r).takeWhile (· ≠ '<') = w ++ r.takeWhile (· ≠ '<') :=
    List.takeWhile_append_of_pos hn
  have hd : (w ++ r).dropWhile (· ≠ '<') = r.dropWhile (· ≠ '<') := List.dropWhile_append_of_pos hn
  rw [readFrom_run, ht, hd, hw]
  simp only [readFrom_run _ opened r]
  cases decode w with
  | none => rfl
  | some cs =>
    cases decode (r.takeWhile (· ≠ '<')) with
    | none => simp
    | some ds =>
      simp only [Option.bind_some, Option.map_some, ← b.addData?_append cs ds, Option.bind_assoc]

end Reading

end LayoutSync.Markup
