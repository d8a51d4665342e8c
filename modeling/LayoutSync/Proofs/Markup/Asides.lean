import LayoutSync.Proofs.Markup.Scanning

/-!
Comments and instructions leave no trace, and marked data stands for plain data. A text is cut between
two tokens, each of which ends where it ends whatever follows; what stands before the cut leaves a
reader in a state that does not know what comes after it.
-/

namespace LayoutSync.Markup

open Text

/-- A character or a reference outside of markup, or markup with the bracket that ends it. -/
inductive Token : List Char → Prop
  | char {c : Char} (plain : c ≠ '<') (whole : c ≠ '&') : Token [c]
  | reference {name : List Char} (plain : '<' ∉ name) (whole : ∀ c ∈ name, endsReference c = false) :
      Token ('&' :: name ++ [';'])
  | comment {r content : List Char}
      (ends : readBracket commentComplete [] ('-' :: r) = some (content, [])) :
      Token ('<' :: '!' :: '-' :: r)
  | cdata {r content : List Char}
      (ends : readBracket cdataComplete [] ('[' :: r) = some (content, [])) :
      Token ('<' :: '!' :: '[' :: r)
  | doctype {c : Char} {r content : List Char} (starts : c = 'D' ∨ c = 'd')
      (ends : readBracket doctypeComplete [] (c :: r) = some (content, [])) :
      Token ('<' :: '!' :: c :: r)
  | closing {content : List Char} (ends : '>' ∉ content) : Token ('<' :: '/' :: content ++ ['>'])
  | instruction {content : List Char} (ends : '>' ∉ content) :
      Token ('<' :: '?' :: content ++ ['>'])
  | tag {c : Char} {r content : List Char} (starts : c ∉ ['!', '/', '?'])
      (ends : readTag none (c :: r) = (content, some [])) : Token ('<' :: c :: r)

inductive Tokens : List Char → Prop
  | nil : Tokens []
  | cons {w v : List Char} (first : Token w) (others : Tokens v) : Tokens (w ++ v)

def comment (body : List Char) : List Char := '<' :: '!' :: '-' :: '-' :: (body ++ ['-', '-', '>'])

def instruction (body : List Char) : List Char := '<' :: '?' :: (body ++ ['?', '>'])

def dataStart : List Char := ['[', 'C', 'D', 'A', 'T', 'A', '[']

def markedData (cs : List Char) : List Char := '<' :: '!' :: (dataStart ++ (cs ++ [']', ']', '>']))

section Ends

variable {cs w r content rest : List Char}

lemma readBracket_append {complete : List Char → Bool} {seen : List Char}
    (h : readBracket complete seen cs = some (content, rest)) (r : List Char) :
    readBracket complete seen (cs ++ r) = some (content, rest ++ r) := by
  induction cs generalizing seen with
  | nil => cases h
  | cons c cs ih =>
    rw [List.cons_append]
    unfold readBracket at h ⊢
    split
    next hc =>
      rw [if_pos hc] at h
      cases h
      rfl
    next hc =>
      rw [if_neg hc] at h
      exact ih h

lemma readTag_append {quote : Option Char} (h : readTag quote cs = (content, some rest))
    (r : List Char) : readTag quote (cs ++ r) = (content, some (rest ++ r)) := by
  induction cs generalizing quote content with
  | nil => cases h
  | cons c cs ih =>
    rw [List.cons_append]
    unfold readTag at h ⊢
    cases quote with
    | some q =>
      simp only [Prod.mk.injEq] at h
      obtain ⟨hc, hr⟩ := h
      rw [← hc]
      simp only [ih (Prod.ext rfl hr)]
    | none =>
      simp only at h ⊢
      split
      next hb =>
        rw [if_pos hb] at h
        cases h
        rfl
      next hb =>
        rw [if_neg hb] at h
        simp only [Prod.mk.injEq] at h
        obtain ⟨hc, hr⟩ := h
        rw [← hc]
        simp only [ih (Prod.ext rfl hr)]

lemma readPlain_bracket (h : '>' ∉ w) (r : List Char) :
    readPlain (w ++ '>' :: r) = (w, utf8Length w + 1, r) := by
  have hn : ∀ c ∈ w, decide (c ≠ '>') = true := by
    intro c hc
    simpa using ne_of_mem_of_not_mem hc h
  have ht : (w ++ '>' :: r).takeWhile (· ≠ '>') = w := takeWhile_run hn (by decide)
  have hd : (w ++ '>' :: r).dropWhile (· ≠ '>') = '>' :: r := dropWhile_run hn (by decide)
  simp only [readPlain, ht, hd]

lemma readBracket_skip {complete : List Char → Bool} {seen : List Char}
    (h : ∀ u v, w = u ++ '>' :: v → complete (u.reverse ++ seen) = false) (r : List Char) :
    readBracket complete seen (w ++ r) = readBracket complete (w.reverse ++ seen) r := by
  induction w generalizing seen with
  | nil => rfl
  | cons c w ih =>
    have hc : ¬ (c = '>' && complete seen) = true := by
      intro hc
      obtain ⟨rfl, hs⟩ : c = '>' ∧ complete seen = true := by simpa using hc
      exact absurd hs (by simp [← h [] w rfl])
    rw [List.cons_append, readBracket, if_neg hc, ih, List.reverse_cons, List.append_assoc]
    · rfl
    · rintro u v rfl
      have := h (c :: u) v rfl
      rwa [List.reverse_cons, List.append_assoc] at this

lemma readBracket_pass {complete : List Char → Bool} {seen : List Char} (h : '>' ∉ w)
    (r : List Char) : readBracket complete seen (w ++ r) = readBracket complete (w.reverse ++ seen) r :=
  readBracket_skip (fun u v hw => absurd (hw ▸ by simp) h) r

end Ends

section Found

variable (opened : List (List Char)) {w content : List Char}

def foundBy (k : Construct) (complete : List Char → Bool) (cs : List Char) : Option Found :=
  (readBracket complete [] cs).bind fun x => (bangEvent k x.1).toOption.map (⟨·, opened, x.2⟩)

lemma scan_comment (r : List Char) :
    scan opened '!' ('-' :: r) = foundBy opened .comment commentComplete ('-' :: r) :=
  found_readConstruct opened 0 ('-' :: r) .comment commentComplete

lemma scan_cdata (r : List Char) :
    scan opened '!' ('[' :: r) = foundBy opened .cdata cdataComplete ('[' :: r) :=
  found_readConstruct opened 0 ('[' :: r) .cdata cdataComplete

lemma scan_doctype {c : Char} (h : c = 'D' ∨ c = 'd') (r : List Char) :
    scan opened '!' (c :: r) = foundBy opened .doctype doctypeComplete (c :: r) := by
  rcases h with rfl | rfl
  · exact found_readConstruct opened 0 ('D' :: r) .doctype doctypeComplete
  · exact found_readConstruct opened 0 ('d' :: r) .doctype doctypeComplete

lemma scan_closing (cs : List Char) : scan opened '/' cs =
    match opened with
    | [] => none
    | expected :: outer =>
      if closingName (readPlain cs).1 = expected then some ⟨.closing, outer, (readPlain cs).2.2⟩
      else none :=
  found_readClosing opened 0 cs

lemma scan_instruction (cs : List Char) : scan opened '?' cs =
    if 2 ≤ (readPlain cs).1.length ∧ (readPlain cs).1.getLast? = some '?' then
      some ⟨.aside, opened, (readPlain cs).2.2⟩
    else none :=
  found_readInstruction opened 0 cs

lemma scan_tag {c : Char} (h : c ∉ ['!', '/', '?']) (r : List Char) :
    scan opened c r = some (readOpening opened 0 (c :: r)).found := by
  simp only [List.mem_cons, List.not_mem_nil, or_false, not_or] at h
  obtain ⟨h1, h2, h3⟩ := h
  simp only [scan, readMarkup, h1, h2, h3, if_false]
  rfl

def Settled (c : Char) (w : List Char) : Prop :=
  ∃ x : Option (Event × List (List Char)), ∀ r, scan opened c (w ++ r) = x.map fun y => ⟨y.1, y.2, r⟩

lemma settled_construct {k : Construct} {complete : List Char → Bool} {c : Char}
    (hs : ∀ r, scan opened '!' (c :: r) = foundBy opened k complete (c :: r))
    (h : readBracket complete [] (c :: w) = some (content, [])) : Settled opened '!' (c :: w) := by
  refine ⟨(bangEvent k content).toOption.map (·, opened), fun r => ?_⟩
  rw [List.cons_append, hs, foundBy, ← List.cons_append, readBracket_append h, Option.bind_some,
    Option.map_map]
  rfl

lemma settled_closing (h : '>' ∉ content) : Settled opened '/' (content ++ ['>']) := by
  have hp : ∀ r, readPlain (content ++ ['>'] ++ r) = (content, utf8Length content + 1, r) := by
    intro r
    rw [List.append_assoc, List.singleton_append, readPlain_bracket h]
  cases opened with
  | nil => exact ⟨none, fun r => scan_closing [] _⟩
  | cons expected outer =>
    refine ⟨if closingName content = expected then some (.closing, outer) else none, fun r => ?_⟩
    rw [scan_closing, hp]
    simp only
    split <;> rfl

lemma settled_instruction (h : '>' ∉ content) : Settled opened '?' (content ++ ['>']) := by
  refine ⟨if 2 ≤ content.length ∧ content.getLast? = some '?' then some (.aside, opened) else none,
    fun r => ?_⟩
  rw [scan_instruction, List.append_assoc, List.singleton_append, readPlain_bracket h]
  simp only
  split <;> rfl

lemma settled_tag {c : Char} (hc : c ∉ ['!', '/', '?'])
    (h : readTag none (c :: w) = (content, some [])) : Settled opened c w := by
  refine ⟨some ((readOpening opened 0 (c :: w)).event, (readOpening opened 0 (c :: w)).opened),
    fun r => ?_⟩
  have ha := readTag_append h r
  rw [List.cons_append] at ha
  rw [scan_tag opened hc]
  simp only [readOpening, ha, h]
  split <;> rfl

end Found

section Passing

def Passes (w : List Char) : Prop :=
  ∀ b opened, ∃ x : Option (Builder × List (List Char)), ∀ r,
    readFrom b opened (w ++ r) = x.bind fun y => readFrom y.1 y.2 r

variable {w v : List Char}

lemma Passes.append (hw : Passes w) (hv : Passes v) : Passes (w ++ v) := by
  intro b opened
  obtain ⟨x, hx⟩ := hw b opened
  cases x with
  | none => exact ⟨none, fun r => by rw [List.append_assoc, hx]; rfl⟩
  | some y =>
    obtain ⟨z, hz⟩ := hv y.1 y.2
    exact ⟨z, fun r => by rw [List.append_assoc, hx, Option.bind_some, hz]⟩

lemma passes_whole (hw : Whole w) (hm : '<' ∉ w) : Passes w := by
  intro b opened
  refine ⟨((decode w).bind b.addData?).map (·, opened), fun r => ?_⟩
  rw [readFrom_whole b opened hw hm, Option.bind_map]
  rfl

lemma passes_settled {c : Char} (h : ∀ opened, Settled opened c w) : Passes ('<' :: c :: w) := by
  intro b opened
  obtain ⟨x, hx⟩ := h opened
  refine ⟨x.bind fun y => (b.take y.1).map (·, y.2), fun r => ?_⟩
  rw [List.cons_append, List.cons_append, readFrom_markup, hx, Option.bind_map]
  cases x with
  | none => rfl
  | some y =>
    rw [Option.bind_some, Option.bind_some, Option.bind_map]
    rfl

lemma Token.passes (h : Token w) : Passes w := by
  cases h with
  | char plain whole => exact passes_whole (whole_singleton whole) (by simpa using plain.symm)
  | reference plain whole => exact passes_whole (whole_reference whole) (by simpa using plain)
  | comment ends =>
    exact passes_settled fun opened => settled_construct opened (scan_comment opened) ends
  | cdata ends =>
    exact passes_settled fun opened => settled_construct opened (scan_cdata opened) ends
  | doctype starts ends =>
    exact passes_settled fun opened => settled_construct opened (scan_doctype opened starts) ends
  | closing ends => exact passes_settled fun opened => settled_closing opened ends
  | instruction ends => exact passes_settled fun opened => settled_instruction opened ends
  | tag starts ends => exact passes_settled fun opened => settled_tag opened starts ends

lemma Tokens.passes (h : Tokens w) : Passes w := by
  induction h with
  | nil => exact fun b opened => ⟨some (b, opened), fun r => rfl⟩
  | cons first _ ih => exact first.passes.append ih

end Passing

section Insertions

variable (b : Builder) (opened : List (List Char)) {body cs : List Char}

lemma readBracket_comment (h : '-' ∉ body) (r : List Char) :
    readBracket commentComplete [] ('-' :: '-' :: (body ++ '-' :: '-' :: '>' :: r)) =
      some ('-' :: '-' :: (body ++ ['-', '-']), r) := by
  -- A bracket in the body does not end the comment, since no dash stands before it.
  have hs : ∀ u v, body = u ++ '>' :: v → commentComplete (u.reverse ++ ['-', '-']) = false := by
    rintro u v rfl
    cases u using List.reverseRecOn with
    | nil => decide
    | append_singleton u x =>
      have hx : '-' ≠ x := by
        rintro rfl
        simp at h
      simp [commentComplete, hx]
  have hc : commentComplete ('-' :: '-' :: (body.reverse ++ ['-', '-'])) = true := by
    have hd : '-'.utf8Size = 1 := rfl
    simp [commentComplete, hd]
    omega
  have hb := readBracket_skip hs ('-' :: '-' :: '>' :: r)
  have hd : ∀ seen r, readBracket commentComplete seen ('-' :: r) =
      readBracket commentComplete ('-' :: seen) r := fun _ _ => rfl
  rw [hd, hd, hb, hd, hd, readBracket, hc]
  simp

lemma readFrom_comment (h : '-' ∉ body) (r : List Char) :
    readFrom b opened (comment body ++ r) = readFrom b opened r := by
  have hc : comment body ++ r = '<' :: '!' :: '-' :: '-' :: (body ++ '-' :: '-' :: '>' :: r) := by
    simp [comment]
  rw [hc, readFrom_markup, scan_comment, foundBy, readBracket_comment h]
  rfl

lemma readFrom_instruction (hn : body ≠ []) (hb : '>' ∉ body) (r : List Char) :
    readFrom b opened (instruction body ++ r) = readFrom b opened r := by
  have hc : instruction body ++ r = '<' :: '?' :: (body ++ ['?'] ++ '>' :: r) := by
    simp [instruction]
  have hp : '>' ∉ body ++ ['?'] := by simpa using hb
  have hl : 2 ≤ (body ++ ['?']).length ∧ (body ++ ['?']).getLast? = some '?' := by
    have := List.length_pos_iff.mpr hn
    simp
    omega
  rw [hc, readFrom_markup, scan_instruction, readPlain_bracket hp, if_pos hl]
  rfl

lemma readBracket_cdata (h : ¬ [']', ']', '>'] <:+: cs) (r : List Char) :
    readBracket cdataComplete [] (dataStart ++ (cs ++ ']' :: ']' :: '>' :: r)) =
      some (dataStart ++ (cs ++ [']', ']']), r) := by
  have hs : ∀ u v, cs = u ++ '>' :: v →
      cdataComplete (u.reverse ++ dataStart.reverse) = false := by
    rintro u v rfl
    by_contra hc
    have hp : [']', ']'] <+: u.reverse ++ dataStart.reverse := by
      simpa [cdataComplete] using hc
    -- Both brackets are data, since no bracket stands at the end of what opens the data.
    cases u using List.reverseRecOn with
    | nil => simp [dataStart] at hp
    | append_singleton u x =>
      cases u using List.reverseRecOn with
      | nil => simp [dataStart] at hp
      | append_singleton u y =>
        obtain ⟨rfl, rfl⟩ : ']' = x ∧ ']' = y := by simpa using hp
        exact h ⟨u, v, by simp⟩
  have hd : ∀ seen r, readBracket cdataComplete seen (']' :: r) =
      readBracket cdataComplete (']' :: seen) r := fun _ _ => rfl
  have hb := readBracket_skip hs (']' :: ']' :: '>' :: r)
  rw [readBracket_pass (by decide), List.append_nil, hb, hd, hd, readBracket]
  simp [cdataComplete]

lemma bangEvent_cdata (cs : List Char) :
    bangEvent .cdata (dataStart ++ (cs ++ [']', ']'])) = .ok (.cdata cs) := by
  have ht : ((dataStart ++ (cs ++ [']', ']'])).take 7).map Char.toUpper = "[CDATA[".toList := by
    have hl : (dataStart ++ (cs ++ [']', ']'])).take 7 = dataStart := rfl
    rw [hl]
    decide
  have hd : ((dataStart ++ (cs ++ [']', ']'])).drop 7).dropLast.dropLast = cs := by
    have hl : (dataStart ++ (cs ++ [']', ']'])).drop 7 = cs ++ [']', ']'] := rfl
    have ha : cs ++ [']', ']'] = cs ++ [']'] ++ [']'] := by simp
    rw [hl, ha, List.dropLast_concat, List.dropLast_concat]
  unfold bangEvent
  simp only [ht, if_true, hd]

lemma readFrom_markedData (h : ¬ [']', ']', '>'] <:+: cs) (r : List Char) :
    readFrom b opened (markedData cs ++ r) =
      (b.take (.cdata cs)).bind fun b' => readFrom b' opened r := by
  have hc : markedData cs ++ r =
      '<' :: '!' :: '[' :: (dataStart.tail ++ (cs ++ ']' :: ']' :: '>' :: r)) := by
    simp [markedData, dataStart]
  have hs : ∀ w, '[' :: (dataStart.tail ++ w) = dataStart ++ w := fun _ => rfl
  rw [hc, readFrom_markup, scan_cdata, foundBy, hs, readBracket_cdata h, Option.bind_some,
    bangEvent_cdata]
  rfl

end Insertions

namespace Document

def OptionalMark (mark cs : List Char) : Prop :=
  mark = ['\ufeff'] ∨ mark = [] ∧ cs.head? ≠ some '\ufeff'

lemma toOption_parse {mark cs : List Char} (h : OptionalMark mark cs) :
    (parse (String.ofList (mark ++ cs))).toOption = readFrom .empty [] cs := by
  have hp : ∀ source, parse source = (Reading.ofText source).build .empty := fun _ => rfl
  rw [hp]
  have ht : Reading.ofText (String.ofList (mark ++ cs)) = readEvents [] 0 cs := by
    rcases h with rfl | ⟨rfl, hn⟩
    · rw [Reading.ofText, String.toList_ofList]
      rfl
    · rw [List.nil_append, Reading.ofText_of_head?, String.toList_ofList]
      rwa [String.toList_ofList]
  rw [ht, readFrom]

lemma OptionalMark.insert {mark pre post x : List Char} (h : OptionalMark mark (pre ++ post))
    (hx : x.head? = some '<') : OptionalMark mark (pre ++ x) := by
  rcases h with rfl | ⟨rfl, hn⟩
  · exact .inl rfl
  · refine .inr ⟨rfl, ?_⟩
    cases pre with
    | nil =>
      rw [List.nil_append, hx]
      decide
    | cons c pre => exact hn

lemma exists_readFrom {mark pre post : List Char} {d : Document}
    (hm : OptionalMark mark (pre ++ post)) (hp : Passes pre)
    (hd : parse (String.ofList (mark ++ (pre ++ post))) = .ok d) :
    ∃ b opened, readFrom b opened post = some d ∧ ∀ x, x.head? = some '<' →
      (parse (String.ofList (mark ++ (pre ++ x)))).toOption = readFrom b opened x := by
  obtain ⟨y, hy⟩ := hp .empty []
  rw [← toOption_eq_some, toOption_parse hm, hy] at hd
  obtain ⟨z, rfl, hz⟩ := Option.bind_eq_some_iff.mp hd
  exact ⟨z.1, z.2, hz, fun x hx => by rw [toOption_parse (hm.insert hx), hy, Option.bind_some]⟩

/--
Comments and instructions after any tokens leave the document as it is, and so does marked data in
the place of what is left of a run of data.
-/
theorem parse_with_asides {mark pre post : List Char} {d : Document}
    (hm : OptionalMark mark (pre ++ post)) (hp : Tokens pre)
    (hd : parse (String.ofList (mark ++ (pre ++ post))) = .ok d) :
    (∀ body, '-' ∉ body →
      parse (String.ofList (mark ++ (pre ++ (comment body ++ post)))) = .ok d) ∧
    (∀ body, body ≠ [] → '?' ∉ body → '>' ∉ body →
      parse (String.ofList (mark ++ (pre ++ (instruction body ++ post)))) = .ok d) ∧
    ∃ cs, unescape (post.takeWhile (· ≠ '<')) = .ok cs ∧ (¬ [']', ']', '>'] <:+: cs →
      parse (String.ofList (mark ++ (pre ++ (markedData cs ++ post.dropWhile (· ≠ '<'))))) =
        .ok d) := by
  obtain ⟨b, opened, hr, hparse⟩ := exists_readFrom hm hp.passes hd
  refine ⟨fun body hb => ?_, fun body hn _ hb => ?_, ?_⟩
  · rw [← toOption_eq_some, hparse _ rfl, readFrom_comment b opened hb, hr]
  · rw [← toOption_eq_some, hparse _ rfl, readFrom_instruction b opened hn hb, hr]
  · rw [readFrom_run] at hr
    obtain ⟨b', hb, hr⟩ := Option.bind_eq_some_iff.mp hr
    obtain ⟨cs, hcs, hb⟩ := Option.bind_eq_some_iff.mp hb
    refine ⟨cs, toOption_eq_some.mp hcs, fun hn => ?_⟩
    rw [← toOption_eq_some, hparse _ rfl, readFrom_markedData b opened hn, Builder.take_cdata hb,
      Option.bind_some, hr]

theorem parse_with_asides_sample :
    let pre := ['<', 'a', '>', 'x', '&', 'a', 'm', 'p', ';']
    let post := ['y', ']', '<', '/', 'a', '>']
    let d : Document := ⟨{ tag := "a", text := some "x&y]" }⟩
    OptionalMark ['\ufeff'] (pre ++ post) ∧ Tokens pre ∧
      parse (String.ofList ('\ufeff' :: (pre ++ post))) = .ok d ∧
      parse (String.ofList ('\ufeff' :: (pre ++ (comment ['>'] ++ post)))) = .ok d ∧
      parse (String.ofList ('\ufeff' :: (pre ++ (instruction [' '] ++ post)))) = .ok d ∧
      parse (String.ofList ('\ufeff' :: (pre ++ (markedData ['y', ']'] ++ ['<', '/', 'a', '>'])))) =
        .ok d := by
  intro pre post d
  have hm : OptionalMark ['\ufeff'] (pre ++ post) := .inl rfl
  have hp : Tokens pre :=
    .cons (.tag (c := 'a') (r := ['>']) (by decide) rfl)
      (.cons (.char (by decide) (by decide))
        (.cons (@Token.reference ['a', 'm', 'p'] (by decide) (by simp [endsReference])) .nil))
  have hd : parse (String.ofList (['\ufeff'] ++ (pre ++ post))) = .ok d :=
    toOption_eq_some.mp (by decide +kernel)
  obtain ⟨hc, hi, cs, hcs, hx⟩ := parse_with_asides hm hp hd
  obtain rfl : ['y', ']'] = cs := by
    have he : unescape ['y', ']'] = .ok ['y', ']'] := toOption_eq_some.mp (by decide +kernel)
    exact Except.ok.inj (he.symm.trans hcs)
  exact ⟨hm, hp, hd, hc ['>'] (by decide), hi [' '] (by decide) (by decide) (by decide),
    hx (by decide)⟩

theorem parse_empty_instruction :
    let pre := ['<', 'a', '>']
    let post := ['<', '/', 'a', '>']
    let d : Document := ⟨{ tag := "a" }⟩
    OptionalMark [] (pre ++ post) ∧ Tokens pre ∧ parse (String.ofList ([] ++ (pre ++ post))) = .ok d ∧
      '?' ∉ ([] : List Char) ∧ '>' ∉ ([] : List Char) ∧
      ∀ e, parse (String.ofList ([] ++ (pre ++ (instruction [] ++ post)))) ≠ .ok e := by
  intro pre post d
  have hp : Tokens pre := .cons (.tag (c := 'a') (r := ['>']) (by decide) rfl) .nil
  have hd : parse (String.ofList ([] ++ (pre ++ post))) = .ok d :=
    toOption_eq_some.mp (by decide +kernel)
  have hn : (parse (String.ofList ([] ++ (pre ++ (instruction [] ++ post))))).toOption = none := by
    decide +kernel
  refine ⟨.inr ⟨rfl, by decide⟩, hp, hd, by decide, by decide, fun e he => ?_⟩
  rw [toOption_eq_some.mpr he] at hn
  cases hn

end Document

end LayoutSync.Markup
