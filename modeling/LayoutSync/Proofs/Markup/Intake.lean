import LayoutSync.Proofs.Markup.RoundTrip

namespace LayoutSync.Markup

open Text

def decode (raw : List Char) : Option (List Char) := (unescape raw).toOption

lemma Frame.addData_append (f : Frame) (cs ds : List Char) :
    (f.addData cs).addData ds = f.addData (cs ++ ds) := by
  simp [addData]

namespace Builder

variable (b : Builder)

def addData? (b : Builder) (cs : List Char) : Option Builder :=
  match b.frames with
  | f :: fs => some { b with frames := f.addData cs :: fs }
  | [] => if allBlank cs then some b else none

def take (b : Builder) (x : Event) : Option Builder := (b.step (x, 0)).toOption

def run (b : Builder) (es : List Event) : Option Builder := es.foldlM take b

lemma addData?_nil : b.addData? [] = some b := by
  obtain ⟨frames, root⟩ := b
  cases frames <;> simp [addData?, Frame.addData_nil]

lemma addData?_append (cs ds : List Char) :
    ((b.addData? cs).bind fun c => c.addData? ds) = b.addData? (cs ++ ds) := by
  obtain ⟨frames, root⟩ := b
  cases frames with
  | nil => cases h : allBlank cs <;> simp [addData?, h]
  | cons f fs => simp [addData?, Frame.addData_append]

lemma attach_eq_some_iff {b c : Builder} {e : Element} : (b.attach e).toOption = some c ↔
    (b.frames = [] ∧ b.root = none ∧ c = ⟨[], some e⟩) ∨
      ∃ f fs, b.frames = f :: fs ∧ c = ⟨f.addChild e :: fs, b.root⟩ := by
  obtain ⟨frames, root⟩ := b
  cases frames with
  | nil => cases root <;> simp [attach, Except.toOption, eq_comm]
  | cons f fs => simp [attach, Except.toOption, eq_comm]

lemma addData?_eq_some_iff {b c : Builder} {cs : List Char} : b.addData? cs = some c ↔
    (b.frames = [] ∧ allBlank cs = true ∧ c = b) ∨
      ∃ f fs, b.frames = f :: fs ∧ c = ⟨f.addData cs :: fs, b.root⟩ := by
  obtain ⟨frames, root⟩ := b
  cases frames with
  | nil => cases h : allBlank cs <;> simp [addData?, h, @eq_comm _ c]
  | cons f fs => simp [addData?, @eq_comm _ c]

lemma take_opening (t : Tag) : b.take (.opening t) =
    (element t).toOption.map fun e => { b.settle with frames := ⟨e, []⟩ :: b.settle.frames } := by
  unfold take step
  rw [toOption_bind]
  cases (element t).toOption <;> rfl

lemma take_empty (t : Tag) : b.take (.empty t) =
    (element t).toOption.bind fun e => (b.settle.attach e).toOption :=
  toOption_bind _ _

lemma take_closing (f : Frame) (fs : List Frame) (root : Option Element) :
    (⟨f :: fs, root⟩ : Builder).take .closing = (attach ⟨fs, root⟩ f.finish).toOption :=
  rfl

lemma take_text (raw : List Char) : b.take (.text raw) = (decode raw).bind b.addData? := by
  obtain ⟨frames, root⟩ := b
  cases hu : unescape raw with
  | error f => simp [take, step, decode, hu, Except.toOption]
  | ok cs =>
    cases frames with
    | cons f fs => simp [take, step, decode, addData?, hu, Except.toOption]
    | nil => cases h : allBlank cs <;> simp [take, step, decode, addData?, hu, h, Except.toOption]

lemma take_cdata {b c : Builder} {cs : List Char} (h : b.addData? cs = some c) :
    b.take (.cdata cs) = some c := by
  obtain ⟨frames, root⟩ := b
  obtain ⟨rfl, -, rfl⟩ | ⟨f, fs, rfl, rfl⟩ := addData?_eq_some_iff.mp h <;> rfl

lemma toOption_step (x : Event) (p : Nat) : (b.step (x, p)).toOption = b.take x := by
  cases x with
  | text raw => cases hu : unescape raw <;> simp [take, step, hu, Except.toOption]
  | _ => rfl

lemma toOption_foldlM_step (xs : List (Event × Nat)) :
    (xs.foldlM step b).toOption = b.run (xs.map Prod.fst) := by
  induction xs generalizing b with
  | nil => rfl
  | cons x xs ih =>
    rw [List.foldlM_cons, toOption_bind, toOption_step]
    simp only [ih, run, List.map_cons, List.foldlM_cons]
    rfl

lemma run_cons (x : Event) (es : List Event) :
    b.run (x :: es) = (b.take x).bind fun c => c.run es := by
  rw [run, List.foldlM_cons]
  rfl

lemma run_singleton (x : Event) : b.run [x] = b.take x := by
  rw [run_cons]
  cases b.take x <;> rfl

lemma run_append (es fs : List Event) :
    b.run (es ++ fs) = (b.run es).bind fun c => c.run fs := by
  rw [run, List.foldlM_append]
  rfl

lemma run_concat (es : List Event) (x : Event) :
    b.run (es ++ [x]) = (b.run es).bind fun c => c.take x := by
  simp only [run_append, run_singleton]

lemma finish_eq_ok_iff {d : Document} :
    b.finish = .ok d ↔ b.frames = [] ∧ b.root = some d.root := by
  obtain ⟨frames, root⟩ := b
  obtain ⟨r⟩ := d
  cases frames <;> cases root <;> simp [finish]

end Builder

lemma readEvents_fault {opened : List (List Char)} {p : Nat} {c : Char} {r : List Char} {stop : Stop}
    (h : readMarkup opened (p + 1) c r = .error stop) :
    readEvents opened p ('<' :: c :: r) = ⟨[], some stop⟩ := by
  rw [readEvents.eq_def]
  simp only [if_true]
  split
  next hs =>
    rw [h] at hs
    obtain rfl := Except.error.inj hs
    rfl
  next hs =>
    rw [h] at hs
    cases hs

lemma ofReading_eq_ok_iff {r : Reading} {d : Document} :
    Document.ofReading r = .ok d ↔ r.fault = none ∧
      ∃ b, Builder.empty.run (r.events.map Prod.fst) = some b ∧ b.frames = [] ∧
        b.root = some d.root := by
  rw [← toOption_eq_some, Document.ofReading, toOption_bind, Builder.toOption_foldlM_step]
  cases Builder.empty.run (r.events.map Prod.fst) with
  | none => simp
  | some b =>
    cases r.fault with
    | some stop => simp [Except.toOption]
    | none => simp [toOption_eq_some, Builder.finish_eq_ok_iff]

end LayoutSync.Markup
