import LayoutSync.Proofs.Markup.Intake

/-!
The grammar of documents. An element is an empty tag, or an opening tag, a run of data, children
with a run of data after each, and a closing tag. A builder ends with a document exactly if its
events are those of one element, with nothing but blanks around it; and then the document is this
element.
-/

namespace LayoutSync.Markup

open Text

inductive Run : List Event → List Char → Prop
  | nil : Run [] []
  | text {raw cs ds : List Char} {es : List Event} (reads : unescape raw = .ok cs) (rest : Run es ds) :
      Run (.text raw :: es) (cs ++ ds)
  | cdata {cs ds : List Char} {es : List Event} (rest : Run es ds) : Run (.cdata cs :: es) (cs ++ ds)
  | aside {ds : List Char} {es : List Event} (rest : Run es ds) : Run (.aside :: es) ds

inductive Outside : List Event → Prop
  | nil : Outside []
  | text {raw cs : List Char} {es : List Event} (reads : unescape raw = .ok cs)
      (blank : allBlank cs = true) (rest : Outside es) : Outside (.text raw :: es)
  | cdata {cs : List Char} {es : List Event} (rest : Outside es) : Outside (.cdata cs :: es)
  | aside {es : List Event} (rest : Outside es) : Outside (.aside :: es)

def keptBetween (cs : List Char) : Option String :=
  if allBlank cs then none else some (String.ofList cs)

def keptInLeaf (cs : List Char) : Option String :=
  if cs.isEmpty then none else some (String.ofList cs)

structure Part where
  events : List Event
  child : Element
  after : List Event
  data : List Char

namespace Part

def all (p : Part) : List Event := p.events ++ p.after

def placed (p : Part) : Element := { p.child with tail := keptBetween p.data }

end Part

/-- The events of an element and what is read from them. -/
inductive Reads : List Event → Element → Prop
  | empty {t : Tag} {as : Dict String} (attributes : t.attributes = .ok as) :
      Reads [.empty t] { tag := String.ofList t.name, attributes := as }
  | element {t : Tag} {as : Dict String} {es : List Event} {cs : List Char} {parts : List Part}
      (attributes : t.attributes = .ok as) (data : Run es cs)
      (children : ∀ p ∈ parts, Reads p.events p.child) (runs : ∀ p ∈ parts, Run p.after p.data) :
      Reads (.opening t :: es ++ parts.flatMap Part.all ++ [.closing])
        { tag := String.ofList t.name
          attributes := as
          text := if parts.isEmpty then keptInLeaf cs else keptBetween cs
          children := parts.map Part.placed }

def ReadsDocument (es : List Event) (d : Document) : Prop :=
  ∃ before inner after, es = before ++ inner ++ after ∧ Outside before ∧ Reads inner d.root ∧
    Outside after

namespace Run

variable {es fs : List Event} {cs ds : List Char}

lemma append (h : Run es cs) (h' : Run fs ds) : Run (es ++ fs) (cs ++ ds) := by
  induction h with
  | nil => exact h'
  | text reads _ ih => exact List.append_assoc _ _ ds ▸ .text reads ih
  | cdata _ ih => exact List.append_assoc _ _ ds ▸ .cdata ih
  | aside _ ih => exact .aside ih

end Run

namespace Outside

variable {es fs : List Event}

lemma append (h : Outside es) (h' : Outside fs) : Outside (es ++ fs) := by
  induction h with
  | nil => exact h'
  | text reads blank _ ih => exact .text reads blank ih
  | cdata _ ih => exact .cdata ih
  | aside _ ih => exact .aside ih

end Outside

namespace Frame

def takeParts (f : Frame) (ps : List Part) : Frame :=
  ps.foldl (fun f p => (f.settle.addChild p.child).addData p.data) f

def started (t : Tag) (as : Dict String) (cs : List Char) : Frame :=
  ⟨{ tag := String.ofList t.name, attributes := as }, cs⟩

lemma takeParts_concat (f : Frame) (ps : List Part) (p : Part) :
    f.takeParts (ps ++ [p]) = ((f.takeParts ps).settle.addChild p.child).addData p.data := by
  rw [takeParts, List.foldl_append]
  rfl

lemma flush_addPart (f : Frame) {c : Element} (hc : c.tail = none) (cs : List Char) :
    ((f.settle.addChild c).addData cs).flush =
      { f.flush with children := f.flush.children ++ [{ c with tail := keptBetween cs }] } := by
  obtain ⟨tag, attributes, text, tail, children⟩ := c
  obtain rfl : tail = none := hc
  unfold flush keptBetween
  cases h : allBlank cs <;> simp [settle, addChild, addData, appendTo, h, flush]

lemma flush_takeParts (f : Frame) {ps : List Part} (h : ∀ p ∈ ps, p.child.tail = none) :
    (f.takeParts ps).flush =
      { f.flush with children := f.flush.children ++ ps.map Part.placed } := by
  induction ps using List.reverseRecOn with
  | nil =>
    rw [List.map_nil, List.append_nil]
    cases hf : f.flush
    exact hf
  | append_singleton ps p ih =>
    obtain ⟨hps, hp⟩ := List.forall_mem_append.mp h
    rw [takeParts_concat, flush_addPart _ (hp p (List.mem_singleton_self p)), ih hps,
      List.map_append, ← List.append_assoc]
    rfl

lemma finish_takeParts (t : Tag) (as : Dict String) (cs : List Char) {ps : List Part}
    (h : ∀ p ∈ ps, p.child.tail = none) :
    ((started t as cs).takeParts ps).finish =
      { tag := String.ofList t.name
        attributes := as
        text := if ps.isEmpty then keptInLeaf cs else keptBetween cs
        children := ps.map Part.placed } := by
  have hflush : (started t as cs).flush =
      { tag := String.ofList t.name, attributes := as, text := keptBetween cs } := by
    unfold flush started keptBetween
    cases allBlank cs <;> simp [appendTo]
  cases ps using List.reverseRecOn with
  | nil => rfl
  | append_singleton ps p =>
    have hc : ((started t as cs).takeParts (ps ++ [p])).element.children.isEmpty = false := by
      rw [takeParts_concat]
      simp [addData, addChild]
    have he : (ps ++ [p]).isEmpty = false := by simp
    simp only [finish, hc, he, Bool.false_eq_true, if_false, flush_takeParts _ h, hflush,
      List.nil_append]

end Frame

section Taken

variable {es fs : List Event} {cs : List Char} {e : Element}

lemma Run.run (h : Run es cs) (f : Frame) (fs : List Frame) (root : Option Element) :
    (⟨f :: fs, root⟩ : Builder).run es = some ⟨f.addData cs :: fs, root⟩ := by
  induction h generalizing f with
  | nil =>
    rw [f.addData_nil]
    rfl
  | @text raw cs ds es reads _ ih =>
    have hd : decode raw = some cs := toOption_eq_some.mpr reads
    rw [Builder.run_cons, Builder.take_text, hd, ← f.addData_append cs]
    exact ih (f.addData cs)
  | @cdata cs ds es _ ih =>
    rw [Builder.run_cons, ← f.addData_append cs]
    exact ih (f.addData cs)
  | aside _ ih =>
    rw [Builder.run_cons]
    exact ih f

lemma Outside.run (h : Outside es) (root : Option Element) :
    (⟨[], root⟩ : Builder).run es = some ⟨[], root⟩ := by
  induction h with
  | nil => rfl
  | @text raw cs es reads blank _ ih =>
    have hd : decode raw = some cs := toOption_eq_some.mpr reads
    rw [Builder.run_cons, Builder.take_text, hd]
    simpa [Builder.addData?, blank] using ih
  | cdata _ ih =>
    rw [Builder.run_cons]
    exact ih
  | aside _ ih =>
    rw [Builder.run_cons]
    exact ih

lemma Reads.tail_eq_none (h : Reads es e) : e.tail = none := by
  cases h <;> rfl

lemma toOption_element_iff {t : Tag} : (Builder.element t).toOption = some e ↔
    ∃ as, t.attributes = .ok as ∧ e = { tag := String.ofList t.name, attributes := as } := by
  unfold Builder.element
  cases t.attributes <;> simp [Except.toOption, @eq_comm _ e]

lemma run_parts {ps : List Part}
    (children : ∀ p ∈ ps, ∀ b : Builder, b.run p.events = (b.settle.attach p.child).toOption)
    (runs : ∀ p ∈ ps, Run p.after p.data) (f : Frame) (fs : List Frame) (root : Option Element) :
    (⟨f :: fs, root⟩ : Builder).run (ps.flatMap Part.all) = some ⟨f.takeParts ps :: fs, root⟩ := by
  induction ps using List.reverseRecOn with
  | nil => rfl
  | append_singleton ps p ih =>
    obtain ⟨hps, hp⟩ := List.forall_mem_append.mp children
    obtain ⟨hps', hp'⟩ := List.forall_mem_append.mp runs
    have hchild : (⟨f.takeParts ps :: fs, root⟩ : Builder).run p.events =
        some ⟨(f.takeParts ps).settle.addChild p.child :: fs, root⟩ :=
      hp p (List.mem_singleton_self p) _
    have hafter := (hp' p (List.mem_singleton_self p)).run
      ((f.takeParts ps).settle.addChild p.child) fs root
    rw [List.flatMap_append, List.flatMap_singleton, Builder.run_append, ih hps hps', Part.all,
      Option.bind_some, Builder.run_append, hchild, Option.bind_some, hafter, Frame.takeParts_concat]

lemma Reads.run (h : Reads es e) (b : Builder) : b.run es = (b.settle.attach e).toOption := by
  induction h generalizing b with
  | @empty t as attributes =>
    rw [Builder.run_singleton, Builder.take_empty, toOption_element_iff.mpr ⟨as, attributes, rfl⟩]
    rfl
  | @element t as es cs parts attributes data children runs ih =>
    have hopen : b.take (.opening t) =
        some ⟨Frame.started t as [] :: b.settle.frames, b.settle.root⟩ := by
      rw [Builder.take_opening, toOption_element_iff.mpr ⟨as, attributes, rfl⟩]
      rfl
    have hdata := data.run (Frame.started t as []) b.settle.frames b.settle.root
    have hparts := run_parts ih runs (Frame.started t as cs) b.settle.frames b.settle.root
    have hfinish := Frame.finish_takeParts t as cs fun p hp => (children p hp).tail_eq_none
    rw [List.cons_append, List.cons_append, Builder.run_cons, hopen, Option.bind_some,
      Builder.run_append, Builder.run_append, hdata, Option.bind_some]
    change (Option.bind (Builder.run ⟨Frame.started t as cs :: _, _⟩ _) _) = _
    rw [hparts, Option.bind_some, Builder.run_singleton, Builder.take_closing, hfinish]

end Taken

section Explained

def Opened (es : List Event) (f : Frame) : Prop :=
  ∃ (t : Tag) (as : Dict String) (ds : List Event) (cs : List Char) (ps : List Part),
    t.attributes = .ok as ∧ Run ds cs ∧ (∀ p ∈ ps, Reads p.events p.child) ∧
      (∀ p ∈ ps, Run p.after p.data) ∧ es = .opening t :: ds ++ ps.flatMap Part.all ∧
      f = (Frame.started t as cs).takeParts ps

inductive Enclosing : List Event → List Frame → Prop
  | nil : Enclosing [] []
  | cons {es gs : List Event} {f : Frame} {fs : List Frame} (outer : Enclosing es fs)
      (opened : Opened gs f) : Enclosing (es ++ gs) (f.settle :: fs)

def Standing (es : List Event) : List Frame → Prop
  | [] => es = []
  | f :: fs => ∃ outer inner, es = outer ++ inner ∧ Enclosing outer fs ∧ Opened inner f

def Rooted (es : List Event) : Option Element → Prop
  | none => Outside es
  | some e => ReadsDocument es ⟨e⟩

def Builder.Explains (b : Builder) (es : List Event) : Prop :=
  ∃ before inside, es = before ++ inside ∧ Rooted before b.root ∧ Standing inside b.frames

variable {es gs : List Event} {f : Frame} {cs : List Char}

namespace Opened

lemma start {t : Tag} {as : Dict String} (h : t.attributes = .ok as) :
    Opened [.opening t] (Frame.started t as []) :=
  ⟨t, as, [], [], [], h, .nil, by simp, by simp, rfl, rfl⟩

lemma addChild (h : Opened es f) {c : Element} (hc : Reads gs c) :
    Opened (es ++ gs) (f.settle.addChild c) := by
  obtain ⟨t, as, ds, ws, ps, ha, hd, hps, hruns, rfl, rfl⟩ := h
  refine ⟨t, as, ds, ws, ps ++ [⟨gs, c, [], []⟩], ha, hd, ?_, ?_, ?_, ?_⟩
  · exact List.forall_mem_append.mpr ⟨hps, by simpa using hc⟩
  · exact List.forall_mem_append.mpr ⟨hruns, by simpa using Run.nil⟩
  · simp [Part.all]
  · rw [Frame.takeParts_concat, Frame.addData_nil]

lemma addData (h : Opened es f) (hg : Run gs cs) : Opened (es ++ gs) (f.addData cs) := by
  obtain ⟨t, as, ds, ws, ps, ha, hd, hps, hruns, rfl, rfl⟩ := h
  cases ps using List.reverseRecOn with
  | nil => exact ⟨t, as, ds ++ gs, ws ++ cs, [], ha, hd.append hg, by simp, by simp, by simp, rfl⟩
  | append_singleton ps p =>
    -- The data goes to what was read after the last child.
    obtain ⟨hps, hp⟩ := List.forall_mem_append.mp hps
    obtain ⟨hruns, hrun⟩ := List.forall_mem_append.mp hruns
    refine ⟨t, as, ds, ws, ps ++ [⟨p.events, p.child, p.after ++ gs, p.data ++ cs⟩], ha, hd,
      ?_, ?_, ?_, ?_⟩
    · exact List.forall_mem_append.mpr ⟨hps, by simpa using hp⟩
    · refine List.forall_mem_append.mpr ⟨hruns, ?_⟩
      simpa using (hrun p (List.mem_singleton_self p)).append hg
    · simp [Part.all]
    · rw [Frame.takeParts_concat, Frame.takeParts_concat, Frame.addData_append]

lemma finish (h : Opened es f) : Reads (es ++ [.closing]) f.finish := by
  obtain ⟨t, as, ds, ws, ps, ha, hd, hps, hruns, rfl, rfl⟩ := h
  rw [Frame.finish_takeParts t as ws fun p hp => (hps p hp).tail_eq_none]
  exact .element ha hd hps hruns

end Opened

lemma Standing.settle {b : Builder} (h : Standing es b.frames) : Enclosing es b.settle.frames := by
  obtain ⟨frames, root⟩ := b
  cases frames with
  | nil =>
    obtain rfl : es = [] := h
    exact .nil
  | cons f fs =>
    obtain ⟨outer, inner, rfl, houter, hinner⟩ := h
    exact houter.cons hinner

lemma Rooted.append {root : Option Element} (h : Rooted es root) (hg : Outside gs) :
    Rooted (es ++ gs) root := by
  cases root with
  | none => exact Outside.append h hg
  | some e =>
    obtain ⟨before, inner, after, rfl, hb, hi, ha⟩ := h
    exact ⟨before, inner, after ++ gs, by simp, hb, hi, ha.append hg⟩

namespace Builder

variable {b c : Builder}

lemma settle_root (b : Builder) : b.settle.root = b.root := by
  obtain ⟨frames, root⟩ := b
  cases frames <;> rfl

lemma explains_attach {before outer : List Event} {e : Element} (hroot : Rooted before b.root)
    (houter : Enclosing outer b.frames) (he : Reads gs e) (hc : (b.attach e).toOption = some c) :
    c.Explains (before ++ outer ++ gs) := by
  obtain ⟨hf, hr, rfl⟩ | ⟨f, fs, hf, rfl⟩ := attach_eq_some_iff.mp hc
  · rw [hf] at houter
    rw [hr] at hroot
    cases houter
    exact ⟨before ++ gs, [], by simp, ⟨before, gs, [], by simp, hroot, he, .nil⟩, rfl⟩
  · rw [hf] at houter
    cases houter with
    | @cons es ys f fs houter hopened =>
      exact ⟨before, es ++ (ys ++ gs), by simp, hroot, es, ys ++ gs, rfl, houter,
        hopened.addChild he⟩

lemma Explains.outside (h : b.Explains es) (hb : b.frames = []) (hg : Outside gs) :
    b.Explains (es ++ gs) := by
  obtain ⟨before, inside, rfl, hroot, hs⟩ := h
  rw [hb] at hs
  obtain rfl : inside = [] := hs
  exact ⟨before ++ gs, [], by simp, hroot.append hg, by rw [hb]; rfl⟩

lemma Explains.inside (h : b.Explains es) {fs : List Frame} (hb : b.frames = f :: fs)
    (hg : Run gs cs) : Explains { b with frames := f.addData cs :: fs } (es ++ gs) := by
  obtain ⟨before, inside, rfl, hroot, hs⟩ := h
  rw [hb] at hs
  obtain ⟨outer, inner, rfl, houter, hinner⟩ := hs
  exact ⟨before, outer ++ (inner ++ gs), by simp, hroot, outer, inner ++ gs, rfl, houter,
    hinner.addData hg⟩

lemma Explains.take (h : b.Explains es) {x : Event} (hc : b.take x = some c) :
    c.Explains (es ++ [x]) := by
  cases x with
  | opening t =>
    rw [take_opening] at hc
    obtain ⟨e, he, rfl⟩ := Option.map_eq_some_iff.mp hc
    obtain ⟨as, ha, rfl⟩ := toOption_element_iff.mp he
    obtain ⟨before, inside, rfl, hroot, hs⟩ := h
    refine ⟨before, inside ++ [.opening t], by simp, ?_, inside, [.opening t], rfl, hs.settle,
      .start ha⟩
    rw [settle_root]
    exact hroot
  | empty t =>
    rw [take_empty] at hc
    obtain ⟨e, he, hc⟩ := Option.bind_eq_some_iff.mp hc
    obtain ⟨as, ha, rfl⟩ := toOption_element_iff.mp he
    obtain ⟨before, inside, rfl, hroot, hs⟩ := h
    exact explains_attach (by rwa [settle_root]) hs.settle (.empty ha) hc
  | closing =>
    obtain ⟨frames, root⟩ := b
    cases frames with
    | nil => cases hc
    | cons f fs =>
      obtain ⟨before, inside, rfl, hroot, outer, inner, rfl, houter, hinner⟩ := h
      -- The innermost element is complete, and goes to the one around it.
      have he := explains_attach (b := ⟨fs, root⟩) hroot houter hinner.finish hc
      simpa using he
  | text raw =>
    rw [take_text] at hc
    obtain ⟨ds, hd, hc⟩ := Option.bind_eq_some_iff.mp hc
    have hu := toOption_eq_some.mp hd
    obtain ⟨hb, hblank, rfl⟩ | ⟨f, fs, hb, rfl⟩ := addData?_eq_some_iff.mp hc
    · exact h.outside hb (.text hu hblank .nil)
    · exact h.inside hb (by simpa using Run.text hu .nil)
  | cdata ds =>
    obtain ⟨frames, root⟩ := b
    cases frames with
    | nil =>
      obtain rfl := Option.some.inj hc
      exact h.outside rfl (.cdata .nil)
    | cons f fs =>
      obtain rfl := Option.some.inj hc
      have hg : Run [.cdata ds] (ds ++ []) := .cdata .nil
      exact h.inside rfl (by simpa using hg)
  | aside =>
    obtain ⟨frames, root⟩ := b
    obtain rfl := Option.some.inj hc
    cases frames with
    | nil => exact h.outside rfl (.aside .nil)
    | cons f fs =>
      have hi := h.inside rfl (.aside .nil)
      rwa [f.addData_nil] at hi

lemma explains_run (h : empty.run es = some b) : b.Explains es := by
  -- From the right, since a builder explains the events up to now and knows of none to come.
  induction es using List.reverseRecOn generalizing b with
  | nil =>
    obtain rfl := Option.some.inj h
    exact ⟨[], [], rfl, .nil, rfl⟩
  | append_singleton es x ih =>
    rw [run_concat] at h
    obtain ⟨c, hc, hb⟩ := Option.bind_eq_some_iff.mp h
    exact (ih hc).take hb

end Builder

end Explained

lemma run_eq_iff_readsDocument {es : List Event} {d : Document} :
    (∃ b, Builder.empty.run es = some b ∧ b.frames = [] ∧ b.root = some d.root) ↔
      ReadsDocument es d := by
  constructor
  · rintro ⟨b, hb, hf, hr⟩
    obtain ⟨before, inside, rfl, hroot, hs⟩ := Builder.explains_run hb
    rw [hf] at hs
    obtain rfl : inside = [] := hs
    rw [hr] at hroot
    rw [List.append_nil]
    exact hroot
  · rintro ⟨before, inner, after, rfl, hb, hi, ha⟩
    refine ⟨⟨[], some d.root⟩, ?_, rfl, rfl⟩
    have hbefore : Builder.empty.run before = some Builder.empty := hb.run none
    have hinner : Builder.empty.run inner = some ⟨[], some d.root⟩ := hi.run _
    rw [Builder.run_append, Builder.run_append, hbefore, Option.bind_some, hinner, Option.bind_some]
    exact ha.run _

end LayoutSync.Markup
