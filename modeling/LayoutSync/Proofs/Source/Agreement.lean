import Mathlib.Data.List.DropRight
import Mathlib.Data.String.Basic
import LayoutSync.Proofs.Source.CamelCase
import LayoutSync.Workspace.Generator

/-!
The modules of one layout fit together. Each event of each view has a member in the interface of
handlers, a listener that is bound to that member, and a hook in the presenter base; the views
whose class can be imported are the same in the binding and in the presenter base.
-/

namespace LayoutSync.Source

open Layout Text Workspace

section Words

def wordAfter (start line : String) : String :=
  String.ofList ((line.toList.drop start.length).takeWhile Char.isAlphanum)

def wordBefore (stop line : String) : String :=
  String.ofList ((line.toList.rdrop stop.length).rtakeWhile Char.isAlphanum)

def signature (line : String) : String := String.ofList (line.toList.dropWhile (· ≠ '('))

variable {w : String}

lemma wordAfter_eq (hw : ∀ c ∈ w.toList, c.isAlphanum = true) (start rest : String)
    (hr : ∀ c ∈ rest.toList.head?, c.isAlphanum = false) :
    wordAfter start (start ++ w ++ rest) = w := by
  have hn : rest.toList.takeWhile Char.isAlphanum = [] := by
    cases h : rest.toList with
    | nil => rfl
    | cons c cs => exact List.takeWhile_cons_of_neg (by simp [hr c (by simp [h])])
  rw [wordAfter, String.toList_append, String.toList_append, List.append_assoc,
    ← String.length_toList, List.drop_left, List.takeWhile_append_of_pos hw, hn, List.append_nil,
    String.ofList_toList]

lemma wordBefore_eq (hw : ∀ c ∈ w.toList, c.isAlphanum = true) (rest stop : String)
    (hr : ∀ c ∈ rest.toList.getLast?, c.isAlphanum = false) :
    wordBefore stop (rest ++ w ++ stop) = w := by
  have hn : rest.toList.reverse.takeWhile Char.isAlphanum = [] := by
    cases h : rest.toList.reverse with
    | nil => rfl
    | cons c cs =>
      refine List.takeWhile_cons_of_neg ?_
      simp [hr c (by rw [← List.head?_reverse, h]; rfl)]
  have hw' : ∀ c ∈ w.toList.reverse, c.isAlphanum = true := fun c hc =>
    hw c (List.mem_reverse.mp hc)
  rw [wordBefore, String.toList_append, String.toList_append, ← String.length_toList, List.rdrop,
    List.length_append, Nat.add_sub_cancel, List.take_left, List.rtakeWhile, List.reverse_append,
    List.takeWhile_append_of_pos hw', hn, List.append_nil, List.reverse_reverse,
    String.ofList_toList]

lemma signature_eq (front rest : String) (hf : '(' ∉ front.toList) :
    signature (front ++ "(" ++ rest) = "(" ++ rest := by
  have hp : ∀ c ∈ front.toList, decide (c ≠ '(') = true := fun c hc => by
    rw [decide_eq_true_eq]
    rintro rfl
    exact hf hc
  rw [signature, String.toList_append, String.toList_append, List.append_assoc,
    List.dropWhile_append_of_pos hp, ← String.toList_inj, String.toList_ofList,
    String.toList_append]
  exact List.dropWhile_cons_of_neg (by decide)

end Words

section Sections

lemma sections_addImports (f : File) (ss : List String) : (f.addImports ss).sections = f.sections := by
  rw [File.addImports]
  induction ss generalizing f with
  | nil => rfl
  | cons s ss ih =>
    rw [List.foldl_cons, ih]
    unfold File.addImport
    split <;> rfl

lemma sections_push (f : File) (name text : String) :
    (f.push name text).sections = f.sections ++ [⟨name, text⟩] := rfl

variable (q : Request)

lemma section?_handler : (eventDispatch q).section? "handler" =
    some (block ("export interface " ++ q.names.handler)
      (q.viewEvents.map fun p => handlerLine p.1 p.2)) := by
  simp [File.section?, eventDispatch, sections_push, sections_addImports]

lemma section?_dispatcher : (eventDispatch q).section? "dispatcher" =
    some (block ("export class " ++ q.names.event)
      (dispatcherMembers q.names (q.viewEvents.map fun p => listenerLine p.1 p.2))) := by
  simp [File.section?, eventDispatch, sections_push, sections_addImports]

lemma section?_binding : (binding q).section? "class" =
    some (block ("class " ++ q.names.binding)
      (bindingMembers q.rootContainer.typeName (q.boundViews.map Prod.fst))) := by
  simp [File.section?, binding, sections_push, sections_addImports]

lemma section?_presenterBase : (presenterBase q).section? "class" =
    some (block ("abstract class " ++ q.names.presenterBase ++ " extends "
      ++ q.presenterBaseClass.typeName) (q.index.views.flatMap (presenterMembers q))) := by
  simp [File.section?, presenterBase, sections_push, sections_addImports]

end Sections

lemma boundViews_eq (q : Request) :
    q.boundViews.map Prod.fst = q.index.views.filter fun v => q.imports.contains v.tag := by
  unfold Request.boundViews
  induction q.index.views with
  | nil => rfl
  | cons v vs ih =>
    have hc : q.imports.contains v.tag = (q.imports.get? v.tag).isSome := rfl
    rw [List.filterMap_cons, List.filter_cons, hc]
    cases q.imports.get? v.tag <;> simp [ih]

lemma eventsOf_eq (r : EventRules) (tag : String) :
    r.eventsOf tag = (r.rules.filter fun rule => rule.1.isMatch tag).flatMap Prod.snd := by
  unfold EventRules.eventsOf
  induction r.rules with
  | nil => rfl
  | cons rule rules ih =>
    rw [List.flatMap_cons, List.filter_cons, ih]
    cases h : rule.1.isMatch tag <;> simp [h]

inductive PresenterMember where
  | field (v : Record)
  | hook (v : Record) (e : ViewEvent)

namespace PresenterMember

def line : PresenterMember → String
  | field v => fieldLine v
  | hook v e => hookLine v e

def field? : PresenterMember → Option Record
  | field v => some v
  | hook _ _ => none

def hook? : PresenterMember → Option (Record × ViewEvent)
  | field _ => none
  | hook v e => some (v, e)

def ofView (q : Request) (v : Record) : List PresenterMember :=
  (if q.imports.contains v.tag then [field v] else []) ++ (q.eventsOf v.tag).map (hook v)

end PresenterMember

open PresenterMember

lemma presenterMembers_eq (q : Request) :
    q.index.views.flatMap (presenterMembers q) =
      (q.index.views.flatMap (ofView q)).map line := by
  rw [List.map_flatMap]
  refine List.flatMap_congr fun v _ => ?_
  unfold presenterMembers ofView
  rw [List.map_append, List.map_map]
  split <;> rfl

lemma hooks_eq (q : Request) :
    (q.index.views.flatMap (ofView q)).filterMap hook? = q.viewEvents := by
  rw [List.filterMap_flatMap, Request.viewEvents]
  refine List.flatMap_congr fun v _ => ?_
  rw [ofView, List.filterMap_append, List.filterMap_map, ← List.filterMap_eq_map]
  split <;> rfl

lemma fields_eq (q : Request) :
    (q.index.views.flatMap (ofView q)).filterMap field? =
      q.index.views.filter fun v => q.imports.contains v.tag := by
  rw [List.filterMap_flatMap]
  induction q.index.views with
  | nil => rfl
  | cons v vs ih =>
    rw [List.flatMap_cons, ih, ofView, List.filterMap_append, List.filterMap_map, List.filter_cons]
    have hn : (q.eventsOf v.tag).filterMap (field? ∘ hook v) = [] :=
      List.filterMap_eq_nil_iff.mpr fun _ _ => rfl
    rw [hn]
    split <;> rfl

lemma indent_one (line : String) : indent 1 line = "    " ++ line := rfl

lemma indent_two (line : String) : indent 2 line = "        " ++ line := rfl

section Lines

variable (v : Record) (e : ViewEvent)

def suffix : String := camelCase v.id ++ camelCase e.handlerName

lemma isAlphanum_suffix : ∀ c ∈ (suffix v e).toList, c.isAlphanum = true := by
  intro c hc
  rw [suffix, String.toList_append, List.mem_append] at hc
  rcases hc with hc | hc
  · exact isAlphanum_camelCase _ c hc
  · exact isAlphanum_camelCase _ c hc

lemma isAlphanum_append_suffix (word : String) (hw : word.toList.all Char.isAlphanum = true) :
    ∀ c ∈ (word ++ suffix v e).toList, c.isAlphanum = true := by
  intro c hc
  rw [String.toList_append, List.mem_append] at hc
  rcases hc with hc | hc
  · exact List.all_eq_true.mp hw c hc
  · exact isAlphanum_suffix v e c hc

lemma handlerLine_eq : handlerLine v e =
    "    handle" ++ suffix v e ++ "?(" ++ parameterList e ++ "): void;" := by
  simp only [handlerLine, indent_one, handlerName, handlerMethod, suffix, String.append_assoc]
  exact String.append_assoc.symm

lemma listenerLine_eq : listenerLine v e =
    "        this.viewBinding." ++ v.id ++ ".on('" ++ e.eventName ++ "', this.eventHandler.handle"
      ++ suffix v e ++ "?.bind(this.eventHandler));" := by
  have hs : "        this.viewBinding." = "        " ++ "this.viewBinding." := rfl
  have hh : "', this.eventHandler.handle" = "', this.eventHandler." ++ "handle" := rfl
  simp only [listenerLine, indent_two, handlerName, handlerMethod, suffix, String.append_assoc, hs,
    hh]

lemma hookLine_eq : hookLine v e =
    "    protected abstract on" ++ suffix v e ++ "(" ++ parameterList e ++ "): void;" := by
  have hs : "    protected abstract on" = "    " ++ ("protected abstract " ++ "on") := rfl
  simp only [hookLine, indent_one, presenterHook, suffix, String.append_assoc, hs]

lemma wordAfter_method : wordAfter "    " (handlerLine v e) = "handle" ++ suffix v e := by
  have hs : "    handle" = "    " ++ "handle" := rfl
  have hd := wordAfter_eq (isAlphanum_append_suffix v e "handle" rfl) "    "
    ("?(" ++ parameterList e ++ "): void;") (by simp)
  rw [handlerLine_eq, hs]
  simpa only [String.append_assoc] using hd

lemma wordBefore_listenerLine :
    wordBefore "?.bind(this.eventHandler));" (listenerLine v e) = wordAfter "    " (handlerLine v e) := by
  have hh : "', this.eventHandler.handle" = "', this.eventHandler." ++ "handle" := rfl
  have hl := wordBefore_eq (isAlphanum_append_suffix v e "handle" rfl)
    ("        this.viewBinding." ++ v.id ++ ".on('" ++ e.eventName ++ "', this.eventHandler.")
    "?.bind(this.eventHandler));" (by
      intro c hc
      rw [String.toList_append, List.getLast?_append] at hc
      obtain rfl : '.' = c := Option.some.inj hc
      rfl)
  rw [wordAfter_method, listenerLine_eq, hh]
  simpa only [String.append_assoc] using hl

lemma wordAfter_hookLine :
    wordAfter "    protected abstract on" (hookLine v e) = suffix v e := by
  have hd := wordAfter_eq (isAlphanum_suffix v e) "    protected abstract on"
    ("(" ++ parameterList e ++ "): void;") (by simp)
  rw [hookLine_eq]
  simpa only [String.append_assoc] using hd

lemma wordAfter_handlerLine : wordAfter "    handle" (handlerLine v e) = suffix v e := by
  have hd := wordAfter_eq (isAlphanum_suffix v e) "    handle"
    ("?(" ++ parameterList e ++ "): void;") (by simp)
  rw [handlerLine_eq]
  simpa only [String.append_assoc] using hd

lemma not_mem_suffix : '(' ∉ (suffix v e).toList := fun hm =>
  absurd (isAlphanum_suffix v e _ hm) (by decide)

lemma signature_hookLine :
    signature (hookLine v e) = "(" ++ parameterList e ++ "): void;" := by
  have hs := signature_eq ("    protected abstract on" ++ suffix v e) (parameterList e ++ "): void;")
    (by simp [not_mem_suffix])
  rw [hookLine_eq]
  simpa only [String.append_assoc] using hs

lemma signature_handlerLine :
    signature (handlerLine v e) = "(" ++ parameterList e ++ "): void;" := by
  have hq : "?(" = "?" ++ "(" := rfl
  have hs := signature_eq ("    handle" ++ suffix v e ++ "?") (parameterList e ++ "): void;")
    (by simp [not_mem_suffix])
  rw [handlerLine_eq, hq]
  simpa only [String.append_assoc] using hs

end Lines

section Views

variable (v : Record)

lemma propertyLine_eq : propertyLine v = "    public " ++ v.id ++ ": " ++ v.tag ++ ";" := by
  simp only [propertyLine, indent_one, String.append_assoc]
  exact String.append_assoc.symm

lemma assignmentLine_eq : assignmentLine v =
    "        this." ++ v.id ++ " = rootView.findViewById('" ++ v.id ++ "') as " ++ v.tag ++ ";" := by
  simp only [assignmentLine, indent_two, String.append_assoc]
  exact String.append_assoc.symm

lemma fieldLine_eq : fieldLine v = "    protected " ++ v.id ++ ": " ++ v.tag ++ ";" := by
  simp only [fieldLine, indent_one, String.append_assoc]
  exact String.append_assoc.symm

end Views

/-- The modules of one layout fit together. Handlers, listeners and hooks are those of the same
pairs of a view and an event, and properties, assignments and fields are those of the same views.
A listener is bound to the method of the handler in its place, and a hook has the handler's
parameters and the rest of its name. -/
theorem modules_agree (g : Generator) (paths : LayoutPaths) (x : ViewIndex) (table : ImportTable) :
    let q := g.request paths x table
    let bound := x.views.filter fun v => table.contains v.tag
    let pairs := x.views.flatMap fun v =>
      ((g.rules.rules.filter fun rule => rule.1.isMatch v.tag).flatMap Prod.snd).map fun e => (v, e)
    ∃ (handlers listeners properties assignments : List String) (members : List PresenterMember),
      (eventDispatch q).section? "handler" =
        some (block ("export interface " ++ q.names.handler) handlers) ∧
      (eventDispatch q).section? "dispatcher" =
        some (block ("export class " ++ q.names.event) (dispatcherMembers q.names listeners)) ∧
      (presenterBase q).section? "class" =
        some (block ("abstract class " ++ q.names.presenterBase ++ " extends "
          ++ q.presenterBaseClass.typeName) (members.map line)) ∧
      (binding q).section? "class" =
        some (block ("class " ++ q.names.binding) (properties
          ++ (if properties.isEmpty then [] else [""])
          ++ ["    constructor(rootView: " ++ q.rootContainer.typeName ++ ") \x7b"]
          ++ assignments ++ ["    \x7d"])) ∧
      (handlers = pairs.map fun p => "    handle" ++ (camelCase p.1.id ++ camelCase p.2.handlerName)
        ++ "?(" ++ parameterList p.2 ++ "): void;") ∧
      (listeners = pairs.map fun p => "        this.viewBinding." ++ p.1.id ++ ".on('"
        ++ p.2.eventName ++ "', this.eventHandler.handle"
        ++ (camelCase p.1.id ++ camelCase p.2.handlerName) ++ "?.bind(this.eventHandler));") ∧
      members.filterMap hook? = pairs ∧
      members.filterMap field? = bound ∧
      (properties = bound.map fun v => "    public " ++ v.id ++ ": " ++ v.tag ++ ";") ∧
      (assignments = bound.map fun v => "        this." ++ v.id ++ " = rootView.findViewById('"
        ++ v.id ++ "') as " ++ v.tag ++ ";") ∧
      (∀ v, (field v).line = "    protected " ++ v.id ++ ": " ++ v.tag ++ ";") ∧
      (∀ v e, (hook v e).line = "    protected abstract on"
        ++ (camelCase v.id ++ camelCase e.handlerName) ++ "(" ++ parameterList e ++ "): void;") ∧
      listeners.map (wordBefore "?.bind(this.eventHandler));") = handlers.map (wordAfter "    ") ∧
      let hooks := pairs.map fun p => (hook p.1 p.2).line
      hooks.map (wordAfter "    protected abstract on") = handlers.map (wordAfter "    handle") ∧
      hooks.map signature = handlers.map signature := by
  intro q bound pairs
  have hp : q.viewEvents = pairs := by
    refine List.flatMap_congr fun v _ => ?_
    exact congrArg (List.map fun e => (v, e)) (eventsOf_eq g.rules v.tag)
  have hb : q.boundViews.map Prod.fst = bound := boundViews_eq q
  refine ⟨pairs.map fun p => handlerLine p.1 p.2, pairs.map fun p => listenerLine p.1 p.2,
    bound.map propertyLine, bound.map assignmentLine, q.index.views.flatMap (ofView q), ?_⟩
  refine ⟨hp ▸ section?_handler q, hp ▸ section?_dispatcher q, ?_, ?_, ?_, ?_, ?_, ?_, ?_, ?_, ?_,
    ?_, ?_, ?_, ?_⟩
  · rw [section?_presenterBase, presenterMembers_eq]
  · rw [section?_binding, hb]
    unfold bindingMembers
    rw [List.isEmpty_map]
    rfl
  · exact List.map_congr_left fun p _ => handlerLine_eq p.1 p.2
  · exact List.map_congr_left fun p _ => listenerLine_eq p.1 p.2
  · rw [hooks_eq, hp]
  · exact fields_eq q
  · exact List.map_congr_left fun v _ => propertyLine_eq v
  · exact List.map_congr_left fun v _ => assignmentLine_eq v
  · exact fieldLine_eq
  · exact hookLine_eq
  · rw [List.map_map, List.map_map]
    exact List.map_congr_left fun p _ => wordBefore_listenerLine p.1 p.2
  · rw [List.map_map, List.map_map]
    refine List.map_congr_left fun p _ => ?_
    exact (wordAfter_hookLine p.1 p.2).trans (wordAfter_handlerLine p.1 p.2).symm
  · rw [List.map_map, List.map_map]
    refine List.map_congr_left fun p _ => ?_
    exact (signature_hookLine p.1 p.2).trans (signature_handlerLine p.1 p.2).symm

end LayoutSync.Source
