import Mathlib.Data.List.Nodup
import Mathlib.Data.List.Pairwise
import LayoutSync.Proofs.Layout.Provision
import LayoutSync.Proofs.Source.Agreement

/-!
The methods that handle events are called after a view and an event, both in camel case and with
nothing in between. So two views can get methods of one name, and it is said here when they do.
-/

namespace LayoutSync.Source

open Layout Workspace

lemma append_eq_append_iff {a b c d : String} :
    a ++ b = c ++ d ↔ (∃ m, c = a ++ m ∧ b = m ++ d) ∨ ∃ m, a = c ++ m ∧ d = m ++ b := by
  simp only [← String.toList_inj, String.toList_append, List.append_eq_append_iff]
  constructor
  · rintro (⟨m, hc, hb⟩ | ⟨m, ha, hd⟩)
    · exact .inl ⟨String.ofList m, by simpa using hc, by simpa using hb⟩
    · exact .inr ⟨String.ofList m, by simpa using ha, by simpa using hd⟩
  · rintro (⟨m, hc, hb⟩ | ⟨m, ha, hd⟩)
    · exact .inl ⟨m.toList, hc, hb⟩
    · exact .inr ⟨m.toList, ha, hd⟩

lemma wordAfter_hook (v : Record) (e : ViewEvent) :
    wordAfter "    protected abstract " (hookLine v e) = "on" ++ suffix v e := by
  have hs : "    protected abstract on" = "    protected abstract " ++ "on" := rfl
  have hd := wordAfter_eq (isAlphanum_append_suffix v e "on" rfl)
    "    protected abstract " ("(" ++ parameterList e ++ "): void;") (by simp)
  rw [hookLine_eq, hs]
  simpa only [String.append_assoc] using hd

namespace Request

variable (q : Request)

/-- In camel case, the id of `w` is that of `v` with something more, or nothing more, at its end; and
with that in front, the name of an event of `w` is that of an event of `v`. -/
def Overlap (v w : Record) : Prop :=
  ∃ e ∈ q.eventsOf v.tag, ∃ f ∈ q.eventsOf w.tag, ∃ more,
    camelCase w.id = camelCase v.id ++ more ∧
    camelCase e.handlerName = more ++ camelCase f.handlerName

def Apart : Prop :=
  ∀ v ∈ q.index.views, ∀ w ∈ q.index.views, v.id ≠ w.id → ¬ q.Overlap v w

def NoEnding : Prop :=
  ∀ v ∈ q.index.views, ∀ e ∈ q.eventsOf v.tag, ∀ w ∈ q.index.views, ∀ f ∈ q.eventsOf w.tag,
    (camelCase f.handlerName).toList <:+ (camelCase e.handlerName).toList →
    camelCase e.handlerName = camelCase f.handlerName

variable {q}

lemma shares_iff {v w : Record} :
    (∃ e ∈ q.eventsOf v.tag, ∃ f ∈ q.eventsOf w.tag, suffix v e = suffix w f) ↔
      q.Overlap v w ∨ q.Overlap w v := by
  simp only [suffix, append_eq_append_iff]
  constructor
  · rintro ⟨e, he, f, hf, ⟨m, hi, hn⟩ | ⟨m, hi, hn⟩⟩
    · exact .inl ⟨e, he, f, hf, m, hi, hn⟩
    · exact .inr ⟨f, hf, e, he, m, hi, hn⟩
  · rintro (⟨e, he, f, hf, m, hi, hn⟩ | ⟨f, hf, e, he, m, hi, hn⟩)
    · exact ⟨e, he, f, hf, .inl ⟨m, hi, hn⟩⟩
    · exact ⟨e, he, f, hf, .inr ⟨m, hi, hn⟩⟩

lemma disjoint_iff {v w : Record} :
    List.Disjoint ((q.eventsOf v.tag).map (suffix v)) ((q.eventsOf w.tag).map (suffix w)) ↔
      ¬ (q.Overlap v w ∨ q.Overlap w v) := by
  rw [← shares_iff]
  simp only [List.Disjoint, List.mem_map]
  constructor
  · rintro h ⟨e, he, f, hf, hs⟩
    exact h ⟨e, he, rfl⟩ ⟨f, hf, hs.symm⟩
  · rintro h _ ⟨e, he, rfl⟩ ⟨f, hf, hs⟩
    exact h ⟨e, he, f, hf, hs.symm⟩

lemma nodup_names_of_view {v : Record}
    (hn : ((q.eventsOf v.tag).map fun e => camelCase e.handlerName).Nodup) :
    ((q.eventsOf v.tag).map (suffix v)).Nodup := by
  have hj : Function.Injective (camelCase v.id ++ ·) := fun _ _ h =>
    (String.append_right_inj _).mp h
  have hs : (q.eventsOf v.tag).map (suffix v) =
      ((q.eventsOf v.tag).map fun e => camelCase e.handlerName).map (camelCase v.id ++ ·) := by
    rw [List.map_map]
    rfl
  rw [hs]
  exact hn.map hj

lemma nodup_names_iff (hi : (q.index.views.map (·.id)).Nodup)
    (hn : ∀ v ∈ q.index.views,
      ((q.eventsOf v.tag).map fun e => camelCase e.handlerName).Nodup) :
    (q.viewEvents.map fun p => suffix p.1 p.2).Nodup ↔ q.Apart := by
  have hm : (q.viewEvents.map fun p => suffix p.1 p.2) =
      q.index.views.flatMap fun v => (q.eventsOf v.tag).map (suffix v) := by
    rw [viewEvents, List.map_flatMap]
    simp only [List.map_map]
    rfl
  have hd : q.index.views.Pairwise (fun v w => v.id ≠ w.id) := List.pairwise_map.mp hi
  rw [hm, List.nodup_flatMap]
  constructor
  · rintro ⟨_, hp⟩ v hv w hw hne ho
    have hs : Std.Symm (Function.onFun List.Disjoint fun v : Record =>
        (q.eventsOf v.tag).map (suffix v)) := ⟨fun _ _ => List.disjoint_symm⟩
    exact disjoint_iff.mp (hp.forall hv hw fun h => hne (h ▸ rfl)) (.inl ho)
  · intro ha
    refine ⟨fun v hv => nodup_names_of_view (hn v hv), hd.imp_of_mem fun hv hw hne => ?_⟩
    refine disjoint_iff.mpr ?_
    rintro (ho | ho)
    · exact ha _ hv _ hw hne ho
    · exact ha _ hw _ hv hne.symm ho

lemma apart_of_noEnding (hc : (q.index.views.map fun v => camelCase v.id).Nodup)
    (he : q.NoEnding) : q.Apart := by
  rintro v hv w hw hne ⟨e, hev, f, hfw, more, hi, hn⟩
  have hs : (camelCase f.handlerName).toList <:+ (camelCase e.handlerName).toList :=
    ⟨more.toList, by rw [hn, String.toList_append]⟩
  have hm : "" ++ camelCase f.handlerName = more ++ camelCase f.handlerName := by
    rw [String.empty_append, ← hn, he v hv e hev w hw f hfw hs]
  rw [← (String.append_left_inj _).mp hm, String.append_empty] at hi
  exact hne (congrArg Record.id (List.inj_on_of_nodup_map hc hv hw hi.symm))

end Request

open PresenterMember

lemma nodup_map_iff_of_word {α : Type} {word : String} {f g : α → String}
    (h : ∀ a, f a = word ++ g a) (as : List α) : (as.map f).Nodup ↔ (as.map g).Nodup := by
  have hm : as.map f = (as.map g).map (word ++ ·) := by
    rw [List.map_map]
    exact List.map_congr_left fun a _ => h a
  rw [hm]
  exact List.nodup_map_iff fun _ _ h => (String.append_right_inj word).mp h

/-- Two views are wired to one callback exactly if they overlap, and so the methods of the handler
and the hooks of the presenter base have different names exactly if no two views overlap. That is so
if the ids differ in camel case as well, and no name of a handler is the end of another one. -/
theorem handlers_distinct_iff (g : Generator) (paths : LayoutPaths) (root : Markup.Element)
    (policy : ParentPolicy) (table : ImportTable)
    (hn : ∀ v ∈ (ViewIndex.ofLayout root policy).views,
      ((g.rules.eventsOf v.tag).map fun e => camelCase e.handlerName).Nodup) :
    let q := g.request paths (ViewIndex.ofLayout root policy) table
    let views := q.index.views
    let pairs := views.flatMap fun v => (q.eventsOf v.tag).map fun e => (v, e)
    let callback := fun (v : Record) (e : ViewEvent) =>
      wordBefore "?.bind(this.eventHandler));" (listenerLine v e)
    ∃ (handlers listeners : List String) (members : List PresenterMember),
      (eventDispatch q).section? "handler" =
        some (block ("export interface " ++ q.names.handler) handlers) ∧
      (eventDispatch q).section? "dispatcher" =
        some (block ("export class " ++ q.names.event) (dispatcherMembers q.names listeners)) ∧
      (presenterBase q).section? "class" =
        some (block ("abstract class " ++ q.names.presenterBase ++ " extends "
          ++ q.presenterBaseClass.typeName) (members.map line)) ∧
      (handlers = pairs.map fun p => handlerLine p.1 p.2) ∧
      (listeners = pairs.map fun p => listenerLine p.1 p.2) ∧
      members.filterMap hook? = pairs ∧
      (∀ v ∈ views, ((q.eventsOf v.tag).map (callback v)).Nodup) ∧
      (∀ v ∈ views, ∀ w ∈ views,
        (∃ e ∈ q.eventsOf v.tag, ∃ f ∈ q.eventsOf w.tag, callback v e = callback w f) ↔
          q.Overlap v w ∨ q.Overlap w v) ∧
      ((handlers.map (wordAfter "    ")).Nodup ↔ q.Apart) ∧
      (((members.filterMap hook?).map fun p =>
        wordAfter "    protected abstract " (hook p.1 p.2).line).Nodup ↔ q.Apart) ∧
      ((views.map fun v => camelCase v.id).Nodup → q.NoEnding → q.Apart) := by
  intro q views pairs callback
  have hi : (q.index.views.map (·.id)).Nodup := by
    change ((ViewIndex.ofLayout root policy).views.map (·.id)).Nodup
    rw [ids_views]
    exact (ViewIndex.ofLayout root policy).slots.nodup_keys
  have hn : ∀ v ∈ q.index.views,
      ((q.eventsOf v.tag).map fun e => camelCase e.handlerName).Nodup := hn
  clear_value q
  have hcallback (v : Record) (e : ViewEvent) : callback v e = "handle" ++ suffix v e :=
    (wordBefore_listenerLine v e).trans (wordAfter_method v e)
  refine ⟨q.viewEvents.map fun p => handlerLine p.1 p.2,
    q.viewEvents.map fun p => listenerLine p.1 p.2, q.index.views.flatMap (ofView q), ?_⟩
  refine ⟨section?_handler q, section?_dispatcher q, ?_, rfl, rfl, hooks_eq q, ?_, ?_, ?_, ?_, ?_⟩
  · rw [section?_presenterBase, presenterMembers_eq]
  · intro v hv
    rw [nodup_map_iff_of_word (hcallback v)]
    exact Request.nodup_names_of_view (hn v hv)
  · intro v _ w _
    rw [← Request.shares_iff]
    refine exists_congr fun e => and_congr_right fun _ => exists_congr fun f =>
      and_congr_right fun _ => ?_
    rw [hcallback, hcallback, String.append_right_inj]
  · have hword (p : Record × ViewEvent) :
        (wordAfter "    " ∘ fun p => handlerLine p.1 p.2) p = "handle" ++ suffix p.1 p.2 :=
      wordAfter_method p.1 p.2
    rw [List.map_map, nodup_map_iff_of_word hword, Request.nodup_names_iff hi hn]
  · have hword (p : Record × ViewEvent) :
        wordAfter "    protected abstract " (hook p.1 p.2).line = "on" ++ suffix p.1 p.2 :=
      wordAfter_hook p.1 p.2
    rw [hooks_eq, nodup_map_iff_of_word hword, Request.nodup_names_iff hi hn]
  · exact Request.apart_of_noEnding

def touched (names : List String) : Generator where
  workspace := "/ws"
  settings := {
    themeVariants := []
    outputDir := "o"
    eventRules := [⟨"", names.map fun n => ⟨n, n, []⟩⟩] }
  rules := ⟨[(⟨.empty⟩, names.map fun n => ⟨n, n, []⟩)]⟩
  imports := { root := Path.join "/ws" "node_modules" }

lemma new_touched (names : List String) :
    Generator.new "/ws" (touched names).settings = .ok (touched names) := rfl

def touchedPaths : LayoutPaths where
  layout := "/ws/res/a/layout/b.xml"
  baseName := "b"
  start := "B"
  parameters := "/ws/res/a/layout/b.json"
  themes := []
  outputDir := "/ws/o"
  presenterDir := "/ws/ts/presenter/base_with_view_and_event"

def withViews (ids : List String) : Markup.Element where
  tag := "Box"
  attributes := Dict.ofList [("id", "b")]
  children := ids.map fun id => { tag := "Text", attributes := Dict.ofList [("id", id)] }

theorem handlers_distinct_withViews :
    let g := touched ["TouchStart", "TouchEnd"]
    let x := ViewIndex.ofLayout (withViews ["ok", "okTouch"]) .structural
    let q := g.request touchedPaths x .empty
    (∀ v ∈ x.views, ((g.rules.eventsOf v.tag).map fun e => camelCase e.handlerName).Nodup) ∧
    ((x.views.map fun v => camelCase v.id).Nodup ∧ q.NoEnding) ∧
    ∃ handlers, (eventDispatch q).section? "handler" =
        some (block ("export interface " ++ q.names.handler) handlers) ∧
      (handlers = q.viewEvents.map fun p => handlerLine p.1 p.2) ∧
      (handlers.map (wordAfter "    ")).Nodup := by
  intro g x q
  have hn : ∀ v ∈ x.views,
      ((g.rules.eventsOf v.tag).map fun e => camelCase e.handlerName).Nodup := by decide +kernel
  have hc : (x.views.map fun v => camelCase v.id).Nodup := by decide +kernel
  have he : q.NoEnding := by
    unfold Request.NoEnding
    decide +kernel
  obtain ⟨handlers, _, _, hs, _, _, hh, _, _, _, _, hm, _, ha⟩ :=
    handlers_distinct_iff g touchedPaths (withViews ["ok", "okTouch"]) .structural .empty hn
  exact ⟨hn, ⟨hc, he⟩, handlers, hs, hh, hm.mpr (ha hc he)⟩

theorem handlers_shared :
    let g := touched ["End", "TouchEnd"]
    let x := ViewIndex.ofLayout (withViews ["ok", "okTouch", "no_1", "no1"]) .structural
    let q := g.request touchedPaths x .empty
    (∀ v ∈ x.views, ((g.rules.eventsOf v.tag).map fun e => camelCase e.handlerName).Nodup) ∧
    (∃ handlers, (eventDispatch q).section? "handler" =
        some (block ("export interface " ++ q.names.handler) handlers) ∧
      (handlers = q.viewEvents.map fun p => handlerLine p.1 p.2) ∧
      handlers.map (wordAfter "    ") = ["handleBEnd", "handleBTouchEnd", "handleOkEnd",
        "handleOkTouchEnd", "handleOkTouchEnd", "handleOkTouchTouchEnd", "handleNo1End",
        "handleNo1TouchEnd", "handleNo1End", "handleNo1TouchEnd"]) ∧
    ∃ members : List PresenterMember, (presenterBase q).section? "class" =
        some (block ("abstract class " ++ q.names.presenterBase ++ " extends "
          ++ q.presenterBaseClass.typeName) (members.map line)) ∧
      members.filterMap hook? = q.viewEvents ∧
      ¬ ((members.filterMap hook?).map fun p =>
        wordAfter "    protected abstract " (hook p.1 p.2).line).Nodup := by
  intro g x q
  refine ⟨by decide +kernel, ⟨_, section?_handler q, rfl, by decide +kernel⟩,
    ⟨q.index.views.flatMap (ofView q), ?_, hooks_eq q, by decide +kernel⟩⟩
  rw [section?_presenterBase, presenterMembers_eq]

section Standard

lemma events_of_compileRule {rule : EventRule} {c : Pattern × List ViewEvent}
    (h : EventRules.compileRule rule = .ok c) : c.2 = rule.events := by
  unfold EventRules.compileRule at h
  split at h
  · obtain rfl := Except.ok.inj h
    rfl
  · cases h

lemma events_of_compile {rules : List EventRule} {compiled : List (Pattern × List ViewEvent)}
    (h : rules.mapM EventRules.compileRule = .ok compiled) :
    ∀ c ∈ compiled, ∃ rule ∈ rules, c.2 = rule.events := by
  induction rules generalizing compiled with
  | nil =>
    obtain rfl := Except.ok.inj h
    exact fun _ hc => absurd hc List.not_mem_nil
  | cons rule rules ih =>
    rw [List.mapM_cons] at h
    obtain ⟨c, hr, h⟩ := bind_eq_ok.mp h
    obtain ⟨cs, hrs, h⟩ := bind_eq_ok.mp h
    obtain rfl := Except.ok.inj h
    refine List.forall_mem_cons.mpr ⟨⟨rule, List.mem_cons_self, events_of_compileRule hr⟩, ?_⟩
    intro d hd
    obtain ⟨r, hr, he⟩ := ih hrs d hd
    exact ⟨r, List.mem_cons_of_mem _ hr, he⟩

lemma mem_events_of_compile {rules : List EventRule} {r : EventRules}
    (h : EventRules.compile rules = .ok r) {tag : String} {e : ViewEvent}
    (he : e ∈ r.eventsOf tag) : ∃ rule ∈ rules, e ∈ rule.events := by
  obtain ⟨compiled, hc, rfl⟩ := map_eq_ok.mp h
  rw [eventsOf_eq] at he
  obtain ⟨c, hmem, hev⟩ := List.mem_flatMap.mp he
  obtain ⟨rule, hrule, hevents⟩ := events_of_compile hc c (List.mem_of_mem_filter hmem)
  exact ⟨rule, hrule, hevents ▸ hev⟩

/-- With the standard rules, views share no handler if their ids differ in camel case. -/
theorem apart_of_standard {q : Request} {r : EventRules}
    (hr : EventRules.compile EventRule.standard = .ok r) (hq : q.eventsOf = r.eventsOf)
    (hc : (q.index.views.map fun v => camelCase v.id).Nodup) : q.Apart := by
  have hends : ∀ e ∈ EventRule.standard.flatMap (·.events),
      ∀ f ∈ EventRule.standard.flatMap (·.events),
        (camelCase f.handlerName).toList <:+ (camelCase e.handlerName).toList →
        camelCase e.handlerName = camelCase f.handlerName := by decide
  have hmem : ∀ {tag e}, e ∈ q.eventsOf tag → e ∈ EventRule.standard.flatMap (·.events) :=
    fun he => List.mem_flatMap.mpr (mem_events_of_compile hr (hq ▸ he))
  exact Request.apart_of_noEnding hc fun v _ e he w _ f hf => hends e (hmem he) f (hmem hf)

end Standard

end LayoutSync.Source
