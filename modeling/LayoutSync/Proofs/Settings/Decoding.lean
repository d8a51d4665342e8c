import LayoutSync.Proofs.Json.Reading
import LayoutSync.Settings.Decoding
import LayoutSync.Settings.Encoding
import Mathlib.Data.List.Nodup

namespace LayoutSync

open Json

variable {room : Nat} {cs : List Char}

section Fields

variable {σ α : Type} {s : Shape σ α} {t u : σ} {ms : List MemberText}

lemma reads_storing {β : Type} {read : Nat → List Char → Except Fault (β × List Char)} {b : β}
    (h : Reads (read room) cs b) (store : σ → β → σ) (t : σ) :
    Reads (storing read store room t) cs (store t b) := by
  intro r hr
  obtain ⟨d, hd, he⟩ := h r hr
  refine ⟨d, hd, ?_⟩
  rw [storing, he]
  rfl

inductive Stores (s : Shape σ α) (room : Nat) : σ → List (String × Value) → σ → Prop
  | nil (t : σ) : Stores s room t [] t
  | cons {β : Type} {t u : σ} {k : String} {v : Value} {vs : List (String × Value)} {required : Bool}
    {isSet : σ → Bool} {read : Nat → List Char → Except Fault (β × List Char)} {store : σ → β → σ}
    {b : β} (hf : s.fields.find? (·.name = k) = some ⟨k, required, isSet, storing read store⟩)
    (hset : isSet t = false) (h : ∀ cs, Spells v cs → Reads (read room) cs b)
    (hs : Stores s room (store t b) vs u) : Stores s room t ((k, v) :: vs) u

lemma Stores.takes {vs : List (String × Value)} (h : Stores s room t vs u)
    (hn : ms.map MemberText.name = vs.map Prod.fst)
    (hm : List.Forall₂ Spells (vs.map Prod.snd) (ms.map MemberText.value)) :
    Takes (s.readMember room) t ms u := by
  induction h generalizing ms with
  | nil t =>
    obtain rfl := List.map_eq_nil_iff.mp hn
    exact .nil t
  | cons hf hset h _ ih =>
    cases ms with
    | nil => cases hn
    | cons m ms =>
      obtain ⟨rfl, hnames⟩ := List.cons.inj hn
      obtain ⟨hvalue, hvalues⟩ := List.forall₂_cons.mp hm
      exact .cons (Shape.takesOne_known hf hset (reads_storing (h _ hvalue) _ _))
        (ih hnames hvalues)

lemma reads_record {a : α} {vs : List (String × Value)} (h : Stores s room s.start vs t)
    (hfinish : s.finish t = .ok a) (hcs : Spells (.object vs) cs) : Reads (s.read (room + 1)) cs a := by
  cases hcs with
  | object hk hn hm hj hp => exact Shape.reads_isObject ⟨hk, _, hj, hp⟩ (h.takes hn hm) hfinish

end Fields

section Records

lemma reads_typeReference {t : TypeReference} (h : Spells t.toJson cs) :
    Reads (TypeReference.shape.read (room + 1)) cs t := by
  refine reads_record (t := ⟨some t.typeName, some t.module⟩) ?_ rfl h
  exact .cons rfl rfl (fun _ h => reads_string h _) (.cons rfl rfl (fun _ h => reads_string h _) (.nil _))

lemma reads_eventParameter {p : EventParameter} (h : Spells p.toJson cs) :
    Reads (EventParameter.shape.read (room + 1)) cs p := by
  refine reads_record (t := ⟨some p.name, some p.type⟩) ?_ rfl h
  exact .cons rfl rfl (fun _ h => reads_string h _) (.cons rfl rfl (fun _ h => reads_string h _) (.nil _))

lemma reads_viewEvent {e : ViewEvent} (h : Spells e.toJson cs) :
    Reads (ViewEvent.shape.read (room + 3)) cs e := by
  have hparameters : ∀ cs, Spells (.array (e.parameters.map EventParameter.toJson)) cs →
      Reads (expectArray (room + 2) EventParameter.shape.read) cs e.parameters := fun cs h =>
    reads_expectArray h (Shape.ignoresSpace _ _) (fun _ _ he => nomatch he)
      fun p _ cs hp => reads_eventParameter hp
  refine reads_record (t := ⟨some e.eventName, some e.handlerName, some e.parameters⟩) ?_ rfl h
  exact .cons rfl rfl (fun _ h => reads_string h _) (.cons rfl rfl (fun _ h => reads_string h _)
    (.cons rfl rfl hparameters (.nil _)))

lemma reads_eventRule {r : EventRule} (h : Spells r.toJson cs) :
    Reads (EventRule.shape.read (room + 5)) cs r := by
  have hevents : ∀ cs, Spells (.array (r.events.map ViewEvent.toJson)) cs →
      Reads (expectArray (room + 4) ViewEvent.shape.read) cs r.events := fun cs h =>
    reads_expectArray h (Shape.ignoresSpace _ _) (fun _ _ he => nomatch he)
      fun e _ cs he => reads_viewEvent he
  refine reads_record (t := ⟨some r.pattern, some r.events⟩) ?_ rfl h
  exact .cons rfl rfl (fun _ h => reads_string h _) (.cons rfl rfl hevents (.nil _))

lemma reads_parentPolicy {p : Layout.ParentPolicy} (h : Spells (.string p.name) cs) :
    Reads (Settings.readParentPolicy room) cs p := by
  cases h with
  | @string _ w _ h hp =>
    have hs : IgnoresSpace (Settings.readParentPolicy room) := by
      intro cs
      rw [Settings.readParentPolicy, Settings.readParentPolicy, ignoresSpace_name _ room cs]
    have hn : (Layout.ParentPolicy.all.map (·.name)).contains p.name = true := by
      cases p <;> decide
    refine Reads.of_padded hp rfl hs fun r _ => ?_
    rw [Settings.readParentPolicy, expectName_string h hn]
    rw [ok_bind]
    simp only [Layout.ParentPolicy.ofName?_name]
    rfl

end Records

namespace Settings

def keeping (c : Settings) (names : List String) : Settings where
  moduleRoot := if "moduleRoot" ∈ names then c.moduleRoot else standard.moduleRoot
  outputDir := if "outputDir" ∈ names then c.outputDir else standard.outputDir
  presenterDir := if "presenterDir" ∈ names then c.presenterDir else standard.presenterDir
  themeVariants := if "themeVariants" ∈ names then c.themeVariants else standard.themeVariants
  baseTheme := if "baseTheme" ∈ names then c.baseTheme else standard.baseTheme
  defaultContainerType :=
    if "defaultContainerType" ∈ names then c.defaultContainerType else standard.defaultContainerType
  rootContainer := if "rootContainer" ∈ names then c.rootContainer else standard.rootContainer
  presenterBaseClass :=
    if "presenterBaseClass" ∈ names then c.presenterBaseClass else standard.presenterBaseClass
  eventRules := if "eventRules" ∈ names then c.eventRules else standard.eventRules
  parentPolicy := if "parentPolicy" ∈ names then c.parentPolicy else standard.parentPolicy
  presenterBase := if "presenterBase" ∈ names then c.presenterBase else standard.presenterBase
  checkSyntax := if "checkSyntax" ∈ names then c.checkSyntax else standard.checkSyntax

def fieldNames : List String := shape.fields.map (·.name)

variable {c : Settings} {t : Draft} {ms : List MemberText}

lemma fieldNames_eq (c : Settings) : fieldNames = c.members.map Prod.fst := rfl

lemma keeping_congr {as bs : List String} (h : ∀ n ∈ fieldNames, n ∈ as ↔ n ∈ bs) :
    c.keeping as = c.keeping bs := by
  have hn : ∀ n ∈ ["moduleRoot", "outputDir", "presenterDir", "themeVariants", "baseTheme",
      "defaultContainerType", "rootContainer", "presenterBaseClass", "eventRules", "parentPolicy",
      "presenterBase", "checkSyntax"], n ∈ as ↔ n ∈ bs := h
  simp only [List.forall_mem_cons] at hn
  simp [keeping, hn]

lemma keeping_all (c : Settings) : c.keeping fieldNames = c := by
  have hn : ∀ n ∈ ["moduleRoot", "outputDir", "presenterDir", "themeVariants", "baseTheme",
      "defaultContainerType", "rootContainer", "presenterBaseClass", "eventRules", "parentPolicy",
      "presenterBase", "checkSyntax"], n ∈ fieldNames := fun n h => h
  simp only [List.forall_mem_cons] at hn
  simp [keeping, hn]

lemma keeping_nil (c : Settings) : c.keeping [] = standard := by
  simp [keeping, standard]

lemma ignoresSpace_text (room : Nat) : IgnoresSpace (readText room) := ignoresSpace_string _

lemma reads_field {β : Type} {name : String} {read : Nat → List Char → Except Fault (β × List Char)}
    {store : Settings → β → Settings} {b : β} (h : Reads (read room) cs b)
    (ht : t.settings = c.keeping t.seen)
    (hs : store (c.keeping t.seen) b = c.keeping (name :: t.seen)) :
    Reads ((field name read store).read room t) cs ⟨c.keeping (name :: t.seen), name :: t.seen⟩ := by
  have hread := reads_storing h (fun (t : Draft) b => ⟨store t.settings b, name :: t.seen⟩) t
  rw [ht, hs] at hread
  exact hread

lemma reads_member {k : String} {v : Value} (h : (k, v) ∈ c.members) (hcs : Spells v cs) :
    ∃ f, shape.fields.find? (·.name = k) = some f ∧ (∀ t, f.isSet t = t.seen.contains k) ∧
      ∀ t, t.settings = c.keeping t.seen →
        Reads (f.read (room + 6) t) cs ⟨c.keeping (k :: t.seen), k :: t.seen⟩ := by
  simp only [members, List.mem_cons, List.not_mem_nil, or_false, Prod.mk.injEq] at h
  rcases h with ⟨rfl, rfl⟩ | ⟨rfl, rfl⟩ | ⟨rfl, rfl⟩ | ⟨rfl, rfl⟩ | ⟨rfl, rfl⟩ | ⟨rfl, rfl⟩ |
    ⟨rfl, rfl⟩ | ⟨rfl, rfl⟩ | ⟨rfl, rfl⟩ | ⟨rfl, rfl⟩ | ⟨rfl, rfl⟩ | ⟨rfl, rfl⟩
  · refine ⟨_, rfl, fun _ => rfl, fun t ht => reads_field (reads_string hcs _) ht ?_⟩
    simp [keeping]
  · refine ⟨_, rfl, fun _ => rfl, fun t ht => reads_field (reads_string hcs _) ht ?_⟩
    simp [keeping]
  · refine ⟨_, rfl, fun _ => rfl, fun t ht => reads_field (reads_string hcs _) ht ?_⟩
    simp [keeping]
  · have hread := reads_expectArray hcs (ignoresSpace_text (room + 5)) (fun _ _ he => nomatch he)
      fun s _ cs hs => reads_string hs _
    refine ⟨_, rfl, fun _ => rfl, fun t ht => reads_field hread ht ?_⟩
    simp [keeping]
  · refine ⟨_, rfl, fun _ => rfl, fun t ht => reads_field (reads_string hcs _) ht ?_⟩
    simp [keeping]
  · refine ⟨_, rfl, fun _ => rfl, fun t ht => reads_field (reads_string hcs _) ht ?_⟩
    simp [keeping]
  · refine ⟨_, rfl, fun _ => rfl, fun t ht => reads_field (reads_typeReference hcs) ht ?_⟩
    simp [keeping]
  · refine ⟨_, rfl, fun _ => rfl, fun t ht => reads_field (reads_typeReference hcs) ht ?_⟩
    simp [keeping]
  · have hread := reads_expectArray hcs (Shape.ignoresSpace _ (room + 5)) (fun _ _ he => nomatch he)
      fun r _ cs hr => reads_eventRule hr
    refine ⟨_, rfl, fun _ => rfl, fun t ht => reads_field hread ht ?_⟩
    simp [keeping]
  · refine ⟨_, rfl, fun _ => rfl, fun t ht => reads_field (reads_parentPolicy hcs) ht ?_⟩
    simp [keeping]
  · refine ⟨_, rfl, fun _ => rfl, fun t ht => reads_field (reads_bool hcs) ht ?_⟩
    simp [keeping]
  · refine ⟨_, rfl, fun _ => rfl, fun t ht => reads_field (reads_bool hcs) ht ?_⟩
    simp [keeping]

def known (ms : List MemberText) : List String :=
  (ms.map MemberText.name).filter (fieldNames.contains ·)

lemma find?_unknown {k : String} (h : k ∉ fieldNames) : shape.fields.find? (·.name = k) = none := by
  apply List.find?_eq_none.mpr
  intro f hf he
  exact h (List.mem_map.mpr ⟨f, hf, of_decide_eq_true he⟩)

lemma takes_members (hv : ∀ m ∈ ms, (∀ v, (m.name, v) ∈ c.members → Spells v m.value) ∧
      (m.name ∉ fieldNames → IsJson m.value))
    (hn : (t.seen ++ known ms).Nodup) (ht : t.settings = c.keeping t.seen) :
    ∃ u, Takes (shape.readMember (room + 6)) t ms u ∧ u.settings = c.keeping u.seen ∧
      ∀ n, n ∈ u.seen ↔ n ∈ t.seen ∨ n ∈ known ms := by
  -- The names that were seen determine the settings: a field that is not yet set adds to both.
  induction ms generalizing t with
  | nil => exact ⟨t, .nil t, ht, by simp [known]⟩
  | cons m ms ih =>
    obtain ⟨hspells, hjson⟩ := hv m List.mem_cons_self
    have hrest := fun k hk => hv k (List.mem_cons_of_mem _ hk)
    by_cases hk : m.name ∈ fieldNames
    · have hknown : known (m :: ms) = m.name :: known ms := by simp [known, hk]
      rw [hknown, List.nodup_middle] at hn
      have hnew : m.name ∉ t.seen := fun h => (List.nodup_cons.mp hn).1 (List.mem_append_left _ h)
      rw [fieldNames_eq c] at hk
      obtain ⟨⟨k, v⟩, hm, hkv⟩ := List.mem_map.mp hk
      dsimp only at hkv
      rw [hkv] at hm
      obtain ⟨f, hf, hset, hread⟩ := reads_member hm (hspells v hm)
      have hunset : f.isSet t = false := by
        rw [hset, Bool.eq_false_iff]
        exact fun h => hnew (List.contains_iff_mem.mp h)
      obtain ⟨u, htakes, hu, hseen⟩ := ih (t := ⟨c.keeping (m.name :: t.seen), m.name :: t.seen⟩) hrest
        hn rfl
      refine ⟨u, .cons (Shape.takesOne_known hf hunset (hread t ht)) htakes, hu, fun n => ?_⟩
      rw [hseen, hknown, List.mem_cons, List.mem_cons]
      tauto
    · have hknown : known (m :: ms) = known ms := by simp [known, hk]
      rw [hknown] at hn ⊢
      obtain ⟨u, htakes, hu⟩ := ih hrest hn ht
      exact ⟨u, .cons (Shape.takesOne_unknown (find?_unknown hk) (hjson hk)) htakes, hu⟩

lemma parse_isObject {source : String} (ho : IsObject ms source.toList)
    (hv : ∀ m ∈ ms, (∀ v, (m.name, v) ∈ c.members → Spells v m.value) ∧
      (m.name ∉ fieldNames → IsJson m.value))
    (hn : (known ms).Nodup) : parse source = .ok (c.keeping (ms.map MemberText.name)) := by
  obtain ⟨u, htakes, hu, hseen⟩ := takes_members (t := {}) hv hn (keeping_nil c).symm
  have hends : Ends [] := fun c hc => nomatch hc
  obtain ⟨b, hb, he⟩ := Shape.reads_isObject (s := shape) ho htakes (a := u.settings) rfl [] hends
  have hkeep : u.settings = c.keeping (ms.map MemberText.name) := by
    rw [hu]
    apply keeping_congr
    intro n hf
    rw [hseen, known, List.mem_filter]
    simp [hf]
  rw [List.append_nil] at he
  rw [parse, Shape.parse, maxDepth, he]
  simp only [ok_bind, List.append_nil, readEnd, skipSpace_of_blank hb, hkeep]
  rfl

end Settings

end LayoutSync
