import LayoutSync.Proofs.ImportTable.Winners
import LayoutSync.Proofs.Layout.Occurrences
import LayoutSync.Proofs.Source.HandlerNames

/-!
The types that a binding and a presenter base use are imported, each by one statement: by that of the
table if the table has the type. Statements are told apart by their text, and so a name in which a
statement is written could be declared twice.
-/

namespace LayoutSync

namespace ImportTable

lemma get?_ofList (l : List (String × String)) (n : String) :
    (ofList l).get? n = (Assoc.get? n l).map (importStatement n) := by
  obtain ⟨ws, _, hent, hfind⟩ := exists_winners Prod.fst Prod.snd l
  have hl : (l.map fun a => (a.1, a.2)) = l := List.map_id' l
  have hm := get?_map Prod.fst Prod.snd l n
  rw [hl] at hent hm
  rw [get?, Dict.get?, hent, get?_map Prod.fst (fun a => importStatement a.1 a.2), hfind, hm]
  cases h : l.find? (fun a => a.1 = n) with
  | none => rfl
  | some a =>
    have hn := List.find?_some h
    rw [decide_eq_true_eq] at hn
    rw [Option.map_some, Option.map_some, Option.map_some, hn]

end ImportTable

namespace Source

open Layout ImportTable Text

section Statements

def endsName (c : Char) : Bool := isBlank c || c = '='

def declaredName (statement : String) : String :=
  String.ofList (((statement.toList.drop "import ".length).dropWhile isBlank).takeWhile (!endsName ·))

def isWord (name : String) : Bool := name.toList.all (!endsName ·)

lemma declaredName_importStatement {name : String} (h : isWord name = true) (module : String) :
    declaredName (importStatement name module) = name := by
  have hdrop : ∃ r, (importStatement name module).toList.drop "import ".length =
      name.toList ++ ' ' :: '=' :: r := by
    refine ⟨" require(\"".toList ++ module.toList ++ "\");".toList, ?_⟩
    simp [importStatement, String.toList_append]
    rfl
  obtain ⟨r, hdrop⟩ := hdrop
  apply String.toList_inj.mp
  rw [declaredName, hdrop, String.toList_ofList]
  have hw := List.all_eq_true.mp h
  cases hn : name.toList with
  | nil => rfl
  | cons c cs =>
    rw [hn] at hw
    have hc : isBlank c = false := by
      have hc := hw c List.mem_cons_self
      rw [endsName, Bool.not_eq_true', Bool.or_eq_false_iff] at hc
      exact hc.1
    rw [List.cons_append, List.dropWhile_cons_of_neg (by simp [hc]), ← List.cons_append,
      List.takeWhile_append_of_pos hw]
    exact List.append_nil _

lemma map_eraseDups {α β : Type} [DecidableEq α] [DecidableEq β] {f : α → β} {g : β → α}
    {l : List α} (h : ∀ a ∈ l, g (f a) = a) : (l.map f).eraseDups.map g = l.eraseDups := by
  induction l using List.reverseRecOn with
  | nil => rfl
  | append_singleton l a ih =>
    have hl : ∀ b ∈ l, g (f b) = b := fun b hb => h b (by simp [hb])
    have ha : g (f a) = a := h a (by simp)
    have hmem : f a ∈ l.map f ↔ a ∈ l := by
      refine ⟨fun hf => ?_, List.mem_map_of_mem⟩
      obtain ⟨b, hb, hfb⟩ := List.mem_map.mp hf
      rwa [← ha, ← hfb, hl b hb]
    rw [List.map_append, List.map_singleton, eraseDups_concat, eraseDups_concat, List.map_append,
      ih hl]
    by_cases hal : a ∈ l
    · simp [hal, hmem]
    · simp [hal, hmem, ha]

end Statements

section Files

variable (l : List (String × String)) (own : TypeReference)

def statementOf (n : String) : String := importStatement n ((Assoc.get? n l).getD own.module)

def usedTypes (mentioned : List String) : List String :=
  own.typeName :: mentioned.filter (· ∈ Assoc.keys l)

/-- How the used types are imported. -/
structure ImportsTypes (mentioned : List String) (f : File) : Prop where
  inOrder : f.imports = ((usedTypes l own mentioned).map (statementOf l own)).eraseDups
  once : f.imports.Nodup
  ofTable : ∀ n ∈ usedTypes l own mentioned, ∀ m, Assoc.get? n l = some m →
    importStatement n m ∈ f.imports
  onlyThese : ∀ s ∈ f.imports,
    (∃ n ∈ usedTypes l own mentioned, ∃ m, Assoc.get? n l = some m ∧ s = importStatement n m) ∨
      Assoc.get? own.typeName l = none ∧ s = importStatement own.typeName own.module
  distinct : (∀ n ∈ usedTypes l own mentioned, isWord n = true) →
    f.imports.map declaredName = (usedTypes l own mentioned).eraseDups

variable {l own} {f : File} {ss mentioned : List String}

lemma imports_addImports (hf : f.imports = []) (ss : List String) :
    (f.addImports ss).imports = ss.eraseDups := by
  induction ss using List.reverseRecOn with
  | nil => exact hf
  | append_singleton ss s ih =>
    have hstep : f.addImports (ss ++ [s]) = (f.addImports ss).addImport s := by
      rw [File.addImports, List.foldl_concat]
      rfl
    have hc : ss.eraseDups.contains s = decide (s ∈ ss) := by
      rw [Bool.eq_iff_iff, List.contains_iff_mem, List.mem_eraseDups, decide_eq_true_eq]
    rw [hstep, File.addImport, ih, hc, eraseDups_concat]
    by_cases hs : s ∈ ss
    · simp [hs, ih]
    · simp [hs]

lemma get?_isSome_iff {n : String} : (∃ m, Assoc.get? n l = some m) ↔ n ∈ Assoc.keys l := by
  rw [← Option.ne_none_iff_exists', ne_eq, Assoc.get?_eq_none_iff, not_not]

lemma importsTypes_of_imports
    (h : f.imports = ((usedTypes l own mentioned).map (statementOf l own)).eraseDups) :
    ImportsTypes l own mentioned f := by
  have hmem : ∀ s, s ∈ f.imports ↔ ∃ n ∈ usedTypes l own mentioned, statementOf l own n = s := by
    intro s
    rw [h, List.mem_eraseDups, List.mem_map]
  have hof : ∀ n m, Assoc.get? n l = some m → statementOf l own n = importStatement n m := by
    intro n m hm
    rw [statementOf, hm, Option.getD_some]
  refine ⟨h, h ▸ nodup_eraseDups _, ?_, ?_, ?_⟩
  · intro n hn m hm
    exact (hmem _).mpr ⟨n, hn, hof n m hm⟩
  · intro s hs
    obtain ⟨n, hn, rfl⟩ := (hmem s).mp hs
    cases hg : Assoc.get? n l with
    | some m => exact Or.inl ⟨n, hn, m, hg, hof n m hg⟩
    | none =>
      -- Without an entry it can only be the file's own type.
      rcases List.mem_cons.mp hn with rfl | hn
      · exact Or.inr ⟨hg, by rw [statementOf, hg, Option.getD_none]⟩
      · obtain ⟨m, hm⟩ := get?_isSome_iff.mpr (of_decide_eq_true (List.mem_filter.mp hn).2)
        rw [hg] at hm
        cases hm
  · intro hw
    rw [h]
    exact map_eraseDups fun n hn => declaredName_importStatement (hw n hn) _

end Files

section Requests

variable {q : Request} {l : List (String × String)}

lemma typeImport_eq (hq : q.imports = ofList l) (own : TypeReference) :
    q.typeImport own = statementOf l own own.typeName := by
  rw [Request.typeImport, hq, get?_ofList, statementOf]
  cases Assoc.get? own.typeName l <;> rfl

lemma filterMap_get? (l : List (String × String)) (own : TypeReference) (ns : List String) :
    ns.filterMap (ofList l).get? =
      (ns.filter (· ∈ Assoc.keys l)).map (statementOf l own) := by
  induction ns with
  | nil => rfl
  | cons n ns ih =>
    rw [List.filterMap_cons, List.filter_cons, get?_ofList, ih]
    cases hg : Assoc.get? n l with
    | none =>
      have hn : n ∉ Assoc.keys l := Assoc.get?_eq_none_iff.mp hg
      simp [hn]
    | some m =>
      have hn : n ∈ Assoc.keys l := get?_isSome_iff.mp ⟨m, hg⟩
      simp [hn, statementOf, hg]

namespace Request

def parameterTypes (q : Request) (v : Record) : List String :=
  (q.eventsOf v.tag).flatMap fun e => e.parameters.map (·.type)

end Request

lemma bindingImports_eq (hq : q.imports = ofList l) :
    bindingImports q = (usedTypes l q.rootContainer (q.index.views.map (·.tag))).map
      (statementOf l q.rootContainer) := by
  rw [bindingImports, usedTypes, List.map_cons, typeImport_eq hq, ← filterMap_get?,
    Request.boundViews, hq, List.map_filterMap, List.filterMap_map]
  congr 1
  apply List.filterMap_congr
  intro v _
  rw [Option.map_map]
  exact congrFun Option.map_id _

lemma viewImports_eq (q : Request) (v : Record) :
    viewImports q v = (v.tag :: q.parameterTypes v).filterMap q.imports.get? := by
  rw [viewImports, Request.parameterTypes, List.filterMap_cons, List.filterMap_flatMap]
  have hp : q.parameterImports = fun e => (e.parameters.map (·.type)).filterMap q.imports.get? := by
    funext e
    rw [List.filterMap_map]
    rfl
  rw [hp]
  cases q.imports.get? v.tag <;> rfl

lemma presenterImports_eq (hq : q.imports = ofList l) :
    presenterImports q =
      (usedTypes l q.presenterBaseClass
        (q.index.views.flatMap fun v => v.tag :: q.parameterTypes v)).map
          (statementOf l q.presenterBaseClass) := by
  rw [presenterImports, usedTypes, List.map_cons, typeImport_eq hq, ← filterMap_get?,
    List.filterMap_flatMap, ← hq]
  congr 1
  apply List.flatMap_congr
  intro v _
  exact viewImports_eq q v

/-- The binding imports the root container and the classes of the views that are in the table; the
presenter base imports its base class, these classes and the types of parameters that are in the
table. Whatever is in the table is imported as it was entered first. -/
theorem imports_used_types (q : Request) (l : List (String × String)) (hq : q.imports = ofList l) :
    ImportsTypes l q.rootContainer (q.index.views.map (·.tag)) (binding q) ∧
      ImportsTypes l q.presenterBaseClass
        (q.index.views.flatMap fun v => v.tag :: q.parameterTypes v) (presenterBase q) := by
  constructor
  · apply importsTypes_of_imports
    rw [← bindingImports_eq hq]
    exact imports_addImports rfl _
  · apply importsTypes_of_imports
    rw [← presenterImports_eq hq]
    exact imports_addImports rfl _

def importingRequest (root : TypeReference) (l : List (String × String)) : Request where
  baseName := "b"
  index := ViewIndex.ofLayout (withViews ["ok", "no"]) .structural
  imports := ofList l
  eventsOf tag := if tag = "Text" then [⟨"end", "End", [⟨"e", "Touch"⟩, ⟨"at", "number"⟩]⟩] else []
  rootContainer := root
  presenterBaseClass := ⟨"Presenter", "m/Presenter"⟩

theorem imports_used_types_sample :
    let l := [("Touch", "m/Touch"), ("Text", "m/Text"), ("Text", "n/Text")]
    let q := importingRequest ⟨"Box", "m/Box"⟩ l
    q.imports = ofList l ∧
    (∀ n ∈ ["Box", "Text", "Presenter", "Touch"], isWord n = true) ∧
    (binding q).imports =
      ["import Box = require(\"m/Box\");", "import Text = require(\"m/Text\");"] ∧
    (presenterBase q).imports =
      ["import Presenter = require(\"m/Presenter\");", "import Text = require(\"m/Text\");",
        "import Touch = require(\"m/Touch\");"] ∧
    (presenterBase q).imports.map declaredName = ["Presenter", "Text", "Touch"] := by
  intro l q
  obtain ⟨hb, hp⟩ := imports_used_types q l rfl
  refine ⟨rfl, by decide +kernel, ?_, ?_, ?_⟩
  · rw [hb.inOrder]
    decide +kernel
  · rw [hp.inOrder]
    decide +kernel
  · rw [hp.distinct (by decide +kernel)]
    decide +kernel

theorem name_declared_twice :
    let q := importingRequest ⟨"Text ", "m/Box"⟩ [("Text", "m/Text")]
    (binding q).imports =
      ["import Text  = require(\"m/Box\");", "import Text = require(\"m/Text\");"] ∧
    (binding q).imports.map declaredName = ["Text", "Text"] := by
  intro q
  exact ⟨by decide +kernel, by decide +kernel⟩

end Requests

end Source

end LayoutSync
