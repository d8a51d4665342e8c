import LayoutSync.Proofs.Json.Printing
import LayoutSync.Proofs.Settings.Repeats
import LayoutSync.Workspace.Generator

namespace LayoutSync

open Json

section Numbers

abbrev HasNoNumber (v : Value) : Prop := v.AllNumbers fun _ => False

lemma hasNoNumber_array {α : Type} {encode : α → Value} (h : ∀ a, HasNoNumber (encode a)) (as : List α) :
    HasNoNumber (.array (as.map encode)) :=
  .array (List.forall_mem_map.mpr fun a _ => h a)

lemma hasNoNumber_typeReference (t : TypeReference) : HasNoNumber t.toJson :=
  .object (by simp [Value.AllNumbers.string])

lemma hasNoNumber_eventParameter (p : EventParameter) : HasNoNumber p.toJson :=
  .object (by simp [Value.AllNumbers.string])

lemma hasNoNumber_viewEvent (e : ViewEvent) : HasNoNumber e.toJson :=
  .object (by simp [Value.AllNumbers.string, hasNoNumber_array hasNoNumber_eventParameter])

lemma hasNoNumber_eventRule (r : EventRule) : HasNoNumber r.toJson :=
  .object (by simp [Value.AllNumbers.string, hasNoNumber_array hasNoNumber_viewEvent])

end Numbers

namespace Settings

variable {c : Settings} {source : String} {ms : List MemberText}

lemma hasNoNumber_member {k : String} {v : Value} (h : (k, v) ∈ c.members) : HasNoNumber v := by
  have hall : ∀ m ∈ c.members, HasNoNumber m.2 := by
    simp [members, Value.AllNumbers.string, Value.AllNumbers.bool, hasNoNumber_typeReference,
      hasNoNumber_array .string, hasNoNumber_array hasNoNumber_eventRule]
  exact hall (k, v) h

lemma nodup_fieldNames : fieldNames.Nodup := by decide

lemma eq_of_mem_members {k : String} {v w : Value} (hv : (k, v) ∈ c.members) (hw : (k, w) ∈ c.members) :
    v = w := by
  have hn : (c.members.map Prod.fst).Nodup := nodup_fieldNames
  exact (Prod.mk.inj (List.inj_on_of_nodup_map hn hv hw rfl)).2

lemma parse_spells (h : Spells c.toJson source.toList) : parse source = .ok c := by
  rw [toJson] at h
  cases h with
  | @object _ ms body _ hk hn h hj hp =>
    have hnames : ms.map MemberText.name = fieldNames := hn
    have hv : ∀ m ∈ ms, (∀ v, (m.name, v) ∈ c.members → Spells v m.value) ∧
        (m.name ∉ fieldNames → IsJson m.value) := by
      intro m hm
      obtain ⟨v, hv, hspells⟩ := exists_of_member hn h m hm
      refine ⟨fun w hw => eq_of_mem_members hv hw ▸ hspells, fun hnew => ?_⟩
      exact absurd (hnames ▸ List.mem_map_of_mem hm) hnew
    have hknown : known ms = fieldNames := by
      rw [known, hnames]
      exact List.filter_eq_self.mpr fun k hk => List.contains_iff_mem.mpr hk
    rw [parse_isObject ⟨hk, body, hj, hp⟩ hv (hknown ▸ nodup_fieldNames), hnames, keeping_all]

lemma spells_printFile (c : Settings) : Spells c.toJson c.toJson.printFile.toList := by
  have hline : Blank ['\n'] := by
    intro d hd
    obtain rfl := List.mem_singleton.mp hd
    rfl
  have h := (spells_print 0 c.toJson).pad blank_nil hline
  rw [Value.printFile, String.toList_ofList]
  exact h

/-- Settings come back from every text of theirs, such as the printed one. An object with some of their
fields among unknown members, in any order, gives them with standard values for the other fields. An
object in which a field is given twice is refused. -/
theorem parse_spelled (c : Settings) :
    (∀ source, Spells c.toJson source.toList → parse source = .ok c) ∧
    parse c.toJson.printFile = .ok c ∧
    (∀ k v t, (k, v) ∈ c.members → Spells v t → IsJson t) ∧
    ∀ ms source, IsObject ms source.toList →
      ((known ms).Nodup →
        (∀ m ∈ ms, (∀ v, (m.name, v) ∈ c.members → Spells v m.value) ∧
          (m.name ∉ fieldNames → IsJson m.value)) →
        parse source = .ok (c.keeping (ms.map MemberText.name))) ∧
      (¬ (known ms).Nodup → (∀ m ∈ ms, IsJson m.value) →
        ∃ f, parse source = .error f ∧ ∀ t path, FileTree.readText t path = .ok source →
          parseFile t path = .error (.settings source f)) := by
  refine ⟨fun source h => parse_spells h, parse_spells (spells_printFile c),
    fun k v t hv h => h.isJson (hasNoNumber_member hv), fun ms source ho => ⟨fun hn hv => ?_,
      fun hn hv => ?_⟩⟩
  · exact parse_isObject ho hv hn
  · cases h : parse source with
    | error f =>
      refine ⟨f, rfl, fun t path ht => ?_⟩
      rw [parseFile, ht]
      dsimp only
      rw [h]
    | ok s => exact absurd (nodup_of_parse ho hv h) hn

theorem parse_spelled_sample :
    let c : Settings := { baseTheme := "x", outputDir := "y" }
    let other : MemberText := ⟨"other", printString "other", "[1]".toList⟩
    let theme : MemberText := ⟨"baseTheme", printString "baseTheme", printString "x"⟩
    (Spells c.toJson c.toJson.printFile.toList ∧ parse c.toJson.printFile = .ok c) ∧
    (IsObject [other, theme] "\x7b\"other\":[1],\"baseTheme\":\"x\"\x7d".toList ∧
      (known [other, theme]).Nodup ∧
      parse "\x7b\"other\":[1],\"baseTheme\":\"x\"\x7d" = .ok { baseTheme := "x" }) ∧
    IsObject [theme, theme] "\x7b\"baseTheme\":\"x\",\"baseTheme\":\"x\"\x7d".toList ∧
      ¬ (known [theme, theme]).Nodup ∧
      ∃ f, parse "\x7b\"baseTheme\":\"x\",\"baseTheme\":\"x\"\x7d" = .error f := by
  intro c other theme
  obtain ⟨hall, -, hjson, hdocument⟩ := parse_spelled c
  have hother : other.Keyed := ⟨_, spellsString_print "other", padded_self _⟩
  have htheme : theme.Keyed := ⟨_, spellsString_print "baseTheme", padded_self _⟩
  have hvalue : Spells (.string "x") theme.value := .string (spellsString_print "x") (padded_self _)
  have hlist : IsJson other.value := by
    have hone : IsMagnitude ['1'] :=
      ⟨['1'], [], [], ⟨⟨by decide, List.forall_mem_singleton.mpr rfl⟩, fun h => nomatch h⟩, .inl rfl,
        .inl rfl, rfl⟩
    have hitems : ∀ t ∈ [['1']], IsJson t := by
      simpa using .number hone (.inl (padded_self _))
    exact .array hitems (.some _ _) (padded_self _)
  have hfirst : IsObject [other, theme] "\x7b\"other\":[1],\"baseTheme\":\"x\"\x7d".toList :=
    ⟨by simp [hother, htheme], _, .some _ _, [], [], blank_nil, blank_nil, by decide⟩
  have hsecond : IsObject [theme, theme] "\x7b\"baseTheme\":\"x\",\"baseTheme\":\"x\"\x7d".toList :=
    ⟨by simp [htheme], _, .some _ _, [], [], blank_nil, blank_nil, by decide⟩
  have hnodup : (known [other, theme]).Nodup := by decide
  have htwice : ¬ (known [theme, theme]).Nodup := by decide
  have htext : ("baseTheme", Value.string "x") ∈ c.members := by simp [c, members]
  have hfields : ∀ m ∈ [other, theme], (∀ v, (m.name, v) ∈ c.members → Spells v m.value) ∧
      (m.name ∉ fieldNames → IsJson m.value) := by
    simp only [List.forall_mem_cons]
    refine ⟨⟨fun v hv => ?_, fun _ => hlist⟩, ⟨fun v hv => ?_, fun hnew => ?_⟩, List.forall_mem_nil _⟩
    · exact absurd (List.mem_map_of_mem hv) (by decide : "other" ∉ c.members.map Prod.fst)
    · exact eq_of_mem_members htext hv ▸ hvalue
    · exact absurd hnew (by decide)
  have htexts : ∀ m ∈ [theme, theme], IsJson m.value := by
    have htheme := hjson "baseTheme" _ _ htext hvalue
    simpa using htheme
  refine ⟨⟨spells_printFile c, hall _ (spells_printFile c)⟩, ⟨hfirst, hnodup, ?_⟩, hsecond, htwice, ?_⟩
  · rw [(hdocument _ _ hfirst).1 hnodup hfields]
    rfl
  · obtain ⟨f, hf, -⟩ := (hdocument _ _ hsecond).2 htwice htexts
    exact ⟨f, hf⟩

end Settings

end LayoutSync
