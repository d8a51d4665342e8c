import LayoutSync.Markup.Element
import Mathlib.Tactic.Lemma

namespace LayoutSync.Markup.Element

variable (e : Element) (k v : String)

lemma setAttr_of_attr {e : Element} {k v : String} (h : e.attr k = some v) :
    e.setAttr k v = (e, false) := if_pos h

lemma removeAttr_of_attr {e : Element} {k : String} (h : e.attr k = none) :
    e.removeAttr k = (e, false) := by
  have hc : ¬ e.attributes.contains k = true := by simpa [Dict.contains, attr] using h
  exact if_neg hc

lemma setAttr_eq : (e.setAttr k v).1 = { e with attributes := (e.setAttr k v).1.attributes } := by
  cases e
  unfold setAttr
  split <;> rfl

lemma removeAttr_eq :
    (e.removeAttr k).1 = { e with attributes := (e.removeAttr k).1.attributes } := by
  cases e
  unfold removeAttr
  split <;> rfl

lemma attr_setAttr_self : (e.setAttr k v).1.attr k = some v := by
  unfold setAttr
  split
  · assumption
  · exact Assoc.get?_put_self k v _

lemma attr_setAttr_of_ne {j k : String} (h : j ≠ k) : (e.setAttr k v).1.attr j = e.attr j := by
  unfold setAttr
  split
  · rfl
  · exact Assoc.get?_put_of_ne v _ h

lemma attr_removeAttr_self : (e.removeAttr k).1.attr k = none := by
  unfold removeAttr
  split
  · exact Assoc.get?_erase_self k _
  next h => simpa [Dict.contains, attr] using h

lemma attr_removeAttr_of_ne {j k : String} (h : j ≠ k) : (e.removeAttr k).1.attr j = e.attr j := by
  unfold removeAttr
  split
  · exact Assoc.get?_erase_of_ne _ h
  · rfl

end LayoutSync.Markup.Element
