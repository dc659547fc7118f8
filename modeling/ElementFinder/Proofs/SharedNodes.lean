import ElementFinder.ObjectMap.Basic
import ElementFinder.Selector.Document
import Mathlib.Data.List.Perm.Subperm

/-!
# Shared nodes

A document is a graph, in which a collection can be in several others and in itself; its value is a tree.
The steps that are allowed for making the tree are enough, so that no part of it is missing.
-/

namespace ElementFinder.Yaml

variable {parts : List Part} {inside : List Nat} {n : Nat}

/-- The numbers of nodes that enclose another one: no node is met twice on one way. -/
structure Enclosing (parts : List Part) (inside : List Nat) : Prop where
  nodup : inside.Nodup
  found : ∀ n ∈ inside, n < parts.length

namespace Enclosing

theorem nil : Enclosing parts [] := ⟨List.nodup_nil, nofun⟩

theorem cons (h : Enclosing parts inside) (hn : n < parts.length) (hnew : n ∉ inside) :
    Enclosing parts (n :: inside) :=
  ⟨List.nodup_cons.mpr ⟨hnew, h.nodup⟩, List.forall_mem_cons.mpr ⟨hn, h.found⟩⟩

theorem length_le (h : Enclosing parts inside) : inside.length ≤ parts.length := by
  have hsub : inside ⊆ List.range parts.length := fun n hn => List.mem_range.mpr (h.found n hn)
  simpa using (h.nodup.subperm hsub).length_le

end Enclosing

namespace View

/-- The steps that a view takes at most, inside of `depth` of the nodes. A value that is looked at on its
own can meet all of them again. -/
def steps (count : Nat) : View → Nat → Nat
  | .whole, depth => count - depth + 1
  | .each entry, depth => max (count - depth) (entry.steps count 0) + 1
  | .along _, depth => 2 * count - depth + 2

variable {count depth fuel : Nat} {view : View}

theorem steps_pos : 0 < view.steps count depth := by
  cases view <;> exact Nat.succ_pos _

theorem steps_ofItem (hdepth : depth < count) (h : view.steps count depth ≤ fuel + 1) :
    view.ofItem.steps count (depth + 1) ≤ fuel := by
  cases view <;> simp only [ofItem, steps] at h ⊢ <;> omega

theorem steps_ofEntry (hdepth : inside.length < count)
    (h : view.steps count inside.length ≤ fuel + 1) (key : Value) (n : Nat) :
    (view.ofEntry key (n :: inside)).1.steps count (view.ofEntry key (n :: inside)).2.length ≤ fuel := by
  cases view with
  | whole => simp only [ofEntry, steps, List.length_cons] at h ⊢; omega
  | each entry => simp only [ofEntry, steps, List.length_nil] at h ⊢; omega
  | along leads =>
    cases hleads : leads key <;>
      simp only [ofEntry, hleads, steps, if_true, Bool.false_eq_true, if_false, List.length_cons,
        List.length_nil] at h ⊢ <;> omega

theorem ofEntry_encloses (h : Enclosing parts inside) (view : View) (key : Value) :
    Enclosing parts (view.ofEntry key inside).2 := by
  cases view with
  | whole => exact h
  | each entry => exact .nil
  | along leads =>
    cases hleads : leads key with
    | true => simpa [ofEntry, hleads] using h
    | false => simpa [ofEntry, hleads] using .nil

end View

/-- More steps than a view takes make no difference. -/
theorem valueAt_add {fuel : Nat} (extra : Nat) {view : View} (h : Enclosing parts inside)
    (hsteps : view.steps parts.length inside.length ≤ fuel) (n : Nat) :
    valueAt parts (fuel + extra) view inside n = valueAt parts fuel view inside n := by
  -- on the steps: the node joins the enclosing ones, so what is left of the view takes one step less
  induction fuel generalizing view inside n with
  | zero => exact absurd hsteps (Nat.not_le.mpr View.steps_pos)
  | succ fuel ih =>
    rw [Nat.add_right_comm, valueAt, valueAt]
    by_cases hn : n < parts.length
    · by_cases hnew : n ∈ inside
      · simp [hnew]
      · have hinside := h.cons hn hnew
        have hdepth : inside.length < parts.length := hinside.length_le
        have hitem := funext (ih hinside (View.steps_ofItem hdepth hsteps))
        have hentry := fun key i => ih (View.ofEntry_encloses hinside view key)
          (View.steps_ofEntry hdepth hsteps key n) i
        simp only [hitem, hentry]
    · have hmissing : parts.getD n (.value .null) = .value .null := by simp [Nat.not_lt.mp hn]
      simp only [hmissing]

/-- The value of a document stays the same if more steps are allowed, for every view that looks at values
on their own at most twice on one way. -/
theorem Document.value_eq {d : Document} (hparts : d.parts = .ok parts) {view : View}
    (hsteps : view.steps parts.length 0 ≤ 2 * parts.length + 4) (extra : Nat) :
    d.value view = .ok (valueAt parts (2 * parts.length + 4 + extra) view [] d.root) := by
  rw [Document.value, hparts, valueAt_add extra .nil hsteps]
  rfl

end ElementFinder.Yaml

namespace ElementFinder

open Yaml

/-- The data of a selector and that of an object map have all their parts. -/
theorem data_has_all_parts {text : String} {d : Document} {parts : List Part}
    (hdocument : readDocument text = .ok (some d)) (hparts : d.parts = .ok parts) (extra : Nat) :
    Selector.dataOf text =
      .ok (valueAt parts (2 * parts.length + 4 + extra) (.along Selector.leadsOn) [] d.root) ∧
    ObjectMap.dataOf text =
      .ok (valueAt parts (2 * parts.length + 4 + extra) (.each (.each .whole)) [] d.root) := by
  have hread : ∀ view, Yaml.read view text = d.value view := fun view => by
    rw [Yaml.read, hdocument]
    rfl
  exact ⟨(hread _).trans (d.value_eq hparts (by simp only [View.steps]; omega) extra),
    (hread _).trans (d.value_eq hparts (by simp only [View.steps]; omega) extra)⟩

end ElementFinder
