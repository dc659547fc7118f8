import ElementFinder.Proofs.Escapes
import ElementFinder.Proofs.Reordered

/-!
# Selectors whatever the order of their keys

The order of the entries makes no difference to a selector if each entry that is come to can be read or is
refused in an orderly way, and if the words for each of its fields are settled. So a text that counts as
false is not settled next to the other key for it: what stands last is the text.
-/

namespace ElementFinder

open Run Value

namespace Selector

variable {strict textGiven : Bool} {place : String} {v w key : Value} {e f : Value × Value}
  {xs ys before after : List (Value × Value)} {items : List Value} {k : FieldKey} {s : Selector}

/-! ## Failures of another kind in some order -/

/-- An entry fails for another reason than its form, apart from the selectors inside. -/
def FailsItself (strict textGiven : Bool) (e : Value × Value) : Prop :=
  match EntryKind.ofKey e.1 with
  | .textAlias => textGiven = false ∧ e.2.HoldsTooLong
  | .unknown => strict = true ∧ e.1.HoldsTooLong
  | .field .descendants _ => e.2 = .enclosing false
  | .field k _ => k.Escapes e.2

/-- With the entries of its mappings in some order, reading a value fails for another reason than its
form. -/
inductive MayEscape (strict : Bool) : Value → Prop
  | itself : MayEscape strict (.enclosing true)
  | entry {entries : List (Value × Value)} {e : Value × Value} : e ∈ entries →
      FailsItself strict (givesText entries) e → MayEscape strict (.map entries)
  | anchor {entries : List (Value × Value)} {key value : Value} {r : Relation} {name : String} :
      (key, value) ∈ entries → EntryKind.ofKey key = .field (.anchor r) name → MayEscape strict value →
      MayEscape strict (.map entries)
  | descendant {entries : List (Value × Value)} {key v : Value} {items : List Value} {name : String} :
      (key, .list items) ∈ entries → EntryKind.ofKey key = .field .descendants name →
      ReachesItem strict items v → MayEscape strict v → MayEscape strict (.map entries)

theorem fieldEscapes_reordered (h : v.Reordered w) (hk : k.Escapes w) : k.Escapes v := by
  have hlong := h.holdsTooLong_iff
  have hnumber : w.IsInfinite ∨ w.IsUnspeakable → v.IsInfinite ∨ v.IsUnspeakable := by
    rintro (⟨hb, hnan⟩ | ⟨hw, hint⟩)
    · cases h with
      | same => exact Or.inl ⟨hb, hnan⟩
    · refine Or.inr ⟨hlong.mpr hw, ?_⟩
      rintro n rfl
      cases h with
      | same => exact hint n rfl
  cases k with
  | width | height | tolerance => exact hnumber hk
  | anchor r => exact hk
  | descendants => exact hk
  | _ => exact hlong.mpr hk

theorem failsItself_reordered (h : EntryReordered e f) (hf : FailsItself strict textGiven f) :
    FailsItself strict textGiven e := by
  rw [FailsItself, h.key_eq] at hf
  rw [FailsItself]
  split at hf
  · exact ⟨hf.1, h.value.holdsTooLong_iff.mpr hf.2⟩
  · exact hf
  · exact (hf ▸ h.value).eq_enclosing
  · exact fieldEscapes_reordered h.value hf

theorem reachesItem_reordered {items' : List Value} (h : List.Forall₂ Reordered items' items)
    (hapart : ∀ v ∈ items', AllVisited NamesApart v) (hreach : ReachesItem strict items w) :
    ∃ v ∈ items', v.Reordered w ∧ ReachesItem strict items' v := by
  obtain ⟨before, after, place, ss, rfl, hss⟩ := hreach
  have hbefore := List.forall₂_take_append items' before (w :: after) h
  obtain ⟨v, after', hvw, -, hrest⟩ :=
    List.forall₂_cons_right_iff.mp (List.forall₂_drop_append items' before (w :: after) h)
  have hitems : items' = items'.take before.length ++ v :: after' := by
    rw [← hrest, List.take_append_drop]
  have hread : SameIf _ (ofList strict place 0 (items'.take before.length)) (ofList strict place 0 before) :=
    ofList_reordered hbefore fun v hv w hvw place =>
      (ofValue_reordered strict v).1 (hapart v (List.mem_of_mem_take hv)) w hvw place
  obtain ⟨ss', hss'⟩ := hread.exists_ok_iff.mpr ⟨ss, hss⟩
  exact ⟨v, hitems ▸ by simp, hvw, _, after', place, ss', hitems, hss'⟩

theorem mayEscape_of_entry (he : e ∈ xs) (hef : EntryReordered e f)
    (hvalue : Escapes strict f.2 → AllVisited NamesApart e.2 → MayEscape strict e.2)
    (hitems : ItemsEscape strict f.2 → AllInField NamesApart e.2 .descendants → e.2 = .enclosing false ∨
      ∃ items v, e.2 = .list items ∧ ReachesItem strict items v ∧ MayEscape strict v)
    (hapart : AllWithin NamesApart e.1 e.2) (h : EntryEscapes strict (givesText xs) f.1 f.2) :
    MayEscape strict (.map xs) := by
  obtain ⟨key, v⟩ := e
  obtain ⟨key', w⟩ := f
  obtain rfl : key' = key := hef.key_eq
  have hown : FailsItself strict (givesText xs) (key', w) → MayEscape strict (.map xs) := fun h =>
    .entry he (failsItself_reordered hef h)
  rw [entryEscapes_iff] at h
  cases hkey : EntryKind.ofKey key' with
  | textAlias => exact hown (by simpa [FailsItself, hkey] using h)
  | unknown => exact hown (by simpa [FailsItself, hkey] using h)
  | field k name =>
      simp only [hkey] at h
      simp only [AllWithin, hkey] at hapart
      cases k with
      | anchor r => exact .anchor he hkey (hvalue h hapart)
      | descendants =>
          obtain hend | ⟨items, u, rfl, hreach, hu⟩ := hitems h hapart
          · exact .entry he (by simpa [FailsItself, hkey] using hend)
          · exact .descendant he hkey hreach hu
      | _ => exact hown (by simpa [FailsItself, hkey] using h)

/-- What fails for another reason in one order may do so, whatever the order it is given in. -/
theorem mayEscape_of_escapes (strict : Bool) (v : Value) :
    (∀ w, v.Reordered w → Escapes strict w → AllVisited NamesApart v → MayEscape strict v) ∧
    (∀ w, v.Reordered w → ItemsEscape strict w → AllInField NamesApart v .descendants →
      v = .enclosing false ∨
        ∃ items u, v = .list items ∧ ReachesItem strict items u ∧ MayEscape strict u) := by
  induction v using inside_induction with
  | step v ih =>
      constructor
      · rintro w h (_ | @⟨ys, key, value, ⟨before, after, _, _, rfl, -⟩, hentry⟩) hapart
        · exact h.eq_enclosing ▸ .itself
        · obtain ⟨xs, rfl, hxs⟩ := h.inv_map
          obtain ⟨hhere, hwithin⟩ := allVisited_map_iff.mp hapart
          obtain ⟨e, he, hef⟩ := hxs.exists_left (List.mem_append_right before List.mem_cons_self)
          obtain ⟨hvalue, hitems⟩ := ih e.2 (.entry he)
          exact mayEscape_of_entry he hef (hvalue value hef.value) (hitems value hef.value) (hwithin e he)
            (givesText_reordered hhere hxs ▸ hentry)
      · rintro w h (_ | @⟨items, u, hreach, hu⟩) hapart
        · exact Or.inl h.eq_enclosing
        · obtain ⟨items', rfl, hitems⟩ := h.inv_list
          obtain ⟨v, hv, hvu, hreach⟩ := reachesItem_reordered hitems (hapart items' rfl) hreach
          exact Or.inr ⟨items', v, rfl, hreach, (ih v (.item hv)).1 u hvu hu (hapart items' rfl v hv)⟩

theorem escapes_first (hapart : NamesApart (before ++ e :: after)) (h : e.2.Reordered w)
    (hescapes : EntryEscapes strict (givesText (before ++ e :: after)) e.1 w) :
    ∃ u, (Value.map (before ++ e :: after)).Reordered u ∧ Escapes strict u := by
  have hmoved : EntriesReordered (before ++ e :: after) ((e.1, w) :: (before ++ after)) := .moved_first h
  -- No entry stands before it, so it is come to.
  refine ⟨_, .of_entries hmoved, .entry ⟨[], before ++ after, "", {}, rfl, rfl⟩ ?_⟩
  rw [givesText_reordered hapart hmoved]
  exact hescapes

theorem entryEscapes_of_failsItself (h : FailsItself strict textGiven e) :
    EntryEscapes strict textGiven e.1 e.2 := by
  rw [FailsItself] at h
  split at h
  · next hkey =>
    obtain ⟨rfl, hlong⟩ := h
    exact .otherText hkey hlong
  · next hkey => exact .unknownKey hkey h.1 h.2
  · next hkey => exact .descendants hkey (h ▸ .itself)
  · next hkey => exact .field hkey h

/-- What may fail for another reason does so in some order. -/
theorem MayEscape.exists_escapes (h : MayEscape strict v) (hapart : AllVisited NamesApart v) :
    ∃ w, v.Reordered w ∧ Escapes strict w := by
  induction h with
  | itself => exact ⟨_, .same _, .itself⟩
  | entry he h =>
      obtain ⟨before, after, rfl⟩ := List.append_of_mem he
      exact escapes_first (hapart _ .here) (.same _) (entryEscapes_of_failsItself h)
  | anchor he hkey _ ih =>
      obtain ⟨hhere, hwithin⟩ := allVisited_map_iff.mp hapart
      have hin := hwithin _ he
      simp only [AllWithin, hkey] at hin
      obtain ⟨w, hw, hescapes⟩ := ih hin
      obtain ⟨before, after, rfl⟩ := List.append_of_mem he
      exact escapes_first hhere hw (.anchor hkey hescapes)
  | descendant he hkey hreach _ ih =>
      obtain ⟨hhere, hwithin⟩ := allVisited_map_iff.mp hapart
      have hin := hwithin _ he
      simp only [AllWithin, hkey] at hin
      obtain ⟨first, rest, place, ss, rfl, hss⟩ := hreach
      obtain ⟨w, hw, hescapes⟩ := ih (hin _ rfl _ (by simp))
      obtain ⟨before, after, rfl⟩ := List.append_of_mem he
      exact escapes_first hhere hw.item
        (.descendants hkey (.item ⟨first, rest, place, ss, rfl, hss⟩ hescapes))

/-! ## Selectors that are the same in all orders -/

theorem ofList_at {i : Nat} {ss : List Selector} {rest : List Value}
    (h : ofList strict place i (items ++ v :: rest) = .ok ss) :
    ∃ a, ReadsAs strict v a ∧ ss[items.length]? = some a := by
  induction items generalizing i ss with
  | nil =>
      rw [List.nil_append, ofList] at h
      obtain ⟨a, ha, h⟩ := except_bind_ok.mp h
      obtain ⟨as, _, h⟩ := except_bind_ok.mp h
      cases h
      exact ⟨a, readsAs_of_ofValue ha, rfl⟩
  | cons first items ih =>
      rw [List.cons_append, ofList] at h
      obtain ⟨_, _, h⟩ := except_bind_ok.mp h
      obtain ⟨as, has, h⟩ := except_bind_ok.mp h
      cases h
      exact ih has

/-- In every order of its mappings a value is read as one selector. -/
def IsAlways (strict : Bool) (v : Value) (s : Selector) : Prop := ∀ w, v.Reordered w → ReadsAs strict w s

namespace IsAlways

/-- A field is what each of its entries says, as each can stand last. -/
theorem content (h : IsAlways strict (.map xs) s) (hapart : NamesApart xs) (he : e ∈ xs)
    (hk : target (givesText xs) e = some k) (hw : e.2.Reordered w) :
    ∃ a, Says strict w k a ∧ s.get k = some a := by
  obtain ⟨before, after, rfl⟩ := List.append_of_mem he
  have hmoved : EntriesReordered (before ++ e :: after) (before ++ after ++ [(e.1, w)]) := .moved_last hw
  have hread := h _ (.of_entries hmoved) ""
  rw [ofValue, givesText_reordered hapart hmoved] at hread
  have hlast : target (givesText (before ++ e :: after)) (e.1, w) = some k :=
    (target_reordered (.mk hw)).trans hk
  obtain ⟨a, ha⟩ := exists_says hread (by simp) hlast
  exact ⟨a, ha, get_of_last hread hlast (by simp) ha⟩

theorem wordsSettled (h : IsAlways strict (.map xs) s) (hapart : NamesApart xs) : WordsSettled xs := by
  intro k hwords e he e' he' hk hk' w hw
  obtain ⟨a, ha, hsa⟩ := h.content hapart he hk (.same _)
  obtain ⟨b, hb, hsb⟩ := h.content hapart he' hk' hw
  obtain rfl : a = b := Option.some.inj (hsa.symm.trans hsb)
  cases k with
  | text | id | index => exact (hb "").trans (ha "").symm
  | _ => exact hwords.elim

theorem anchor {r : Relation} {name : String} (h : IsAlways strict (.map xs) s) (hapart : NamesApart xs)
    (he : (key, v) ∈ xs) (hkey : EntryKind.ofKey key = .field (.anchor r) name) (hnull : v.isNull = false) :
    ∃ a, IsAlways strict v a := by
  have hk : target (givesText xs) (key, v) = some (.anchor r) := by simp [target, hkey, hnull]
  obtain ⟨a, _, hsa⟩ := h.content hapart he hk (.same _)
  refine ⟨a, fun w hw => ?_⟩
  obtain ⟨b, hb, hsb⟩ := h.content hapart he hk hw
  obtain rfl : a = b := Option.some.inj (hsa.symm.trans hsb)
  exact hb

theorem descendant {name : String} (h : IsAlways strict (.map xs) s) (hapart : NamesApart xs)
    (he : (key, .list items) ∈ xs) (hkey : EntryKind.ofKey key = .field .descendants name)
    (hv : v ∈ items) : ∃ a, IsAlways strict v a := by
  have hk : target (givesText xs) (key, .list items) = some .descendants := by simp [target, hkey, isNull]
  obtain ⟨first, rest, rfl⟩ := List.append_of_mem hv
  have hread : ∀ w, v.Reordered w → ∃ b, ReadsAs strict w b ∧ s.descendants[first.length]? = some b := by
    intro w hw
    obtain ⟨ds, hds, hs⟩ := h.content hapart he hk hw.item
    obtain ⟨b, hb, hat⟩ := ofList_at (hds "")
    exact ⟨b, hb, Option.some.inj hs ▸ hat⟩
  obtain ⟨a, _, ha⟩ := hread v (.same v)
  refine ⟨a, fun w hw => ?_⟩
  obtain ⟨b, hb, hat⟩ := hread w hw
  obtain rfl : a = b := Option.some.inj (ha.symm.trans hat)
  exact hb

theorem visits (h : IsAlways strict v s) (hapart : AllVisited NamesApart v) (hvisits : Visits v xs) :
    WordsSettled xs := by
  induction hvisits generalizing s with
  | here => exact h.wordsSettled (hapart _ .here)
  | @anchor _ _ _ value _ _ he hkey hinner ih =>
      have hnull : value.isNull = false := by
        cases hinner <;> rfl
      obtain ⟨a, ha⟩ := h.anchor (hapart _ .here) he hkey hnull
      exact ih ha fun inner hv => hapart inner (.anchor he hkey hv)
  | descendant he hkey hv _ ih =>
      obtain ⟨a, ha⟩ := h.descendant (hapart _ .here) he hkey hv
      exact ih ha fun inner hu => hapart inner (.descendant he hkey hv hu)

end IsAlways

end Selector

/-! ## Main result -/

open Selector

/-- Whatever the order of the entries of its mappings, a value is read as one selector, or refused as a
failure of the configuration: for all values but those that may fail in another way, and those with
a field whose words are not settled. -/
theorem key_order_makes_no_difference_iff (strict : Bool) (v : Value)
    (hapart : ∀ entries, Visits v entries → NamesApart entries) :
    (∀ (place : String) (w : Value), v.Reordered w →
      Alike Eq (fun f g => f.IsConfig ∧ g.IsConfig) (ofValue strict place v) (ofValue strict place w)) ↔
    ¬MayEscape strict v ∧ ∀ (place : String) (s : Selector), ofValue strict place v = .ok s →
      ∀ entries, Visits v entries → WordsSettled entries := by
  constructor
  · intro h
    refine ⟨fun hmay => ?_, fun place s hs entries => ?_⟩
    · obtain ⟨w, hw, hescapes⟩ := hmay.exists_escapes hapart
      refine (ofValue_orderly_iff strict w "").mp (fun g hg => ?_) hescapes
      have halike := h "" w hw
      rw [hg] at halike
      generalize ofValue strict "" v = x at halike
      cases halike with
      | error hboth => exact hboth.2
    · have halways : IsAlways strict v s := by
        intro w hw place'
        have halike := h place' w hw
        rw [readsAs_of_ofValue hs place'] at halike
        generalize ofValue strict place' w = y at halike
        cases halike with
        | ok hsame => rw [hsame]
      exact halways.visits hapart
  · rintro ⟨hmay, hsettled⟩ place w hw
    have horderly : ∀ u, v.Reordered u → Orderly (ofValue strict place u) := fun u hu =>
      (ofValue_orderly_iff strict u place).mpr fun hescapes =>
        hmay ((mayEscape_of_escapes strict v).1 u hu hescapes hapart)
    have hsame := (ofValue_reordered strict v).1 hapart w hw place
    have hv := horderly v (.same v)
    have hw := horderly w hw
    have hsettled := hsettled place
    generalize ofValue strict place v = x at hsame hv hsettled
    generalize ofValue strict place w = y at hsame hw
    cases hsame with
    | ok hsame => exact .ok (hsame (hsettled _ rfl))
    | error _ => exact .error ⟨hv _ rfl, hw _ rfl⟩

/-- A selector for an enabled element. -/
def enabledSave : List (Value × Value) :=
  [(.text "element", .text "Save"), (.text "enabled", .bool true)]

theorem key_order_makes_no_difference_iff_save :
    (∀ entries, Visits (.map enabledSave) entries → NamesApart entries) ∧
    ∀ (place : String) (w : Value), (Value.map enabledSave).Reordered w →
      Alike Eq (fun f g => f.IsConfig ∧ g.IsConfig) (ofValue true place (.map enabledSave))
        (ofValue true place w) := by
  have hvisits : ∀ p, p enabledSave → AllVisited p (.map enabledSave) := fun p h =>
    allVisited_map_iff.mpr ⟨h, List.forall_mem_cons.mpr ⟨trivial, List.forall_mem_singleton.mpr trivial⟩⟩
  have hapart : AllVisited NamesApart (.map enabledSave) := hvisits NamesApart (by simp [NamesApart, enabledSave])
  refine ⟨hapart, (key_order_makes_no_difference_iff true _ hapart).mpr
    ⟨fun hmay => ?_, fun _ _ _ => hvisits WordsSettled ?_⟩⟩
  · rcases hmay with _ | ⟨he, h⟩ | ⟨he, hkey, _⟩ | ⟨he, _, _, _⟩
    · rcases List.mem_cons.mp he with rfl | he
      · exact nomatch (h : _ ∧ (Value.text "Save").HoldsTooLong).2
      · obtain rfl := List.mem_singleton.mp he
        exact nomatch (h : (Value.bool true).HoldsTooLong)
    · rcases List.mem_cons.mp he with heq | he
      · cases heq
        cases hkey
      · cases List.mem_singleton.mp he
        cases hkey
    · simp [enabledSave] at he
  · have hsave : ∀ k : FieldKey, k.IsWords → ∀ e ∈ enabledSave, target false e = some k →
        e = (.text "element", .text "Save") := by
      intro k hk e he htarget
      rcases List.mem_cons.mp he with rfl | he
      · rfl
      · obtain rfl := List.mem_singleton.mp he
        cases htarget
        exact hk.elim
    intro k hk e he e' he' htarget htarget' w hw
    obtain rfl := hsave k hk e he htarget
    obtain rfl := hsave k hk e' he' htarget'
    cases hw with
    | same => rfl

/-- The text is the empty one or the other one, whichever stands last. -/
theorem empty_text_is_not_settled :
    let first : Value := .map [(.text "element", .text "Save"), (.text "text", .text "")]
    let second : Value := .map [(.text "text", .text ""), (.text "element", .text "Save")]
    first.Reordered second ∧ ofValue true "selector" first = .ok (ofText "") ∧
      ofValue true "selector" second = .ok (ofText "Save") ∧ ofText "" ≠ ofText "Save" := by
  refine ⟨.map (List.forall₂_same.mpr fun e _ => .refl e) (.swap _ _ _), rfl, rfl, fun h => ?_⟩
  have htext : some "" = some "Save" := congrArg (·.criteria.text) h
  simp at htext

end ElementFinder
