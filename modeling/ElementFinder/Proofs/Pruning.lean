import ElementFinder.Proofs.FieldSources

/-!
# Data without unknown keys

Unknown keys of selector data are passed over when they are allowed, in a mapping and in its anchors and
descendants. So reading that allows them is strict reading of the data without them.
-/

namespace ElementFinder

open Schema

/-! ## Taking unknown keys away -/

namespace Value

mutual

/-- Selector data without the entries of unknown keys, in a mapping and in its anchors and descendants. What
is under a key that has another kind of value stays as it is. -/
def pruned : Value → Value
  | .map entries => .map (prunedEntries entries)
  | v => v

def prunedEntries : List (Value × Value) → List (Value × Value)
  | [] => []
  | (key, value) :: rest =>
    match property? key with
    | none => prunedEntries rest
    | some .selector => (key, value.pruned) :: prunedEntries rest
    | some .selectors => (key, value.prunedItems) :: prunedEntries rest
    | some _ => (key, value) :: prunedEntries rest

/-- The same for a list of selectors. -/
def prunedItems : Value → Value
  | .list items => .list (prunedAll items)
  | v => v

def prunedAll : List Value → List Value
  | [] => []
  | v :: rest => v.pruned :: prunedAll rest

end

variable {key value : Value} {entries rest : List (Value × Value)}

theorem isNull_pruned (v : Value) : v.pruned.isNull = v.isNull := by
  cases v <;> rfl

theorem isNull_prunedItems (v : Value) : v.prunedItems.isNull = v.isNull := by
  cases v <;> rfl

/-- What stays of the value of a field. -/
def prunedFor (v : Value) : FieldKey → Value
  | .anchor _ => v.pruned
  | .descendants => v.prunedItems
  | _ => v

theorem isNull_prunedFor (v : Value) (k : FieldKey) : (v.prunedFor k).isNull = v.isNull := by
  cases k with
  | anchor r => exact v.isNull_pruned
  | descendants => exact v.isNull_prunedItems
  | _ => rfl

theorem prunedEntries_unknown (h : EntryKind.ofKey key = .unknown) :
    prunedEntries ((key, value) :: rest) = prunedEntries rest := by
  rw [prunedEntries, property?_eq, h]

theorem prunedEntries_textAlias (h : EntryKind.ofKey key = .textAlias) :
    prunedEntries ((key, value) :: rest) = (key, value) :: prunedEntries rest := by
  rw [prunedEntries, property?_eq, h]

theorem prunedEntries_field {k : FieldKey} {name : String} (h : EntryKind.ofKey key = .field k name) :
    prunedEntries ((key, value) :: rest) = (key, value.prunedFor k) :: prunedEntries rest := by
  rw [prunedEntries, property?_eq, h]
  cases k <;> rfl

end Value

namespace Selector

open Value

/-- The text is not under an unknown key, so it is given in what stays if it was given before. -/
theorem givesText_pruned (entries : List (Value × Value)) :
    givesText (prunedEntries entries) = givesText entries := by
  have hfield : field? "text" (prunedEntries entries) = field? "text" entries := by
    induction entries with
    | nil => rfl
    | cons e rest ih =>
        obtain ⟨key, value⟩ := e
        by_cases htext : key = .text "text"
        · subst htext
          rw [prunedEntries_field rfl]
          rfl
        · have hother : key.sameKey (.text "text") = false :=
            Bool.eq_false_iff.mpr (mt sameKey_text_iff.mp htext)
          -- What is kept under another key may be pruned, but the search passes over it.
          have hskip : ∀ v l, field? "text" ((key, v) :: l) = field? "text" l := by
            intro v l
            rw [field?, lookup, List.find?_cons_of_neg (by simp [hother])]
            rfl
          rw [hskip, ← ih]
          cases hkey : EntryKind.ofKey key with
          | unknown => rw [prunedEntries_unknown hkey]
          | textAlias => rw [prunedEntries_textAlias hkey, hskip]
          | field k name => rw [prunedEntries_field hkey, hskip]
  rw [givesText, givesText, hfield]

/-! ## Reading what stays -/

variable {place : String} {textGiven : Bool} {key value : Value}

/-- What stays of the value of a known key is read strictly as the value is leniently. -/
theorem readEntry_pruned {k : FieldKey} {name : String} (hkey : EntryKind.ofKey key = .field k name)
    (hvalue : ∀ place, ofValue true place value.pruned = ofValue false place value)
    (hitems : ∀ place, ofItems true place value.prunedItems = ofItems false place value) :
    readEntry true place textGiven key (value.prunedFor k) = readEntry false place textGiven key value := by
  simp only [readEntry, hkey, isNull_prunedFor]
  cases k with
  | anchor r => simp only [prunedFor, hvalue]
  | descendants => simp only [prunedFor, hitems]
  | _ => rfl

mutual

theorem ofValue_pruned : ∀ (v : Value) (place : String),
    ofValue true place v.pruned = ofValue false place v
  | .map entries, place => by
    rw [pruned, ofValue, ofValue, givesText_pruned]
    exact ofEntries_pruned entries place (givesText entries) {}
  | .null, _ | .bool _, _ | .int _, _ | .float _, _ | .text _, _ | .bytes _, _ | .date _, _ | .moment _, _
  | .list _, _ | .pair _ _, _ | .set _, _ | .setting _, _ | .enclosing true, _ | .enclosing false, _ => rfl

theorem ofEntries_pruned : ∀ (entries : List (Value × Value)) (place : String) (textGiven : Bool)
    (s : Selector), ofEntries true place textGiven (prunedEntries entries) s =
      ofEntries false place textGiven entries s
  | [], _, _, _ => rfl
  | (key, value) :: rest, place, textGiven, s => by
    have hrest := ofEntries_pruned rest place textGiven
    cases hkey : EntryKind.ofKey key with
    | unknown =>
        have hskipped : readEntry false place textGiven key value = .ok id := by
          rw [readEntry, hkey]
          rfl
        rw [prunedEntries_unknown hkey, ofEntries_cons, hskipped]
        exact hrest s
    | textAlias =>
        have hsame : readEntry true place textGiven key value = readEntry false place textGiven key value := by
          simp only [readEntry, hkey]
        simp only [prunedEntries_textAlias hkey, ofEntries_cons, hsame, hrest]
    | field k name =>
        simp only [prunedEntries_field hkey, ofEntries_cons, hrest,
          readEntry_pruned hkey (ofValue_pruned value) (ofItems_pruned value)]

theorem ofItems_pruned : ∀ (v : Value) (place : String),
    ofItems true place v.prunedItems = ofItems false place v
  | .list items, place => ofList_pruned items place 0
  | .null, _ | .bool _, _ | .int _, _ | .float _, _ | .text _, _ | .bytes _, _ | .date _, _ | .moment _, _
  | .map _, _ | .pair _ _, _ | .set _, _ | .setting _, _ | .enclosing true, _ | .enclosing false, _ => rfl

theorem ofList_pruned : ∀ (items : List Value) (place : String) (i : Nat),
    ofList true place i (prunedAll items) = ofList false place i items
  | [], _, _ => rfl
  | v :: rest, place, i => by
    rw [prunedAll, ofList, ofList, ofValue_pruned v, ofList_pruned rest place (i + 1)]

end

/-! ## Data with known keys only -/

mutual

theorem allVisited_pruned : ∀ v : Value, AllVisited KnownKeys v.pruned
  | .map entries => allVisited_knownKeys_map_iff.mpr (allWithin_prunedEntries entries)
  | .text _ => allVisited_text
  | .null | .bool _ | .int _ | .float _ | .bytes _ | .date _ | .moment _ | .list _ | .pair _ _ | .set _
  | .setting _ | .enclosing _ => nofun

theorem allWithin_prunedEntries : ∀ (entries : List (Value × Value)), ∀ e ∈ prunedEntries entries,
    e.1.IsSelectorKey ∧ AllWithin KnownKeys e.1 e.2
  | [], _, he => absurd he List.not_mem_nil
  | (key, value) :: rest, e, he => by
    have hrest := allWithin_prunedEntries rest
    cases hkey : EntryKind.ofKey key with
    | unknown => exact hrest e (prunedEntries_unknown hkey ▸ he)
    | textAlias =>
        rw [prunedEntries_textAlias hkey] at he
        rcases List.mem_cons.mp he with rfl | he
        · exact ⟨isSelectorKey_of_ofKey_ne (by simp [hkey]), by simp [AllWithin, hkey]⟩
        · exact hrest e he
    | field k name =>
        rw [prunedEntries_field hkey] at he
        rcases List.mem_cons.mp he with rfl | he
        · refine ⟨isSelectorKey_of_ofKey_ne (by simp [hkey]), ?_⟩
          rw [AllWithin, hkey]
          cases k with
          | anchor r => exact allVisited_pruned value
          | descendants => exact allVisited_prunedItems value
          | _ => trivial
        · exact hrest e he

theorem allVisited_prunedItems : ∀ (v : Value) (items : List Value), v.prunedItems = .list items →
    ∀ w ∈ items, AllVisited KnownKeys w
  | .list items, _, h => by
    cases h
    exact allVisited_prunedAll items
  | .null, _, h | .bool _, _, h | .int _, _, h | .float _, _, h | .text _, _, h | .bytes _, _, h
  | .date _, _, h | .moment _, _, h | .map _, _, h | .pair _ _, _, h | .set _, _, h | .setting _, _, h
  | .enclosing _, _, h => nomatch h

theorem allVisited_prunedAll : ∀ (items : List Value), ∀ w ∈ prunedAll items, AllVisited KnownKeys w
  | [], _, hw => absurd hw List.not_mem_nil
  | v :: rest, w, hw => by
    rcases List.mem_cons.mp hw with rfl | hw
    · exact allVisited_pruned v
    · exact allVisited_prunedAll rest w hw

end

/-! ## Data that is read strictly -/

mutual

/-- What is read strictly has nothing to take away. -/
theorem pruned_of_strict : ∀ (v : Value) (place : String) (s : Selector),
    ofValue true place v = .ok s → v.pruned = v
  | .map entries, place, s, h =>
    congrArg Value.map (prunedEntries_of_strict entries place (givesText entries) {} s h)
  | .null, _, _, _ | .bool _, _, _, _ | .int _, _, _, _ | .float _, _, _, _ | .text _, _, _, _
  | .bytes _, _, _, _ | .date _, _, _, _ | .moment _, _, _, _ | .list _, _, _, _ | .pair _ _, _, _, _
  | .set _, _, _, _ | .setting _, _, _, _ | .enclosing _, _, _, _ => rfl

theorem prunedEntries_of_strict : ∀ (entries : List (Value × Value)) (place : String) (textGiven : Bool)
    (s t : Selector), ofEntries true place textGiven entries s = .ok t → prunedEntries entries = entries
  | [], _, _, _, _, _ => rfl
  | (key, value) :: rest, place, textGiven, s, t, h => by
    obtain ⟨set, hset, h⟩ := ofEntries_cons_ok h
    have hrest := prunedEntries_of_strict rest place textGiven (set s) t h
    cases hkey : EntryKind.ofKey key with
    | unknown =>
        simp only [readEntry, hkey, ↓reduceIte] at hset
        obtain ⟨_, _, hset⟩ := except_bind_ok.mp hset
        cases hset
    | textAlias => rw [prunedEntries_textAlias hkey, hrest]
    | field k name =>
        rw [prunedEntries_field hkey, hrest]
        simp only [readEntry, hkey] at hset
        have hsame : value.prunedFor k = value := by
          -- A null is not read at all, but there is nothing in it either.
          cases hnull : value.isNull with
          | true =>
              cases value with
              | null => cases k <;> rfl
              | _ => cases hnull
          | false =>
              simp only [hnull, Bool.false_eq_true, ↓reduceIte] at hset
              cases k with
              | anchor r =>
                  obtain ⟨a, ha, -⟩ := except_map_ok.mp hset
                  exact pruned_of_strict value _ a ha
              | descendants =>
                  obtain ⟨ds, hds, -⟩ := except_map_ok.mp hset
                  exact prunedItems_of_strict value _ ds hds
              | _ => rfl
        rw [hsame]

theorem prunedItems_of_strict : ∀ (v : Value) (place : String) (ss : List Selector),
    ofItems true place v = .ok ss → v.prunedItems = v
  | .list items, place, ss, h => congrArg Value.list (prunedAll_of_strict items place 0 ss h)
  | .null, _, _, _ | .bool _, _, _, _ | .int _, _, _, _ | .float _, _, _, _ | .text _, _, _, _
  | .bytes _, _, _, _ | .date _, _, _, _ | .moment _, _, _, _ | .map _, _, _, _ | .pair _ _, _, _, _
  | .set _, _, _, _ | .setting _, _, _, _ | .enclosing _, _, _, _ => rfl

theorem prunedAll_of_strict : ∀ (items : List Value) (place : String) (i : Nat) (ss : List Selector),
    ofList true place i items = .ok ss → prunedAll items = items
  | [], _, _, _, _ => rfl
  | v :: rest, place, i, ss, h => by
    obtain ⟨s, hs, h⟩ := except_bind_ok.mp h
    obtain ⟨more, hmore, -⟩ := except_bind_ok.mp h
    rw [prunedAll, pruned_of_strict v _ s hs, prunedAll_of_strict rest place (i + 1) more hmore]

end

end Selector

/-! ## Main result -/

open Selector

/-- Selector data is read leniently as it is read strictly without its unknown keys, with the same selector or
the same failure; what is left has known keys only. So what is read strictly is read leniently as the same. -/
theorem lenient_reading_is_strict_when_pruned (place : String) (v : Value) :
    (∀ entries, Visits v.pruned entries → KnownKeys entries) ∧
    ofValue false place v = ofValue true place v.pruned ∧
    ∀ s, ofValue true place v = .ok s → ofValue false place v = .ok s := by
  have hsame := ofValue_pruned v place
  refine ⟨allVisited_pruned v, hsame.symm, fun s hs => ?_⟩
  rw [← hsame, pruned_of_strict v place s hs]
  exact hs

/-- The key of the anchor is known and that of its colour is not. A mapping that is no selector stays. -/
example : Value.pruned (.map [(.int 1, .null), (.text "text", .map [(.text "colour", .null)]),
      (.text "below", .map [(.text "colour", .text "red"), (.text "id", .text "total")])]) =
    .map [(.text "text", .map [(.text "colour", .null)]),
      (.text "below", .map [(.text "id", .text "total")])] := by
  rfl

end ElementFinder
