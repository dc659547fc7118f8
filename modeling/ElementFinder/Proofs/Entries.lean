import ElementFinder.Proofs.Results
import ElementFinder.Selector.Read

/-!
# Entries of selector data

A mapping is read entry by entry, and a list value by value. What an entry sets depends on the entry
alone, not on the selector that it is set in, and the place of the data shows in messages only.
-/

namespace ElementFinder

/-- The integer that a value of an integer field stands for; a truth value stands for none. -/
def Value.fieldInteger : Value → Except Failure (Option Int)
  | .bool _ => .ok none
  | v => v.toInteger

theorem readInteger_eq (place : String) (v : Value) :
    readInteger place v = v.fieldInteger >>= fun found => match found with
      | some n => .ok n
      | none => v.displayOrFail >>= fun shown =>
        .error ((SelectorFault.notInteger shown).failure place) := by
  cases v <;> rfl

/-! ## Keys -/

/-- The key is the name of a field, or the other key for the text. -/
def Value.IsSelectorKey (key : Value) : Prop := ∃ name ∈ selectorKeys ++ [textAlias], key = .text name

theorem FieldKey.ofName?_eq_none_iff {s : String} : FieldKey.ofName? s = none ↔ s ∉ selectorKeys := by
  constructor
  · intro h hmem
    have hall : ∀ name ∈ selectorKeys, (FieldKey.ofName? name).isSome = true := by decide
    have hsome := hall s hmem
    rw [h] at hsome
    cases hsome
  · intro h
    cases hfield : FieldKey.ofName? s with
    | none => rfl
    | some k =>
        refine absurd ?_ h
        rw [ofName?.eq_def] at hfield
        split at hfield
        case h_11 =>
          obtain ⟨r, hr, -⟩ := Option.map_eq_some_iff.mp hfield
          have hname : r.name = s := by simpa using List.find?_some hr
          rw [← hname]
          cases r <;> decide
        all_goals decide

theorem EntryKind.ofKey_eq_unknown_iff {key : Value} :
    EntryKind.ofKey key = .unknown ↔ ¬key.IsSelectorKey := by
  rw [Value.IsSelectorKey]
  cases key with
  | text name =>
      have hname : (∃ n ∈ selectorKeys ++ [ElementFinder.textAlias], Value.text name = .text n) ↔
          name ∈ selectorKeys ∨ name = ElementFinder.textAlias := by
        simp
      rw [hname, ofKey]
      by_cases halias : name = ElementFinder.textAlias
      · simp [halias]
      · cases hfield : FieldKey.ofName? name with
        | none => simpa [halias] using FieldKey.ofName?_eq_none_iff.mp hfield
        | some k =>
            have hknown : name ∈ selectorKeys := Classical.byContradiction fun hno => by
              cases hfield.symm.trans (FieldKey.ofName?_eq_none_iff.mpr hno)
            simp [halias, hknown]
  | _ => simp [ofKey]

theorem EntryKind.key_of_textAlias {key : Value} (h : EntryKind.ofKey key = .textAlias) :
    key = .text ElementFinder.textAlias := by
  cases key with
  | text name =>
      rw [EntryKind.ofKey] at h
      split at h
      · next hname => rw [hname]
      · split at h <;> cases h
  | _ => cases h

theorem Value.isSelectorKey_of_ofKey_ne {key : Value} (h : EntryKind.ofKey key ≠ .unknown) :
    key.IsSelectorKey :=
  Classical.byContradiction fun hno => h (EntryKind.ofKey_eq_unknown_iff.mpr hno)

namespace Selector

variable {strict textGiven : Bool} {place : String} {s s' : Selector}

/-! ## One entry -/

/-- What a field sets that is neither an anchor nor the descendants. -/
def readField (key : FieldKey) (place : String) (v : Value) :
    Except Failure (Selector → Selector) :=
  match key with
  | .text => v.writeOrFail.map fun t s => s.changeCriteria fun c => { c with text := some t }
  | .id => v.writeOrFail.map fun t s => s.changeCriteria fun c => { c with id := some t }
  | .width => (readInteger place v).map fun n s => s.changeCriteria fun c => { c with width := some n }
  | .height =>
    (readInteger place v).map fun n s => s.changeCriteria fun c => { c with height := some n }
  | .tolerance =>
    (readInteger place v).map fun n s => s.changeCriteria fun c => { c with tolerance := some n }
  | .enabled => (readBool place v).map fun b s => s.changeCriteria fun c => { c with enabled := some b }
  | .selected =>
    (readBool place v).map fun b s => s.changeCriteria fun c => { c with selected := some b }
  | .focused => (readBool place v).map fun b s => s.changeCriteria fun c => { c with focused := some b }
  | .index => v.writeOrFail.map fun t s => { s with index := some t }
  | .anchor _ | .descendants => .ok id

/-- What one entry of a mapping sets. -/
def readEntry (strict : Bool) (place : String) (textGiven : Bool) (key value : Value) :
    Except Failure (Selector → Selector) :=
  match EntryKind.ofKey key with
  | .textAlias =>
    if textGiven then .ok id
    else value.writeOrFail.map fun t s => s.changeCriteria fun c => { c with text := some t }
  | .unknown =>
    if strict then key.writeOrFail >>= fun shown =>
      .error ((SelectorFault.unknownKey shown).failure place)
    else .ok id
  | .field k name =>
    if value.isNull then .ok id
    else match k with
      | .anchor r =>
        (ofValue strict (place ++ "." ++ name) value).map fun a s => s.withAnchor r a
      | .descendants =>
        (ofItems strict (place ++ "." ++ name) value).map fun ds s => { s with descendants := ds }
      | k => readField k (place ++ "." ++ name) value

theorem readPlainField_eq (key : FieldKey) (v : Value) :
    readPlainField s key place v = (readField key place v).map fun set => set s := by
  cases key with
  | anchor r => rfl
  | descendants => rfl
  | _ =>
      rw [readPlainField, readField]
      first
      | cases v.writeOrFail <;> rfl
      | cases readInteger place v <;> rfl
      | cases readBool place v <;> rfl

theorem ofEntries_cons (key value : Value) (rest : List (Value × Value)) (s : Selector) :
    ofEntries strict place textGiven ((key, value) :: rest) s =
      readEntry strict place textGiven key value >>= fun set =>
        ofEntries strict place textGiven rest (set s) := by
  have hmap : ∀ {α : Type} (x : Except Failure α) (f : α → Selector → Selector),
      (x.map f >>= fun set => ofEntries strict place textGiven rest (set s)) =
        x >>= fun a => ofEntries strict place textGiven rest (f a s) := by
    intro α x f
    cases x <;> rfl
  have happly : ∀ x : Except Failure (Selector → Selector),
      (x.map (fun set => set s) >>= ofEntries strict place textGiven rest) =
        x >>= fun set => ofEntries strict place textGiven rest (set s) := by
    intro x
    cases x <;> rfl
  rw [ofEntries, readEntry]
  cases EntryKind.ofKey key with
  | textAlias =>
      cases textGiven with
      | true => rfl
      | false => simp only [Bool.false_eq_true, ↓reduceIte, hmap, pure_bind]
  | unknown =>
      cases strict with
      | true =>
          simp only [↓reduceIte, bind_assoc]
          rfl
      | false => rfl
  | field k name =>
      cases hnull : value.isNull with
      | true => rfl
      | false =>
          cases k with
          | anchor r => simp only [Bool.false_eq_true, ↓reduceIte, hmap, pure_bind]
          | descendants => simp only [Bool.false_eq_true, ↓reduceIte, hmap, pure_bind]
          | _ => simp only [Bool.false_eq_true, ↓reduceIte, readPlainField_eq, happly]

theorem ofEntries_append (xs ys : List (Value × Value)) (s : Selector) :
    ofEntries strict place textGiven (xs ++ ys) s =
      ofEntries strict place textGiven xs s >>= ofEntries strict place textGiven ys := by
  induction xs generalizing s with
  | nil => rfl
  | cons e xs ih =>
      obtain ⟨key, value⟩ := e
      rw [List.cons_append, ofEntries_cons, ofEntries_cons, bind_assoc]
      congr 1
      funext set
      exact ih (set s)

/-- Reading a mapping is reading its entries and then setting what they set. -/
theorem ofEntries_eq_mapM (entries : List (Value × Value)) (s : Selector) :
    ofEntries strict place textGiven entries s =
      (entries.mapM fun e => readEntry strict place textGiven e.1 e.2).map fun sets =>
        sets.foldl (fun s set => set s) s := by
  induction entries generalizing s with
  | nil => rfl
  | cons e entries ih =>
      obtain ⟨key, value⟩ := e
      rw [ofEntries_cons, List.mapM_cons]
      cases readEntry strict place textGiven key value with
      | error f => rfl
      | ok set =>
          change ofEntries strict place textGiven entries (set s) = _
          rw [ih]
          cases entries.mapM fun e => readEntry strict place textGiven e.1 e.2 <;> rfl

/-! ## The place -/

/-- What succeeds in one place succeeds with the same result in every other one. -/
def PlaceFree {α : Type} (read : String → Except Failure α) : Prop :=
  ∀ place place' a, read place = .ok a → read place' = .ok a

namespace PlaceFree

variable {α β : Type} {read : String → Except Failure α}

theorem const (x : Except Failure α) : PlaceFree fun _ => x :=
  fun _ _ _ h => h

theorem map (h : PlaceFree read) (f : α → β) : PlaceFree fun place => (read place).map f := by
  intro place place' b hb
  obtain ⟨a, ha, rfl⟩ := except_map_ok.mp hb
  exact except_map_ok.mpr ⟨a, h place place' a ha, rfl⟩

theorem bind (h : PlaceFree read) {next : String → α → Except Failure β}
    (hnext : ∀ a, PlaceFree fun place => next place a) :
    PlaceFree fun place => read place >>= next place := by
  intro place place' b hb
  obtain ⟨a, ha, hab⟩ := except_bind_ok.mp hb
  exact except_bind_ok.mpr ⟨a, h place place' a ha, hnext a place place' b hab⟩

/-- What fails in every place is the same in all places. -/
theorem failing (failure : String → Failure) :
    PlaceFree fun place => (.error (failure place) : Except Failure α) :=
  fun _ _ _ => nofun

theorem within (h : PlaceFree read) (inner : String → String) :
    PlaceFree fun place => read (inner place) :=
  fun place place' => h (inner place) (inner place')

end PlaceFree

theorem readInteger_placeFree (v : Value) : PlaceFree fun place => readInteger place v := by
  simp only [readInteger_eq]
  refine (PlaceFree.const _).bind fun found => ?_
  cases found with
  | some n => exact .const (.ok n)
  | none => exact (PlaceFree.const v.displayOrFail).bind fun _ => .failing _

theorem readBool_placeFree (v : Value) : PlaceFree fun place => readBool place v := by
  cases v with
  | bool b => exact .const (.ok b)
  | _ => exact (PlaceFree.const _).bind fun _ => .failing _

theorem readField_placeFree (key : FieldKey) (v : Value) :
    PlaceFree fun place => readField key place v := by
  cases key with
  | text => exact .const _
  | id => exact .const _
  | index => exact .const _
  | width => exact (readInteger_placeFree v).map _
  | height => exact (readInteger_placeFree v).map _
  | tolerance => exact (readInteger_placeFree v).map _
  | enabled => exact (readBool_placeFree v).map _
  | selected => exact (readBool_placeFree v).map _
  | focused => exact (readBool_placeFree v).map _
  | anchor r => exact .const _
  | descendants => exact .const _

theorem readEntry_placeFree {key value : Value}
    (hvalue : PlaceFree fun place => ofValue strict place value)
    (hitems : PlaceFree fun place => ofItems strict place value) :
    PlaceFree fun place => readEntry strict place textGiven key value := by
  unfold readEntry
  cases EntryKind.ofKey key with
  | textAlias => exact .const _
  | unknown =>
      cases strict with
      | true => exact (PlaceFree.const key.writeOrFail).bind fun shown => .failing _
      | false => exact .const _
  | field k name =>
      cases value.isNull with
      | true => exact .const _
      | false =>
          cases k with
          | anchor r => exact (hvalue.within (· ++ "." ++ name)).map _
          | descendants => exact (hitems.within (· ++ "." ++ name)).map _
          | _ =>
              simp only [Bool.false_eq_true, ↓reduceIte]
              exact (readField_placeFree _ value).within (· ++ "." ++ name)

mutual

theorem ofValue_placeFree (strict : Bool) : ∀ v, PlaceFree fun place => ofValue strict place v
  | .text _ => .const _
  | .map entries => ofEntries_placeFree strict (givesText entries) entries {}
  | .enclosing true => .const _
  | .enclosing false | .null | .bool _ | .int _ | .float _ | .bytes _ | .date _ | .moment _
  | .list _ | .pair _ _ | .set _ | .setting _ => .failing _

theorem ofEntries_placeFree (strict textGiven : Bool) :
    ∀ entries s, PlaceFree fun place => ofEntries strict place textGiven entries s
  | [], _ => .const _
  | (key, value) :: rest, s => by
    simp only [ofEntries_cons]
    exact (readEntry_placeFree (ofValue_placeFree strict value) (ofItems_placeFree strict value)).bind
      fun set => ofEntries_placeFree strict textGiven rest (set s)

theorem ofItems_placeFree (strict : Bool) : ∀ v, PlaceFree fun place => ofItems strict place v
  | .list items => ofList_placeFree strict 0 items
  | .enclosing false => .const _
  | .enclosing true | .null | .bool _ | .int _ | .float _ | .bytes _ | .date _ | .moment _
  | .text _ | .map _ | .pair _ _ | .set _ | .setting _ => .failing _

theorem ofList_placeFree (strict : Bool) (i : Nat) :
    ∀ items, PlaceFree fun place => ofList strict place i items
  | [] => .const _
  | v :: rest =>
    ((ofValue_placeFree strict v).within (· ++ "[" ++ toString i ++ "]")).bind fun _ =>
      (ofList_placeFree strict (i + 1) rest).bind fun _ => .const _

end

end Selector

end ElementFinder
