import ElementFinder.Proofs.Reports
import ElementFinder.Proofs.TypedFailure

/-!
# How reading fails

Selectors are read from data, placeholders are filled in and times are made into deadlines. None of
this waits for anything, so none of it fails by a missed deadline.
-/

namespace ElementFinder

variable {α β : Type} {f : Failure}

/-- The result is not the failure of a missed deadline. -/
def Undated (r : Except Failure α) : Prop := ∀ f, r = .error f → ¬f.IsDeadline

namespace Undated

theorem ok (a : α) : Undated (.ok a) := by
  rintro f ⟨⟩

theorem error (hf : ¬f.IsDeadline) : Undated (.error f : Except Failure α) := by
  rintro _ ⟨rfl⟩
  exact hf

theorem bind {x : Except Failure α} {k : α → Except Failure β} (hx : Undated x)
    (hk : ∀ a, Undated (k a)) : Undated (x >>= k) := by
  intro f h
  obtain hf | ⟨a, _, hf⟩ := except_bind_error.mp h
  · exact hx f hf
  · exact hk a f hf

theorem map {x : Except Failure α} (hx : Undated x) (g : α → β) : Undated (x.map g) := by
  cases x with
  | ok a => exact ok (g a)
  | error e => exact error (hx e rfl)

theorem mapError (x : Except NumeralFault α) : Undated (x.mapError Failure.numeral) := by
  cases x with
  | ok a => exact ok a
  | error fault => exact error id

theorem mapM {k : α → Except Failure β} (hk : ∀ a, Undated (k a)) (l : List α) :
    Undated (l.mapM k) := by
  induction l with
  | nil => exact ok _
  | cons a l ih =>
      rw [List.mapM_cons]
      exact (hk a).bind fun _ => ih.bind fun _ => ok _

end Undated

open Undated

/-! ## Values -/

namespace Value

theorem writeOrFail_undated (v : Value) : Undated v.writeOrFail := .mapError _

theorem displayOrFail_undated (v : Value) : Undated v.displayOrFail := .mapError _

theorem toInteger_undated (v : Value) : Undated v.toInteger := by
  cases v with
  | float x =>
      rw [toInteger]
      split
      · exact .ok _
      · split
        · exact .ok _
        · exact .error id
  | _ => exact .ok _

theorem toDouble_undated (v : Value) : Undated v.toDouble := by
  rw [toDouble.eq_def]
  split
  · split
    · exact .ok _
    · exact .error id
  · split
    · exact .error id
    · split
      · exact .ok _
      · exact .error id

theorem secondsOfMillis_undated (v : Value) : Undated v.secondsOfMillis := by
  rw [secondsOfMillis]
  split
  · exact .error id
  · exact (toDouble_undated v).map _

end Value

/-! ## Selectors -/

theorem readInteger_undated (place : String) (v : Value) : Undated (readInteger place v) := by
  rw [readInteger.eq_def]
  split
  · rw [pure_bind]
    exact (Value.displayOrFail_undated _).bind fun _ => .error id
  · refine v.toInteger_undated.bind fun found => ?_
    cases found with
    | some n => exact .ok n
    | none => exact v.displayOrFail_undated.bind fun _ => .error id

theorem readBool_undated (place : String) (v : Value) : Undated (readBool place v) := by
  rw [readBool.eq_def]
  split
  · exact .ok _
  · exact v.displayOrFail_undated.bind fun _ => .error id

theorem readPlainField_undated (s : Selector) (key : FieldKey) (place : String) (v : Value) :
    Undated (readPlainField s key place v) := by
  cases key with
  | text => exact v.writeOrFail_undated.bind fun _ => .ok _
  | id => exact v.writeOrFail_undated.bind fun _ => .ok _
  | index => exact v.writeOrFail_undated.bind fun _ => .ok _
  | width => exact (readInteger_undated place v).bind fun _ => .ok _
  | height => exact (readInteger_undated place v).bind fun _ => .ok _
  | tolerance => exact (readInteger_undated place v).bind fun _ => .ok _
  | enabled => exact (readBool_undated place v).bind fun _ => .ok _
  | selected => exact (readBool_undated place v).bind fun _ => .ok _
  | focused => exact (readBool_undated place v).bind fun _ => .ok _
  | anchor r => exact .ok _
  | descendants => exact .ok _

namespace Selector

mutual

theorem ofValue_undated (strict : Bool) (place : String) :
    ∀ v, Undated (ofValue strict place v)
  | .text _ => .ok _
  | .map entries => ofEntries_undated strict place _ entries {}
  | .enclosing true => .error id
  | .enclosing false | .null | .bool _ | .int _ | .float _ | .bytes _ | .date _ | .moment _
  | .list _ | .pair _ _ | .set _ | .setting _ => .error id

theorem ofEntries_undated (strict : Bool) (place : String) (textGiven : Bool) :
    ∀ entries s, Undated (ofEntries strict place textGiven entries s)
  | [], s => .ok _
  | (key, value) :: rest, s => by
    have hrest : ∀ s, Undated (ofEntries strict place textGiven rest s) := fun s =>
      ofEntries_undated strict place textGiven rest s
    rw [ofEntries]
    split
    · split
      · exact hrest s
      · exact value.writeOrFail_undated.bind fun _ => hrest _
    · split
      · exact key.writeOrFail_undated.bind fun _ => .error id
      · exact hrest s
    · split
      · exact hrest s
      · split
        · exact (ofValue_undated strict _ value).bind fun _ => hrest _
        · exact (ofItems_undated strict _ value).bind fun _ => hrest _
        · exact (readPlainField_undated s _ _ value).bind hrest

theorem ofItems_undated (strict : Bool) (place : String) :
    ∀ v, Undated (ofItems strict place v)
  | .list items => ofList_undated strict place 0 items
  | .enclosing false => .error id
  | .enclosing true | .null | .bool _ | .int _ | .float _ | .bytes _ | .date _ | .moment _
  | .text _ | .map _ | .pair _ _ | .set _ | .setting _ => .error id

theorem ofList_undated (strict : Bool) (place : String) (i : Nat) :
    ∀ items, Undated (ofList strict place i items)
  | [] => .ok _
  | v :: rest => by
    rw [ofList]
    exact (ofValue_undated strict _ v).bind fun _ =>
      (ofList_undated strict place (i + 1) rest).bind fun _ => .ok _

end

end Selector

/-! ## Object maps -/

namespace Placeholder

theorem fillText_undated (bindings : Value) (text : String) :
    Undated (fillText bindings text) := by
  refine (Undated.mapM (fun p => ?_) _).bind fun _ => .ok _
  cases p with
  | char c => exact .ok _
  | named name =>
      refine Undated.bind ?_ fun found => ?_
      · rw [valueOf?.eq_def]
        split
        · exact .ok _
        · exact .error id
      · split
        · exact Value.writeOrFail_undated _
        · exact .ok _

mutual

theorem fill_undated (bindings : Value) : ∀ v, Undated (fill bindings v)
  | .text t => (fillText_undated bindings t).map _
  | .list items => (fillItems_undated bindings items).map _
  | .map entries => (fillEntries_undated bindings entries).map _
  | .enclosing _ => .error id
  | .null | .bool _ | .int _ | .float _ | .bytes _ | .date _ | .moment _
  | .pair _ _ | .set _ | .setting _ => .ok _

theorem fillItems_undated (bindings : Value) : ∀ items, Undated (fillItems bindings items)
  | [] => .ok _
  | v :: rest => by
    rw [fillItems]
    exact (fill_undated bindings v).bind fun _ =>
      (fillItems_undated bindings rest).bind fun _ => .ok _

theorem fillEntries_undated (bindings : Value) :
    ∀ entries, Undated (fillEntries bindings entries)
  | [] => .ok _
  | (k, v) :: rest => by
    rw [fillEntries]
    exact (fill_undated bindings v).bind fun _ =>
      (fillEntries_undated bindings rest).bind fun _ => .ok _

end

end Placeholder

theorem ObjectMap.selector_undated (m : ObjectMap) (name bindings : Value) :
    Undated (m.selector name bindings) := by
  rw [selector]
  split
  · exact .error id
  · split
    · exact name.writeOrFail_undated.bind fun _ => .error id
    · have hread : ∀ data, Undated (readSelector m.settings.strict name data) := fun data =>
        name.writeOrFail_undated.bind fun _ => Selector.ofValue_undated _ _ data
      dsimp only
      split
      · exact (Placeholder.fill_undated bindings _).bind hread
      · exact hread _

/-! ## Deadlines -/

theorem Finder.deadlineAt_undated {σ : Type} (finder : Finder σ) (configured : Timeouts)
    (now : Float) (limit : Limit) : Undated (finder.deadlineAt configured now limit) := by
  cases limit with
  | untilDeadline d => exact .ok d
  | usual optional milliseconds =>
      refine Undated.bind ?_ fun seconds => seconds.toDouble_undated.map _
      rw [Finder.timeout]
      -- Each of the four ways to set a time is a number of milliseconds, or the configured value.
      repeat' split
      all_goals first | exact (Value.secondsOfMillis_undated _).map _ | exact .ok _

end ElementFinder
