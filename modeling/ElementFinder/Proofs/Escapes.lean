import ElementFinder.Proofs.Orderly
import ElementFinder.Selector.Document

/-!
# Selector data that is not refused in an orderly way

Data that is no selector is refused as a failure of the configuration. Other failures arise where the
words for the data cannot be found, where an integer is to be made of a double without bound, and in data
that holds itself; for all other data there are none.
-/

namespace ElementFinder

namespace Selector

/-! ## How reading leaves the family of configuration failures -/

/-- Reading the entries of a mapping comes to this entry: those before it are read. -/
def Reaches (strict : Bool) (entries : List (Value × Value)) (key value : Value) : Prop :=
  ∃ before after place s, entries = before ++ (key, value) :: after ∧
    ofEntries strict place (givesText entries) before {} = .ok s

/-- Reading the selectors of a list comes to this value. -/
def ReachesItem (strict : Bool) (items : List Value) (v : Value) : Prop :=
  ∃ before after place ss, items = before ++ v :: after ∧ ofList strict place 0 before = .ok ss

mutual

/-- Reading the value as a selector fails for another reason than the form of the data. -/
inductive Escapes (strict : Bool) : Value → Prop
  | itself : Escapes strict (.enclosing true)
  | entry {entries : List (Value × Value)} {key value : Value} :
      Reaches strict entries key value → EntryEscapes strict (givesText entries) key value →
      Escapes strict (.map entries)

/-- The same for an entry of a mapping. -/
inductive EntryEscapes (strict : Bool) : Bool → Value → Value → Prop
  | otherText {key value : Value} :
      EntryKind.ofKey key = .textAlias → value.HoldsTooLong → EntryEscapes strict false key value
  | unknownKey {textGiven : Bool} {key value : Value} :
      EntryKind.ofKey key = .unknown → strict = true → key.HoldsTooLong →
      EntryEscapes strict textGiven key value
  | field {textGiven : Bool} {key value : Value} {k : FieldKey} {name : String} :
      EntryKind.ofKey key = .field k name → k.Escapes value → EntryEscapes strict textGiven key value
  | anchor {textGiven : Bool} {key value : Value} {r : Relation} {name : String} :
      EntryKind.ofKey key = .field (.anchor r) name → Escapes strict value →
      EntryEscapes strict textGiven key value
  | descendants {textGiven : Bool} {key value : Value} {name : String} :
      EntryKind.ofKey key = .field .descendants name → ItemsEscape strict value →
      EntryEscapes strict textGiven key value

/-- The same for a list of selectors. -/
inductive ItemsEscape (strict : Bool) : Value → Prop
  | itself : ItemsEscape strict (.enclosing false)
  | item {items : List Value} {v : Value} :
      ReachesItem strict items v → Escapes strict v → ItemsEscape strict (.list items)

end

variable {strict textGiven : Bool} {place : String} {key value : Value}

theorem entryEscapes_iff : EntryEscapes strict textGiven key value ↔
    match EntryKind.ofKey key with
    | .textAlias => textGiven = false ∧ value.HoldsTooLong
    | .unknown => strict = true ∧ key.HoldsTooLong
    | .field (.anchor _) _ => Escapes strict value
    | .field .descendants _ => ItemsEscape strict value
    | .field k _ => k.Escapes value := by
  constructor
  · intro h
    cases h with
    | otherText hkey hlong =>
        rw [hkey]
        exact ⟨rfl, hlong⟩
    | unknownKey hkey hstrict hlong =>
        rw [hkey]
        exact ⟨hstrict, hlong⟩
    | @field _ _ _ k _ hkey hfield =>
        rw [hkey]
        cases k with
        | anchor r => exact hfield.elim
        | descendants => exact hfield.elim
        | _ => exact hfield
    | anchor hkey hanchor =>
        rw [hkey]
        exact hanchor
    | descendants hkey hitems =>
        rw [hkey]
        exact hitems
  · intro h
    cases hkey : EntryKind.ofKey key with
    | textAlias =>
        rw [hkey] at h
        obtain ⟨rfl, hlong⟩ := h
        exact .otherText hkey hlong
    | unknown =>
        rw [hkey] at h
        exact .unknownKey hkey h.1 h.2
    | field k name =>
        rw [hkey] at h
        cases k with
        | anchor r => exact .anchor hkey h
        | descendants => exact .descendants hkey h
        | _ => exact .field hkey h

/-! ## Each step of reading -/

theorem readEntry_orderly_iff
    (hvalue : ∀ place, Orderly (ofValue strict place value) ↔ ¬Escapes strict value)
    (hitems : ∀ place, Orderly (ofItems strict place value) ↔ ¬ItemsEscape strict value) :
    Orderly (readEntry strict place textGiven key value) ↔
      ¬EntryEscapes strict textGiven key value := by
  rw [entryEscapes_iff, readEntry]
  cases EntryKind.ofKey key with
  | textAlias =>
      cases textGiven with
      | true =>
          refine iff_of_true (.ok id) ?_
          rintro ⟨⟨⟩, -⟩
      | false => exact Orderly.map_iff.trans (by simp [Value.writeOrFail_orderly_iff])
  | unknown =>
      have hrefused : ∀ shown, ((SelectorFault.unknownKey shown).failure place).IsConfig :=
        fun _ => trivial
      cases strict with
      | true => exact (Orderly.refusal_iff hrefused).trans (by simp [Value.writeOrFail_orderly_iff])
      | false =>
          refine iff_of_true (.ok id) ?_
          rintro ⟨⟨⟩, -⟩
  | field k name =>
      cases hnull : value.isNull with
      | true =>
          -- A missing value is skipped, and nothing can go wrong with it.
          obtain rfl : value = .null := by
            cases value with
            | null => rfl
            | _ => cases hnull
          refine iff_of_true (.ok id) ?_
          cases k with
          | anchor r => rintro ⟨⟩
          | descendants => rintro ⟨⟩
          | _ => exact FieldKey.not_escapes_null _
      | false =>
          simp only [Bool.false_eq_true, ↓reduceIte]
          cases k with
          | anchor r => exact Orderly.map_iff.trans (hvalue _)
          | descendants => exact Orderly.map_iff.trans (hitems _)
          | _ => exact readField_orderly_iff _ _ _

/-- Entries are read in an orderly way exactly if each entry is that reading comes to. -/
theorem ofEntries_orderly_iff {entries : List (Value × Value)} {s : Selector} :
    Orderly (ofEntries strict place textGiven entries s) ↔
      ∀ before key value after t, entries = before ++ (key, value) :: after →
        ofEntries strict place textGiven before s = .ok t →
        Orderly (readEntry strict place textGiven key value) := by
  rw [ofEntries_eq_mapM, Orderly.map_iff, Orderly.mapM_iff]
  constructor
  · intro h before key value after t hsplit hbefore
    rw [ofEntries_eq_mapM, except_map_ok] at hbefore
    obtain ⟨sets, hsets, -⟩ := hbefore
    exact h before (key, value) after hsplit (except_mapM_exists_ok.mp ⟨sets, hsets⟩)
  · intro h before e after hsplit hbefore
    obtain ⟨sets, hsets⟩ := except_mapM_exists_ok.mpr hbefore
    refine h before e.1 e.2 after (sets.foldl (fun s set => set s) s) hsplit ?_
    rw [ofEntries_eq_mapM, hsets]
    rfl

/-- The same for a list of selectors. -/
theorem ofList_orderly_iff {items : List Value} {i : Nat} :
    Orderly (ofList strict place i items) ↔
      ∀ before v after ss, items = before ++ v :: after → ofList strict place i before = .ok ss →
        Orderly (ofValue strict (place ++ "[" ++ toString (i + before.length) ++ "]") v) := by
  induction items generalizing i with
  | nil => exact iff_of_true (.ok []) fun before _ _ _ h => by cases before <;> cases h
  | cons v rest ih =>
      rw [ofList, Orderly.bind_iff]
      constructor
      · rintro ⟨hfirst, hrest⟩ before w after ss hsplit hbefore
        cases before with
        | nil =>
            cases hsplit
            exact hfirst
        | cons _ before =>
            cases hsplit
            rw [ofList, except_bind_ok] at hbefore
            obtain ⟨s, hs, hbefore⟩ := hbefore
            obtain ⟨ss', hbefore, -⟩ := except_bind_ok.mp hbefore
            rw [List.length_cons, Nat.add_comm before.length, ← Nat.add_assoc]
            exact ih.mp (Orderly.map_iff.mp (hrest s hs)) before w after ss' rfl hbefore
      · intro h
        refine ⟨h [] v rest [] rfl rfl, fun s hs => Orderly.map_iff.mpr (ih.mpr ?_)⟩
        rintro before w after ss rfl hbefore
        have hw := h (v :: before) w after (s :: ss) rfl (by rw [ofList, hs, hbefore]; rfl)
        rwa [List.length_cons, Nat.add_comm before.length, ← Nat.add_assoc] at hw

/-! ## Whole values -/

theorem ofMap_orderly_iff {entries : List (Value × Value)}
    (h : ∀ e ∈ entries, ∀ place textGiven, Orderly (readEntry strict place textGiven e.1 e.2) ↔
      ¬EntryEscapes strict textGiven e.1 e.2) :
    Orderly (ofValue strict place (.map entries)) ↔ ¬Escapes strict (.map entries) := by
  rw [ofValue, ofEntries_orderly_iff]
  constructor
  · rintro hread (_ | @⟨_, key, value, ⟨before, after, place', s, rfl, hbefore⟩, hescapes⟩)
    -- The entry is reached in some place, and so it is in this one.
    have hreached := ofEntries_placeFree strict _ before {} place' place s hbefore
    exact (h (key, value) (by simp) place _).mp (hread before key value after s rfl hreached) hescapes
  · rintro hescapes before key value after s rfl hbefore
    exact (h (key, value) (by simp) place _).mpr fun hentry =>
      hescapes (.entry ⟨before, after, place, s, rfl, hbefore⟩ hentry)

theorem ofItems_list_orderly_iff {items : List Value}
    (h : ∀ v ∈ items, ∀ place, Orderly (ofValue strict place v) ↔ ¬Escapes strict v) :
    Orderly (ofItems strict place (.list items)) ↔ ¬ItemsEscape strict (.list items) := by
  rw [ofItems, ofList_orderly_iff]
  constructor
  · rintro hread (_ | ⟨⟨before, after, place', ss, rfl, hbefore⟩, hescapes⟩)
    have hreached := ofList_placeFree strict 0 before place' place ss hbefore
    exact (h _ (by simp) _).mp (hread before _ after ss rfl hreached) hescapes
  · rintro hescapes before v after ss rfl hbefore
    exact (h _ (by simp) _).mpr fun hv => hescapes (.item ⟨before, after, place, ss, rfl, hbefore⟩ hv)

mutual

theorem ofValue_orderly_iff (strict : Bool) :
    ∀ v place, Orderly (ofValue strict place v) ↔ ¬Escapes strict v
  | .map entries, _ => ofMap_orderly_iff (readEntries_orderly_iff strict entries)
  | .text _, _ => iff_of_true (.ok _) nofun
  | .enclosing true, _ => iff_of_false (fun h => h _ rfl) (not_not_intro .itself)
  | .enclosing false, _ | .null, _ | .bool _, _ | .int _, _ | .float _, _ | .bytes _, _ | .date _, _
  | .moment _, _ | .list _, _ | .pair _ _, _ | .set _, _ | .setting _, _ =>
    iff_of_true (Orderly.error_iff.mpr trivial) nofun

theorem readEntries_orderly_iff (strict : Bool) :
    ∀ (entries : List (Value × Value)), ∀ e ∈ entries, ∀ place textGiven,
      Orderly (readEntry strict place textGiven e.1 e.2) ↔ ¬EntryEscapes strict textGiven e.1 e.2
  | [], _, h => absurd h List.not_mem_nil
  | (_, v) :: rest, _, h => match List.mem_cons.mp h with
    | .inl h => fun _ _ => h ▸
      readEntry_orderly_iff (ofValue_orderly_iff strict v) (ofItems_orderly_iff strict v)
    | .inr h => readEntries_orderly_iff strict rest _ h

theorem ofItems_orderly_iff (strict : Bool) :
    ∀ v place, Orderly (ofItems strict place v) ↔ ¬ItemsEscape strict v
  | .list items, _ => ofItems_list_orderly_iff (ofItem_orderly_iff strict items)
  | .enclosing false, _ => iff_of_false (fun h => h _ rfl) (not_not_intro .itself)
  | .enclosing true, _ | .null, _ | .bool _, _ | .int _, _ | .float _, _ | .bytes _, _ | .date _, _
  | .moment _, _ | .text _, _ | .map _, _ | .pair _ _, _ | .set _, _ | .setting _, _ =>
    iff_of_true (Orderly.error_iff.mpr trivial) nofun

theorem ofItem_orderly_iff (strict : Bool) :
    ∀ (items : List Value), ∀ v ∈ items, ∀ place, Orderly (ofValue strict place v) ↔ ¬Escapes strict v
  | [], _, h => absurd h List.not_mem_nil
  | v :: rest, _, h => match List.mem_cons.mp h with
    | .inl h => h ▸ ofValue_orderly_iff strict v
    | .inr h => ofItem_orderly_iff strict rest _ h

end

theorem ofDocument_orderly_iff (strict : Bool) (text : String) :
    Orderly (ofDocument strict text) ↔
      (∀ f, dataOf text = .error (.value f) → f.IsConfig) ∧
        ∀ v, dataOf text = .ok v → ¬Escapes strict v := by
  rw [ofDocument]
  cases dataOf text with
  | ok v => simp [ofValue_orderly_iff]
  | error fault =>
      cases fault with
      | malformed reason => simp [Orderly.error_iff, Failure.IsConfig]
      | value f => simp [Orderly.error_iff]

end Selector

/-! ## Main result -/

open Selector

/-- Reading a selector fails, if it fails, as a failure of the configuration: for all data but that which
cannot be put into words where this is needed, has a double without bound for an integer, or holds
itself; and for all texts that stand for such data and are not refused by a number or a date in them. -/
theorem selector_refusal_is_orderly_iff (strict : Bool) :
    (∀ (place : String) (v : Value),
      (∀ f, ofValue strict place v = .error f → f.IsConfig) ↔ ¬Escapes strict v) ∧
    ∀ text : String,
      (∀ f, ofDocument strict text = .error f → f.IsConfig) ↔
        (∀ f, dataOf text = .error (.value f) → f.IsConfig) ∧
          ∀ v, dataOf text = .ok v → ¬Escapes strict v :=
  ⟨fun place v => ofValue_orderly_iff strict v place, ofDocument_orderly_iff strict⟩

/-- A width without bound and a date that does not exist are refused in another way. -/
theorem unbounded_width_is_not_refused :
    ofValue true "selector" (.map [(.text "width", .float infinity)]) = .error .overflow ∧
    ofDocument true "2024-13-45" = .error (.value "month must be in 1..12") ∧
    ¬Failure.overflow.IsConfig ∧ ¬(Failure.value "month must be in 1..12").IsConfig :=
  ⟨rfl, rfl, id, id⟩

end ElementFinder
