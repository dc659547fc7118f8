import ElementFinder.Proofs.Filling
import ElementFinder.Proofs.OtherTexts

/-!
# Selectors with variables

The selectors of an object map that loads are served with any variables that can be written. The one
exception is a selector that holds itself under a key that is not known: reading passes over the key, but
filling in does not.
-/

namespace ElementFinder

namespace Selector

open Schema

variable {place : String}

/-! ## Values that hold themselves -/

/-- Where all keys are known, nothing that is left unread could hold the value itself. -/
theorem not_holdsItself_of_knownKeys {v : Value} (h : v.HoldsItself) :
    (fitsSelector v = true → ¬AllVisited KnownKeys v) ∧ (fitsItems v = true → ¬ItemsKnown v) := by
  induction h with
  | enclosing => exact ⟨nofun, nofun⟩
  | item hv _ ih =>
      refine ⟨nofun, fun hfits hknown => ?_⟩
      exact ih.1 (fits_of_mem hfits hv) (hknown _ rfl _ hv)
  | @value entries key value he hvalue ih =>
      refine ⟨fun hfits hknown => ?_, nofun⟩
      obtain ⟨hkey, hwithin⟩ := allVisited_knownKeys_map_iff.mp hknown _ he
      have hentry := fitsEntry_of_mem hfits he
      rw [FitsEntry] at hentry
      rw [AllWithin] at hwithin
      cases hkind : EntryKind.ofKey key with
      | textAlias =>
          rw [hkind] at hentry
          cases hvalue <;> cases hentry
      | unknown => exact EntryKind.ofKey_eq_unknown_iff.mp hkind hkey
      | field k name =>
          rw [hkind] at hentry hwithin
          cases k with
          | anchor r => exact ih.1 hentry hwithin
          | descendants => exact ih.2 hentry hwithin
          | _ => cases hvalue <;> cases hentry

theorem not_holdsItself_of_strict {v : Value} {s : Selector} (hfits : fitsSelector v = true)
    (hwords : ¬v.HoldsTooLong) (h : ofValue true place v = .ok s) : ¬v.HoldsItself := by
  intro hitself
  obtain ⟨_, -, -, hrefused⟩ := (ofValue_tightens v hfits hwords place).exists_ok
  obtain ⟨_, _, he⟩ := hrefused ((not_holdsItself_of_knownKeys hitself).1 hfits)
  cases he.symm.trans h

end Selector

/-! ## Keys that are the same -/

theorem Value.HoldsTooLong.of_sameKey : ∀ {a b : Value}, b.isKey = true → a.sameKey b = true →
    b.HoldsTooLong → a.HoldsTooLong
  | a, .int n, _, h, .int hlong => by
    cases a with
    | int m =>
        obtain rfl : m = n := by simpa [sameKey, numeric?, Number.same] using h
        exact .int hlong
    | bool b =>
        obtain rfl : boolNumber b = n := by simpa [sameKey, numeric?, Number.same] using h
        have hsmall : (boolNumber b).natAbs < 10 ^ 1 := by cases b <;> decide
        exact absurd (Nat.le_trans (ten_pow_le (by decide)) hlong) (Nat.not_le.mpr hsmall)
    | float x =>
        simp only [sameKey, numeric?, Number.same, Number.sameWhole] at h
        split at h
        · next b hb =>
          obtain ⟨-, rfl⟩ : b.isIntegral = true ∧ b.truncate = n := by simpa using h
          exact absurd hlong (Nat.not_le.mpr (Binary.natAbs_truncate_lt hb))
        · cases h
    | _ => cases h
  | .pair _ _, .pair _ _, hkey, h, hlong => by
    simp only [isKey, sameKey, Bool.and_eq_true] at hkey h
    cases hlong with
    | first hlong => exact .first (of_sameKey hkey.1 h.1 hlong)
    | second hlong => exact .second (of_sameKey hkey.2 h.2 hlong)

/-! ## Selectors of loaded object maps -/

namespace Selector

mutual

theorem mapTexts_id : ∀ s : Selector, s.mapTexts id = s
  | ⟨c, index, ⟨b1, b2, b3, b4, b5, b6, b7⟩, ds⟩ => by
    simp [mapTexts, Criteria.mapTexts, mapAnchor_id b1, mapAnchor_id b2, mapAnchor_id b3, mapAnchor_id b4,
      mapAnchor_id b5, mapAnchor_id b6, mapAnchor_id b7, mapDescendants_id ds]

theorem mapAnchor_id : ∀ a : Option Selector, mapAnchor id a = a
  | none => rfl
  | some s => by rw [mapAnchor, mapTexts_id s]

theorem mapDescendants_id : ∀ ds : List Selector, mapDescendants id ds = ds
  | [] => rfl
  | s :: rest => by rw [mapDescendants, mapTexts_id s, mapDescendants_id rest]

end

end Selector

namespace ObjectMap

variable {m : ObjectMap} {name data : Value}

theorem readSelector_eq (h : ¬name.HoldsTooLong) :
    ∃ place, ∀ strict data, readSelector strict name data = Selector.ofValue strict place data := by
  obtain ⟨shown, hshown⟩ := name.writeOrFail_strays.exists_ok_iff.mpr h
  refine ⟨"selectors." ++ shown, fun strict data => ?_⟩
  rw [readSelector, hshown]
  rfl

theorem selector_of_ofEntries {directory : String} {entries : List (Value × Value)}
    (h : ofEntries directory entries = .ok m) {e : Value × Value} (he : e ∈ m.selectors) :
    Schema.fitsSelector e.2 = true ∧ ¬e.2.HoldsTooLong ∧
      ∃ s, readSelector m.settings.strict e.1 e.2 = .ok s := by
  rw [ofEntries_eq] at h
  obtain ⟨⟨⟩, hcheck, h⟩ := except_bind_ok.mp h
  obtain ⟨settings, -, h⟩ := except_bind_ok.mp h
  obtain ⟨read, hread, rfl⟩ := except_map_ok.mp h
  obtain ⟨hfits, hwords⟩ := Schema.selector_of_check hcheck he
  exact ⟨hfits, hwords, except_mapM_exists_ok.mp ⟨read, hread⟩ e he⟩

theorem ofEntries_of_load {directory file : String} {content : Option (List UInt8)}
    (h : load directory file content = .ok m) : ∃ entries, ofEntries directory entries = .ok m := by
  cases content with
  | none => cases h
  | some bytes =>
      obtain ⟨entries, -, h⟩ := except_bind_ok.mp h
      exact ⟨entries, h⟩

/-- A selector that is looked up by its name has the right form and is read. -/
theorem selector_of_load {directory file : String} {content : Option (List UInt8)}
    (hload : load directory file content = .ok m) (hkey : name.isKey = true)
    (hname : Value.lookup name m.selectors = some data) :
    Schema.fitsSelector data = true ∧ ¬data.HoldsTooLong ∧ ∃ place s,
      Selector.ofValue m.settings.strict place data = .ok s ∧
      ∀ data, readSelector m.settings.strict name data = Selector.ofValue m.settings.strict place data := by
  obtain ⟨entries, hentries⟩ := ofEntries_of_load hload
  obtain ⟨key, hmem, hsame⟩ := Value.mem_of_lookup hname
  obtain ⟨hfits, hwords, s, hs⟩ := selector_of_ofEntries hentries hmem
  refine ⟨hfits, hwords, ?_⟩
  obtain ⟨shown, hshown, hs⟩ := except_bind_ok.mp hs
  have hkeyWords : ¬key.HoldsTooLong := key.writeOrFail_strays.exists_ok_iff.mp ⟨shown, hshown⟩
  obtain ⟨place, hplace⟩ := readSelector_eq fun hlong => hkeyWords (.of_sameKey hkey hsame hlong)
  exact ⟨place, s, Selector.ofValue_placeFree _ data _ _ s hs, hplace _⟩

theorem selector_eq (hkey : name.isKey = true) (hname : Value.lookup name m.selectors = some data)
    (bindings : Value) : m.selector name bindings =
      (if bindings.truthy then Placeholder.fill bindings data else .ok data) >>=
        readSelector m.settings.strict name := by
  rw [selector, hkey]
  simp only [hname]
  cases bindings.truthy <;> rfl

end ObjectMap

/-! ## Main result -/

open Selector Placeholder

/-- What is read of a value of the right form that was filled in. -/
theorem Selector.ofValue_fill {strict : Bool} {place : String} {v : Value} {s : Selector}
    {vars : List (Value × Value)} (hfits : Schema.fitsSelector v = true) (hs : ofValue strict place v = .ok s)
    (hvars : Printable vars) :
    ((∃ t, (fill (.map vars) v >>= ofValue strict place) = .ok t) ↔ ¬v.HoldsItself) ∧
      (AllVisited TextsApart v → ∀ t, (fill (.map vars) v >>= ofValue strict place) = .ok t →
        t = s.mapTexts (filled vars)) := by
  have hnumbers : KeepsNumbers (filled vars) := fun _ _ hv ht => filled_of_isWhole hv ht
  obtain ⟨s', hs', hsame⟩ := ofValue_mapTexts hnumbers strict v hfits place s hs
  have hread : ∀ {w}, fill (.map vars) v = .ok w → ofValue strict place w = .ok s' := by
    intro w hw
    rw [fill_ok hvars v hw]
    exact hs'
  constructor
  · rw [← (fill_failsWhen hvars v).exists_ok_iff]
    constructor
    · rintro ⟨t, ht⟩
      obtain ⟨w, hw, -⟩ := except_bind_ok.mp ht
      exact ⟨w, hw⟩
    · rintro ⟨w, hw⟩
      exact ⟨s', except_bind_ok.mpr ⟨w, hw, hread hw⟩⟩
  · intro hapart t ht
    obtain ⟨w, hw, ht⟩ := except_bind_ok.mp ht
    cases (hread hw).symm.trans ht
    exact hsame hapart

/-- Each selector of an object map that loads is served with the texts of its variables, but for one that
holds itself, under a key that is not known: there the placeholders never end. -/
theorem selector_is_served_iff {directory file : String} {content : Option (List UInt8)} {m : ObjectMap}
    {name data : Value} (hload : ObjectMap.load directory file content = .ok m)
    (hkey : name.isKey = true) (hname : Value.lookup name m.selectors = some data)
    {vars : List (Value × Value)} (hvars : Printable vars) :
    ∃ s, m.selector name .null = .ok s ∧
      ((∃ s', m.selector name (.map vars) = .ok s') ↔ vars = [] ∨ ¬data.HoldsItself) ∧
      (data.HoldsItself → m.settings.strict = false) ∧
      ((∀ entries, Visits data entries → TextsApart entries) →
        ∀ s', m.selector name (.map vars) = .ok s' → s' = s.mapTexts (filled vars)) := by
  obtain ⟨hfits, hwords, place, s, hs, hread⟩ := ObjectMap.selector_of_load hload hkey hname
  have hplain : ∀ bindings : Value, bindings.truthy = false → m.selector name bindings = .ok s := by
    intro bindings hfalsy
    rw [ObjectMap.selector_eq hkey hname, hfalsy]
    exact (hread data).trans hs
  have hstrict : data.HoldsItself → m.settings.strict = false := by
    intro hitself
    refine Bool.eq_false_iff.mpr fun hstrict => ?_
    rw [hstrict] at hs
    exact not_holdsItself_of_strict hfits hwords hs hitself
  refine ⟨s, hplain .null rfl, ?_⟩
  cases vars with
  | nil =>
      refine ⟨iff_of_true ⟨s, hplain _ rfl⟩ (Or.inl rfl), hstrict, fun _ s' hs' => ?_⟩
      cases (hplain _ rfl).symm.trans hs'
      rw [show filled [] = id from funext filled_nil, mapTexts_id]
  | cons e rest =>
      have hfilled : m.selector name (.map (e :: rest)) =
          fill (.map (e :: rest)) data >>= Selector.ofValue m.settings.strict place := by
        rw [ObjectMap.selector_eq hkey hname]
        exact congrArg _ (funext hread)
      obtain ⟨hserved, hsame⟩ := ofValue_fill hfits hs hvars
      rw [hfilled]
      exact ⟨hserved.trans (or_iff_right (List.cons_ne_nil e rest)).symm, hstrict, hsame⟩

/-- The bytes of an object map with a greeting. -/
def greetingMap : List UInt8 := "selectors:\n  row: Hello $\x7bNAME\x7d\n".toUTF8.toList

def alice : List (Value × Value) := [(.text "NAME", .text "Alice")]

theorem selector_is_served_iff_greeting :
    ∃ m s, ObjectMap.load "/maps" "map.yaml" (some greetingMap) = .ok m ∧
      m.selector (.text "row") .null = .ok s ∧
      m.selector (.text "row") (.map alice) = .ok (s.mapTexts (filled alice)) := by
  have htext : ((ObjectMap.load "/maps" "map.yaml" (some greetingMap)).toOption.bind fun m =>
      Value.lookup (.text "row") m.selectors).any Value.isText = true := by decide +kernel
  cases hload : ObjectMap.load "/maps" "map.yaml" (some greetingMap) with
  | error e =>
      rw [hload] at htext
      cases htext
  | ok m =>
      rw [hload] at htext
      obtain ⟨data, hrow, hdata⟩ := (Option.any_eq_true _ _).mp htext
      cases data with
      | text t =>
          have hvars : Printable alice := by
            intro e he
            rw [List.mem_singleton.mp he]
            exact Value.HoldsTooLong.not_text "Alice"
          have hends : ¬(Value.text t).HoldsItself := by rintro ⟨⟩
          obtain ⟨s, hs, hserved, -, hsame⟩ := selector_is_served_iff hload rfl hrow hvars
          obtain ⟨s', hs'⟩ := hserved.mpr (Or.inr hends)
          refine ⟨m, s, rfl, hs, ?_⟩
          rw [hs', hsame allVisited_text s' hs']
      | _ => cases hdata

/-- The bytes of an object map with a note that holds itself; keys that are not known are allowed. -/
def notedMap : List UInt8 :=
  ("app:\n  strict_selector_keys: false\nselectors:\n  row:\n    text: $\x7bNAME\x7d\n" ++
    "    note: &note [*note]\n").toUTF8.toList

/-- The selector that is served without variables is not served with them. -/
theorem noted_selector_is_not_served :
    ∃ m, ObjectMap.load "/maps" "map.yaml" (some notedMap) = .ok m ∧
      (∃ s, m.selector (.text "row") .null = .ok s) ∧ ¬∃ s, m.selector (.text "row") (.map alice) = .ok s := by
  have hserved : (ObjectMap.load "/maps" "map.yaml" (some notedMap)).toOption.any (fun m =>
      (m.selector (.text "row") .null).toOption.isSome &&
        (m.selector (.text "row") (.map alice)).toOption.isNone) = true := by decide +kernel
  cases hload : ObjectMap.load "/maps" "map.yaml" (some notedMap) with
  | error e =>
      rw [hload] at hserved
      cases hserved
  | ok m =>
      rw [hload] at hserved
      obtain ⟨hplain, hwith⟩ := Bool.and_eq_true_iff.mp hserved
      refine ⟨m, rfl, ?_, ?_⟩
      · cases hs : m.selector (.text "row") .null with
        | ok s => exact ⟨s, rfl⟩
        | error e =>
            rw [hs] at hplain
            cases hplain
      · rintro ⟨s, hs⟩
        rw [hs] at hwith
        cases hwith

end ElementFinder
