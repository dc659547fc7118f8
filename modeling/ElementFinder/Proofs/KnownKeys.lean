import ElementFinder.Proofs.MapLoading

/-!
# Selectors of the right form

A value that has the form of a selector is read as one when unknown keys are allowed. When they are not,
it is read as the same selector, or refused for an unknown key in one of the mappings that reading comes
to: the value, its anchors, its descendants and those inside them.
-/

namespace ElementFinder

namespace Selector

/-! ## The mappings that reading comes to -/

/-- Reading a value comes to a mapping: to the value itself, to an anchor, or to a descendant. -/
inductive Visits : Value → List (Value × Value) → Prop
  | here {entries : List (Value × Value)} : Visits (.map entries) entries
  | anchor {entries inner : List (Value × Value)} {key value : Value} {r : Relation} {name : String} :
      (key, value) ∈ entries → EntryKind.ofKey key = .field (.anchor r) name → Visits value inner →
      Visits (.map entries) inner
  | descendant {entries inner : List (Value × Value)} {key v : Value} {items : List Value}
      {name : String} :
      (key, .list items) ∈ entries → EntryKind.ofKey key = .field .descendants name → v ∈ items →
      Visits v inner → Visits (.map entries) inner

/-- What holds of all mappings that reading a value comes to. -/
def AllVisited (p : List (Value × Value) → Prop) (v : Value) : Prop := ∀ inner, Visits v inner → p inner

/-- What holds of all mappings that reading comes to inside an entry. -/
def AllWithin (p : List (Value × Value) → Prop) (key value : Value) : Prop :=
  match EntryKind.ofKey key with
  | .field (.anchor _) _ => AllVisited p value
  | .field .descendants _ => ∀ items, value = .list items → ∀ v ∈ items, AllVisited p v
  | _ => True

theorem allVisited_text {p : List (Value × Value) → Prop} {t : String} : AllVisited p (.text t) := by
  rintro _ ⟨⟩

theorem allVisited_map_iff {p : List (Value × Value) → Prop} {entries : List (Value × Value)} :
    AllVisited p (.map entries) ↔ p entries ∧ ∀ e ∈ entries, AllWithin p e.1 e.2 := by
  constructor
  · intro h
    refine ⟨h entries .here, ?_⟩
    rintro ⟨key, value⟩ he
    rw [AllWithin]
    split
    · next r name hkey => exact fun inner hinner => h inner (.anchor he hkey hinner)
    · next name hkey =>
      rintro items rfl v hv inner hinner
      exact h inner (.descendant he hkey hv hinner)
    · trivial
  · rintro ⟨hhere, hwithin⟩ inner hinner
    cases hinner with
    | here => exact hhere
    | anchor he hkey hinner =>
        have hvalue := hwithin _ he
        rw [AllWithin, hkey] at hvalue
        exact hvalue inner hinner
    | descendant he hkey hv hinner =>
        have hitems := hwithin _ he
        rw [AllWithin, hkey] at hitems
        exact hitems _ rfl _ hv inner hinner

/-- All keys of a mapping are known. -/
def KnownKeys (entries : List (Value × Value)) : Prop := ∀ e ∈ entries, e.1.IsSelectorKey

/-! ## Strict and lenient reading -/

/-- What is read leniently is read strictly exactly on a condition, and otherwise a key is refused. -/
inductive Tightens {α : Type} (p : Prop) : Except Failure α → Except Failure α → Prop
  | same {a : α} : p → Tightens p (.ok a) (.ok a)
  | refused {a : α} {place shown : String} :
      ¬p → Tightens p (.ok a) (.error ((SelectorFault.unknownKey shown).failure place))

namespace Tightens

variable {α β : Type} {p q : Prop} {x y : Except Failure α}

theorem congr (h : Tightens p x y) (hpq : p ↔ q) : Tightens q x y := propext hpq ▸ h

/-- The lenient result, and the strict one with and without the condition. -/
theorem exists_ok (h : Tightens p x y) : ∃ a, x = .ok a ∧ (p → y = .ok a) ∧
    (¬p → ∃ place shown, y = .error ((SelectorFault.unknownKey shown).failure place)) := by
  cases h with
  | same hp => exact ⟨_, rfl, fun _ => rfl, fun hno => absurd hp hno⟩
  | refused hp => exact ⟨_, rfl, fun h => absurd h hp, fun _ => ⟨_, _, rfl⟩⟩

theorem map (h : Tightens p x y) (f : α → β) : Tightens p (x.map f) (y.map f) := by
  cases h with
  | same hp => exact .same hp
  | refused hp => exact .refused hp

theorem bind (h : Tightens p x y) {k l : α → Except Failure β} (hk : ∀ a, Tightens q (k a) (l a)) :
    Tightens (p ∧ q) (x >>= k) (y >>= l) := by
  cases h with
  | same hp => exact (hk _).congr (and_iff_right hp).symm
  | @refused a place shown hp =>
      obtain ⟨b, hb, -⟩ := (hk a).exists_ok
      change Tightens _ (k a) _
      rw [hb]
      exact .refused fun h => hp h.1

theorem of_ok {a : α} (hx : x = .ok a) (hy : y = .ok a) : Tightens True x y := by
  subst hx hy
  exact .same trivial

end Tightens

/-! ## Reading values of the right form -/

open Schema

variable {place : String} {textGiven : Bool} {key value : Value} {s : Selector}

theorem readInteger_of_isWhole (h : value.isWhole = true) :
    ∃ n, ∀ place, readInteger place value = .ok n := by
  obtain ⟨n, hn⟩ := value.toInteger_of_isWhole h
  refine ⟨n, fun place => ?_⟩
  have hfield : value.fieldInteger = .ok (some n) := by
    cases value with
    | bool b => cases h
    | _ => exact hn
  rw [readInteger_eq, hfield]
  rfl

theorem readBool_of_isBool (h : value.isBool = true) : ∃ b, ∀ place, readBool place value = .ok b := by
  cases value with
  | bool b => exact ⟨b, fun _ => rfl⟩
  | _ => cases h

theorem readField_of_fits {k : FieldKey} (h : k.property.fits value = true) (hwords : ¬value.HoldsTooLong) :
    ∃ set, ∀ place, readField k place value = .ok set := by
  obtain ⟨t, ht⟩ := value.writeOrFail_strays.exists_ok_iff.mpr hwords
  have hinteger : ∀ f : Int → Selector → Selector, value.isWhole = true →
      ∃ set, ∀ place, (readInteger place value).map f = .ok set := by
    intro f hwhole
    obtain ⟨n, hn⟩ := readInteger_of_isWhole hwhole
    exact ⟨f n, fun place => by rw [hn]; rfl⟩
  have hbool : ∀ f : Bool → Selector → Selector, value.isBool = true →
      ∃ set, ∀ place, (readBool place value).map f = .ok set := by
    intro f hb
    obtain ⟨b, hb⟩ := readBool_of_isBool hb
    exact ⟨f b, fun place => by rw [hb]; rfl⟩
  cases k with
  | text | id | index => exact ⟨_, fun _ => by rw [readField, ht]; rfl⟩
  | width | height => exact hinteger _ h
  | tolerance => exact hinteger _ (Bool.and_eq_true_iff.mp h).1
  | enabled | selected | focused => exact hbool _ h
  | anchor r => exact ⟨id, fun _ => rfl⟩
  | descendants => exact ⟨id, fun _ => rfl⟩

theorem isNull_of_fitsEntry {k : FieldKey} {name : String} (hkey : EntryKind.ofKey key = .field k name)
    (h : FitsEntry key value) : value.isNull = false := by
  rw [FitsEntry, hkey] at h
  cases value with
  | null => cases k <;> cases h
  | _ => rfl

/-- Items of a list are read with what they need of the keys in each of them. -/
def ItemsKnown (value : Value) : Prop := ∀ items, value = .list items → ∀ v ∈ items, AllVisited KnownKeys v

theorem readEntry_tightens (hfits : FitsEntry key value) (hkeyWords : ¬key.HoldsTooLong)
    (hwords : ¬value.HoldsTooLong)
    (hvalue : fitsSelector value = true → ∀ place,
      Tightens (AllVisited KnownKeys value) (ofValue false place value) (ofValue true place value))
    (hitems : fitsItems value = true → ∀ place,
      Tightens (ItemsKnown value) (ofItems false place value) (ofItems true place value)) :
    Tightens (key.IsSelectorKey ∧ AllWithin KnownKeys key value)
      (readEntry false place textGiven key value) (readEntry true place textGiven key value) := by
  cases hkey : EntryKind.ofKey key with
  | textAlias =>
      have hknown : key.IsSelectorKey := Value.isSelectorKey_of_ofKey_ne (by simp [hkey])
      obtain ⟨t, ht⟩ := value.writeOrFail_strays.exists_ok_iff.mpr hwords
      have hread : ∃ set, ∀ strict, readEntry strict place textGiven key value = .ok set := by
        simp only [readEntry, hkey, ht]
        cases textGiven with
        | true => exact ⟨id, fun _ => rfl⟩
        | false => exact ⟨_, fun _ => rfl⟩
      obtain ⟨set, hset⟩ := hread
      exact (Tightens.of_ok (hset false) (hset true)).congr (by simp [AllWithin, hkey, hknown])
  | unknown =>
      obtain ⟨shown, hshown⟩ := key.writeOrFail_strays.exists_ok_iff.mpr hkeyWords
      simp only [readEntry, hkey, hshown]
      exact .refused fun h => EntryKind.ofKey_eq_unknown_iff.mp hkey h.1
  | field k name =>
      have hknown : key.IsSelectorKey := Value.isSelectorKey_of_ofKey_ne (by simp [hkey])
      have hnull := isNull_of_fitsEntry hkey hfits
      rw [and_iff_right hknown]
      rw [FitsEntry, hkey] at hfits
      simp only [readEntry, AllWithin, hkey, hnull, Bool.false_eq_true, ↓reduceIte]
      cases k with
      | anchor r => exact (hvalue hfits _).map _
      | descendants => exact (hitems hfits _).map _
      | _ =>
          obtain ⟨set, hset⟩ := readField_of_fits hfits hwords
          exact .of_ok (hset _) (hset _)

theorem ofEntries_tightens {p : Value × Value → Prop} {entries : List (Value × Value)}
    (h : ∀ e ∈ entries, Tightens (p e) (readEntry false place textGiven e.1 e.2)
      (readEntry true place textGiven e.1 e.2)) :
    Tightens (∀ e ∈ entries, p e) (ofEntries false place textGiven entries s)
      (ofEntries true place textGiven entries s) := by
  induction entries generalizing s with
  | nil => exact .same nofun
  | cons e entries ih =>
      obtain ⟨hfirst, hrest⟩ := List.forall_mem_cons.mp h
      rw [ofEntries_cons, ofEntries_cons]
      exact (hfirst.bind fun set => ih hrest).congr List.forall_mem_cons.symm

theorem allVisited_knownKeys_map_iff {entries : List (Value × Value)} :
    AllVisited KnownKeys (.map entries) ↔
      ∀ e ∈ entries, e.1.IsSelectorKey ∧ AllWithin KnownKeys e.1 e.2 := by
  rw [allVisited_map_iff, KnownKeys]
  exact ⟨fun h e he => ⟨h.1 e he, h.2 e he⟩, fun h => ⟨fun e he => (h e he).1, fun e he => (h e he).2⟩⟩

mutual

/-- A value of the right form, with words, is read strictly as it is leniently, if all keys are known. -/
theorem ofValue_tightens : ∀ v, fitsSelector v = true → ¬v.HoldsTooLong → ∀ place,
    Tightens (AllVisited KnownKeys v) (ofValue false place v) (ofValue true place v)
  | .text _, _, _, _ => .same allVisited_text
  | .map entries, hfits, hwords, _ =>
    (ofEntries_tightens (readEntries_tightens entries (fun _ => fitsEntry_of_mem hfits)
      (fun _ he => ⟨fun h => hwords (.key he h), fun h => hwords (.value he h)⟩) _ _)).congr
      allVisited_knownKeys_map_iff.symm
  | .null, hfits, _, _ | .bool _, hfits, _, _ | .int _, hfits, _, _ | .float _, hfits, _, _
  | .bytes _, hfits, _, _ | .date _, hfits, _, _ | .moment _, hfits, _, _ | .list _, hfits, _, _
  | .pair _ _, hfits, _, _ | .set _, hfits, _, _ | .setting _, hfits, _, _
  | .enclosing _, hfits, _, _ => nomatch hfits

theorem readEntries_tightens : ∀ entries : List (Value × Value), (∀ e ∈ entries, FitsEntry e.1 e.2) →
    (∀ e ∈ entries, ¬e.1.HoldsTooLong ∧ ¬e.2.HoldsTooLong) → ∀ place textGiven, ∀ e ∈ entries,
    Tightens (e.1.IsSelectorKey ∧ AllWithin KnownKeys e.1 e.2)
      (readEntry false place textGiven e.1 e.2) (readEntry true place textGiven e.1 e.2)
  | [], _, _, _, _, _, h => absurd h List.not_mem_nil
  | (key, v) :: rest, hfits, hwords, place, textGiven, _, h => by
    obtain ⟨hfirst, hrest⟩ := List.forall_mem_cons.mp hfits
    obtain ⟨hfirstWords, hrestWords⟩ := List.forall_mem_cons.mp hwords
    rcases List.mem_cons.mp h with rfl | h
    · exact readEntry_tightens hfirst hfirstWords.1 hfirstWords.2
        (fun hv => ofValue_tightens v hv hfirstWords.2) (fun hv => ofItems_tightens v hv hfirstWords.2)
    · exact readEntries_tightens rest hrest hrestWords place textGiven _ h

theorem ofItems_tightens : ∀ v, fitsItems v = true → ¬v.HoldsTooLong → ∀ place,
    Tightens (ItemsKnown v) (ofItems false place v) (ofItems true place v)
  | .list items, hfits, hwords, place =>
    (ofList_tightens items (fun _ => fits_of_mem hfits) (fun _ hv h => hwords (.item hv h)) place 0).congr
      ⟨fun h _ heq => Value.list.inj heq ▸ h, fun h => h items rfl⟩
  | .null, hfits, _, _ | .bool _, hfits, _, _ | .int _, hfits, _, _ | .float _, hfits, _, _
  | .bytes _, hfits, _, _ | .date _, hfits, _, _ | .moment _, hfits, _, _ | .text _, hfits, _, _
  | .map _, hfits, _, _ | .pair _ _, hfits, _, _ | .set _, hfits, _, _ | .setting _, hfits, _, _
  | .enclosing _, hfits, _, _ => nomatch hfits

theorem ofList_tightens : ∀ items : List Value, (∀ v ∈ items, fitsSelector v = true) →
    (∀ v ∈ items, ¬v.HoldsTooLong) → ∀ place i,
    Tightens (∀ v ∈ items, AllVisited KnownKeys v) (ofList false place i items) (ofList true place i items)
  | [], _, _, _, _ => .same nofun
  | v :: rest, hfits, hwords, place, i => by
    obtain ⟨hfirst, hrest⟩ := List.forall_mem_cons.mp hfits
    obtain ⟨hfirstWords, hrestWords⟩ := List.forall_mem_cons.mp hwords
    rw [ofList, ofList]
    exact ((ofValue_tightens v hfirst hfirstWords _).bind fun s =>
      (ofList_tightens rest hrest hrestWords place (i + 1)).map (s :: ·)).congr List.forall_mem_cons.symm

end

end Selector

/-! ## Main result -/

open Selector

/-- A value of the form of a selector is read as a selector when unknown keys are allowed. When they are
not, it is read as the same one if each mapping that reading comes to has known keys only, and refused for
an unknown key if not. -/
theorem fitting_selector_is_read (place : String) (v : Value) (hfits : Schema.fitsSelector v = true)
    (hwords : ¬v.HoldsTooLong) :
    ∃ s, ofValue false place v = .ok s ∧
      ((∀ entries, Visits v entries → KnownKeys entries) → ofValue true place v = .ok s) ∧
      ((∃ entries, Visits v entries ∧ ¬KnownKeys entries) → ∃ inside key, ofValue true place v =
        .error (.config (inside ++ ": " ++ (SelectorFault.unknownKey key).words))) := by
  obtain ⟨s, hlenient, hsame, hrefused⟩ := (ofValue_tightens v hfits hwords place).exists_ok
  refine ⟨s, hlenient, hsame, ?_⟩
  rintro ⟨entries, hvisits, hunknown⟩
  exact hrefused fun hall => hunknown (hall entries hvisits)

/-- A selector with a width that is a double, and with an anchor that has an unknown key. -/
def sendBelowEmail : Value :=
  .map [(.text "id", .text "send"), (.text "width", .float 40.0),
    (.text "below", .map [(.text "element", .text "Email"), (.text "colour", .text "red")])]

theorem fitting_selector_is_read_send :
    Schema.fitsSelector sendBelowEmail = true ∧ ¬sendBelowEmail.HoldsTooLong ∧
    (∃ s, ofValue false "selectors.send" sendBelowEmail = .ok s) ∧
    ∃ inside key, ofValue true "selectors.send" sendBelowEmail =
      .error (.config (inside ++ ": " ++ (SelectorFault.unknownKey key).words)) := by
  have hwords : ¬sendBelowEmail.HoldsTooLong :=
    (Value.display_writtenUnless sendBelowEmail).exists_ok_iff.mp ⟨_, rfl⟩
  obtain ⟨s, hs, -, hrefused⟩ := fitting_selector_is_read "selectors.send" sendBelowEmail rfl hwords
  refine ⟨rfl, hwords, ⟨s, hs⟩, hrefused ⟨_, .anchor (.tail _ (.tail _ (.head _))) rfl .here, fun hknown => ?_⟩⟩
  exact EntryKind.ofKey_eq_unknown_iff.mp rfl (hknown (.text "colour", .text "red") (by simp))

end ElementFinder
