import ElementFinder.Proofs.KnownKeys
import Mathlib.Data.List.Forall2
import Mathlib.Data.List.Induction
import Mathlib.Data.List.Pairwise

/-!
# Where the fields of a selector come from

Each entry of a mapping sets one field of a selector or none. So a field that is read is what the last
entry for it says. The names in a mapping are apart from each other, and then only the text can come from
more than one entry, as it has two names.
-/

namespace ElementFinder

/-! ## Lists -/

section

variable {α β : Type} {R : α → β → Prop} {l : List α} {l' : List β} {a : α} {b : β}

/-- Of the members of a list that meet a condition there is a last one. -/
theorem exists_last {p : α → Prop} (ha : a ∈ l) (hp : p a) :
    ∃ before b after, l = before ++ b :: after ∧ p b ∧ ∀ c ∈ after, ¬p c := by
  induction l using List.reverseRecOn with
  | nil => cases ha
  | append_singleton l c ih =>
      by_cases hc : p c
      · exact ⟨l, c, [], rfl, hc, nofun⟩
      · have hl : a ∈ l := by
          rcases List.mem_append.mp ha with ha | ha
          · exact ha
          · exact absurd (List.mem_singleton.mp ha ▸ hp) hc
        obtain ⟨before, b, after, rfl, hb, hafter⟩ := ih hl
        refine ⟨before, b, after ++ [c], by simp, hb, ?_⟩
        exact List.forall_mem_append.mpr ⟨hafter, List.forall_mem_singleton.mpr hc⟩

theorem exists_right_of_forall₂ (h : List.Forall₂ R l l') (ha : a ∈ l) : ∃ b ∈ l', R a b := by
  induction h with
  | nil => cases ha
  | cons hr _ ih =>
      cases ha with
      | head => exact ⟨_, List.mem_cons_self, hr⟩
      | tail _ ha =>
          obtain ⟨b, hb, hr⟩ := ih ha
          exact ⟨b, List.mem_cons_of_mem _ hb, hr⟩

theorem exists_left_of_forall₂ (h : List.Forall₂ R l l') (hb : b ∈ l') : ∃ a ∈ l, R a b :=
  exists_right_of_forall₂ (List.Forall₂.flip h) hb

end

/-! ## Values inside values -/

/-- A value is an item of a list, the value of an entry of a mapping, or a part of a pair or a setting. -/
inductive Value.Inside : Value → Value → Prop
  | item {items : List Value} {v : Value} : v ∈ items → Inside v (.list items)
  | entry {entries : List (Value × Value)} {e : Value × Value} : e ∈ entries → Inside e.2 (.map entries)
  | first {a b : Value} : Inside a (.pair a b)
  | second {a b : Value} : Inside b (.pair a b)
  | setting {t : Value} : Inside t (.setting t)

theorem Value.Inside.sizeOf_lt {v w : Value} (h : w.Inside v) : sizeOf w < sizeOf v := by
  cases h with
  | item hv =>
      have := List.sizeOf_lt_of_mem hv
      simp only [list.sizeOf_spec]
      omega
  | @entry entries e he =>
      have := List.sizeOf_lt_of_mem he
      have hvalue : sizeOf e.2 < sizeOf e := by
        obtain ⟨key, value⟩ := e
        simp only [Prod.mk.sizeOf_spec]
        omega
      simp only [map.sizeOf_spec]
      omega
  | first | second =>
      simp only [pair.sizeOf_spec]
      omega
  | setting =>
      simp only [setting.sizeOf_spec]
      omega

/-- What holds of a value if it holds of all values inside, holds of all values. -/
theorem Value.inside_induction {P : Value → Prop} (step : ∀ v, (∀ w, w.Inside v → P w) → P v) (v : Value) :
    P v :=
  step v fun w h =>
    have := h.sizeOf_lt
    inside_induction step w
termination_by sizeOf v

/-! ## Fields -/

namespace FieldKey

/-- What a field holds. -/
abbrev Content : FieldKey → Type
  | .text => String
  | .id => String
  | .width => Int
  | .height => Int
  | .tolerance => Int
  | .enabled => Bool
  | .selected => Bool
  | .focused => Bool
  | .index => String
  | .anchor _ => Selector
  | .descendants => List Selector

def name : FieldKey → String
  | .text => "text"
  | .id => "id"
  | .width => "width"
  | .height => "height"
  | .tolerance => "tolerance"
  | .enabled => "enabled"
  | .selected => "selected"
  | .focused => "focused"
  | .index => "index"
  | .anchor r => r.name
  | .descendants => "containsDescendants"

theorem eq_name_of_ofName? {s : String} {k : FieldKey} (h : ofName? s = some k) : s = k.name := by
  rw [ofName?.eq_def] at h
  split at h
  case h_11 =>
    obtain ⟨r, hr, rfl⟩ := Option.map_eq_some_iff.mp h
    have hname : r.name = s := by simpa using List.find?_some hr
    exact hname.symm
  all_goals
    cases h
    rfl

end FieldKey

theorem EntryKind.ofKey_eq_field {key : Value} {k : FieldKey} {name : String}
    (h : ofKey key = .field k name) : key = .text k.name ∧ name = k.name := by
  cases key with
  | text s =>
      rw [ofKey] at h
      split at h
      · cases h
      · split at h
        · next hk =>
          cases h
          have := FieldKey.eq_name_of_ofName? hk
          exact ⟨congrArg Value.text this, this⟩
        · cases h
  | _ => cases h

namespace Selector

variable {s t : Selector} {k l : FieldKey}

/-- The selector with a field set. -/
def assign (s : Selector) : (k : FieldKey) → k.Content → Selector
  | .text, a => s.changeCriteria fun c => { c with text := some a }
  | .id, a => s.changeCriteria fun c => { c with id := some a }
  | .width, a => s.changeCriteria fun c => { c with width := some a }
  | .height, a => s.changeCriteria fun c => { c with height := some a }
  | .tolerance, a => s.changeCriteria fun c => { c with tolerance := some a }
  | .enabled, a => s.changeCriteria fun c => { c with enabled := some a }
  | .selected, a => s.changeCriteria fun c => { c with selected := some a }
  | .focused, a => s.changeCriteria fun c => { c with focused := some a }
  | .index, a => { s with index := some a }
  | .anchor r, a => s.withAnchor r a
  | .descendants, a => { s with descendants := a }

/-- What a field is set to. Without descendants there is an empty list of them. -/
def get (s : Selector) : (k : FieldKey) → Option k.Content
  | .text => s.criteria.text
  | .id => s.criteria.id
  | .width => s.criteria.width
  | .height => s.criteria.height
  | .tolerance => s.criteria.tolerance
  | .enabled => s.criteria.enabled
  | .selected => s.criteria.selected
  | .focused => s.criteria.focused
  | .index => s.index
  | .anchor r => s.anchor? r
  | .descendants => some s.descendants

theorem get_assign_same (s : Selector) (a : k.Content) : (s.assign k a).get k = some a := by
  cases k with
  | anchor r => cases r <;> rfl
  | _ => rfl

theorem get_assign_other (s : Selector) (a : l.Content) (h : l ≠ k) : (s.assign l a).get k = s.get k := by
  cases l with
  | anchor r =>
      cases k with
      | anchor r' =>
          have hr : r ≠ r' := fun heq => h (congrArg FieldKey.anchor heq)
          cases r <;> cases r' <;> first | rfl | exact absurd rfl hr
      | _ => rfl
  | _ => cases k <;> first | rfl | exact absurd rfl h

theorem ext_get (h : ∀ k, s.get k = t.get k) : s = t := by
  obtain ⟨⟨text, id, width, height, tolerance, enabled, selected, focused⟩, index,
    ⟨b1, b2, b3, b4, b5, b6, b7⟩, ds⟩ := s
  obtain ⟨⟨text', id', width', height', tolerance', enabled', selected', focused'⟩, index',
    ⟨a1, a2, a3, a4, a5, a6, a7⟩, es⟩ := t
  obtain rfl : text = text' := h .text
  obtain rfl : id = id' := h .id
  obtain rfl : width = width' := h .width
  obtain rfl : height = height' := h .height
  obtain rfl : tolerance = tolerance' := h .tolerance
  obtain rfl : enabled = enabled' := h .enabled
  obtain rfl : selected = selected' := h .selected
  obtain rfl : focused = focused' := h .focused
  obtain rfl : index = index' := h .index
  obtain rfl : b1 = a1 := h (.anchor .below)
  obtain rfl : b2 = a2 := h (.anchor .above)
  obtain rfl : b3 = a3 := h (.anchor .leftOf)
  obtain rfl : b4 = a4 := h (.anchor .rightOf)
  obtain rfl : b5 = a5 := h (.anchor .childOf)
  obtain rfl : b6 = a6 := h (.anchor .containsChild)
  obtain rfl : b7 = a7 := h (.anchor .insideOf)
  obtain rfl : ds = es := Option.some.inj (h .descendants)
  rfl

/-! ## Entries -/

variable {strict textGiven : Bool} {place : String} {v : Value} {e e' : Value × Value}
  {entries before after : List (Value × Value)}

/-- The field that an entry sets, if it sets one. -/
def target (textGiven : Bool) (e : Value × Value) : Option FieldKey :=
  match EntryKind.ofKey e.1 with
  | .textAlias => if textGiven then none else some .text
  | .unknown => none
  | .field k _ => if e.2.isNull then none else some k

/-- What a value says for a field. -/
def readContent (strict : Bool) (place : String) (v : Value) : (k : FieldKey) → Except Failure k.Content
  | .text => v.writeOrFail
  | .id => v.writeOrFail
  | .width => readInteger place v
  | .height => readInteger place v
  | .tolerance => readInteger place v
  | .enabled => readBool place v
  | .selected => readBool place v
  | .focused => readBool place v
  | .index => v.writeOrFail
  | .anchor _ => ofValue strict place v
  | .descendants => ofItems strict place v

def placeOf (place : String) (key : Value) : String :=
  match EntryKind.ofKey key with
  | .field _ name => place ++ "." ++ name
  | _ => place

/-- What the key of an entry that sets no field comes to. -/
def readIdle (strict : Bool) (place : String) (key : Value) : Except Failure (Selector → Selector) :=
  match EntryKind.ofKey key with
  | .unknown =>
    if strict then key.writeOrFail >>= fun shown =>
      .error ((SelectorFault.unknownKey shown).failure place)
    else .ok id
  | _ => .ok id

theorem readEntry_targeted (h : target textGiven e = some k) :
    readEntry strict place textGiven e.1 e.2 =
      (readContent strict (placeOf place e.1) e.2 k).map fun a s => s.assign k a := by
  rw [target] at h
  rw [readEntry, placeOf]
  cases hkey : EntryKind.ofKey e.1 with
  | textAlias =>
      rw [hkey] at h
      cases textGiven with
      | true => cases h
      | false =>
          cases h
          rfl
  | unknown =>
      rw [hkey] at h
      cases h
  | field k' name =>
      simp only [hkey] at h
      cases hnull : e.2.isNull with
      | true => simp [hnull] at h
      | false =>
          simp only [hnull, Bool.false_eq_true, ↓reduceIte, Option.some.injEq] at h
          subst h
          cases k' <;> rfl

theorem readEntry_idle (h : target textGiven e = none) :
    readEntry strict place textGiven e.1 e.2 = readIdle strict place e.1 := by
  rw [target] at h
  rw [readEntry, readIdle]
  cases hkey : EntryKind.ofKey e.1 with
  | textAlias =>
      rw [hkey] at h
      cases textGiven with
      | true => rfl
      | false => cases h
  | unknown => rfl
  | field k' name =>
      simp only [hkey] at h
      cases hnull : e.2.isNull with
      | true => rfl
      | false => simp [hnull] at h

theorem readIdle_eq_ok {key : Value} {set : Selector → Selector} (h : readIdle strict place key = .ok set) :
    set = id := by
  rw [readIdle] at h
  split at h
  · split at h
    · obtain ⟨_, _, h⟩ := except_bind_ok.mp h
      cases h
    · cases h
      rfl
  · cases h
    rfl

theorem readContent_placeFree (strict : Bool) (v : Value) (k : FieldKey) :
    PlaceFree fun place => readContent strict place v k := by
  cases k with
  | text | id | index => exact .const _
  | width | height | tolerance => exact readInteger_placeFree v
  | enabled | selected | focused => exact readBool_placeFree v
  | anchor r => exact ofValue_placeFree strict v
  | descendants => exact ofItems_placeFree strict v

/-- A value says something for a field, in whatever place. -/
def Says (strict : Bool) (v : Value) (k : FieldKey) (a : k.Content) : Prop :=
  ∀ place, readContent strict place v k = .ok a

/-- A value is read as a selector, in whatever place. -/
def ReadsAs (strict : Bool) (v : Value) (s : Selector) : Prop := ∀ place, ofValue strict place v = .ok s

theorem readsAs_of_ofValue (h : ofValue strict place v = .ok s) : ReadsAs strict v s :=
  fun place' => ofValue_placeFree strict v place place' s h

theorem says_of_readContent {a : k.Content} (h : readContent strict place v k = .ok a) : Says strict v k a :=
  fun place' => readContent_placeFree strict v k place place' a h

theorem Says.unique {a b : k.Content} (ha : Says strict v k a) (hb : Says strict v k b) : a = b :=
  Except.ok.inj ((ha "").symm.trans (hb ""))

theorem readEntry_targeted_ok {set : Selector → Selector} (h : target textGiven e = some k)
    (hread : readEntry strict place textGiven e.1 e.2 = .ok set) :
    ∃ a, Says strict e.2 k a ∧ set = fun s => s.assign k a := by
  rw [readEntry_targeted h] at hread
  obtain ⟨a, ha, rfl⟩ := except_map_ok.mp hread
  exact ⟨a, says_of_readContent ha, rfl⟩

/-! ## Mappings that are read -/

theorem ofEntries_cons_ok (h : ofEntries strict place textGiven (e :: entries) s = .ok t) :
    ∃ set, readEntry strict place textGiven e.1 e.2 = .ok set ∧
      ofEntries strict place textGiven entries (set s) = .ok t :=
  except_bind_ok.mp ((ofEntries_cons e.1 e.2 entries s).symm.trans h)

/-- A mapping is read if all of its entries are. -/
theorem exists_ofEntries : (∃ t, ofEntries strict place textGiven entries s = .ok t) ↔
    ∀ e ∈ entries, ∃ set, readEntry strict place textGiven e.1 e.2 = .ok set := by
  rw [← except_mapM_exists_ok, ofEntries_eq_mapM]
  constructor
  · rintro ⟨t, h⟩
    obtain ⟨sets, hsets, _⟩ := except_map_ok.mp h
    exact ⟨sets, hsets⟩
  · rintro ⟨sets, hsets⟩
    exact ⟨_, except_map_ok.mpr ⟨sets, hsets, rfl⟩⟩

theorem exists_says (h : ofEntries strict place textGiven entries s = .ok t) (he : e ∈ entries)
    (hk : target textGiven e = some k) : ∃ a, Says strict e.2 k a := by
  obtain ⟨set, hset⟩ := exists_ofEntries.mp ⟨t, h⟩ e he
  obtain ⟨a, ha, _⟩ := readEntry_targeted_ok hk hset
  exact ⟨a, ha⟩

theorem get_of_untargeted (h : ofEntries strict place textGiven entries s = .ok t)
    (hnone : ∀ e ∈ entries, target textGiven e ≠ some k) : t.get k = s.get k := by
  induction entries generalizing s with
  | nil =>
      cases h
      rfl
  | cons e entries ih =>
      obtain ⟨hfirst, hrest⟩ := List.forall_mem_cons.mp hnone
      obtain ⟨set, hset, h⟩ := ofEntries_cons_ok h
      rw [ih h hrest]
      cases hl : target textGiven e with
      | none =>
          rw [readEntry_idle hl] at hset
          rw [readIdle_eq_ok hset]
          rfl
      | some l =>
          obtain ⟨a, _, rfl⟩ := readEntry_targeted_ok hl hset
          exact get_assign_other s a fun heq => hfirst (heq ▸ hl)

/-- A field is what the last entry for it says. -/
theorem get_of_last (h : ofEntries strict place textGiven (before ++ e :: after) s = .ok t)
    (hk : target textGiven e = some k) (hafter : ∀ e' ∈ after, target textGiven e' ≠ some k)
    {a : k.Content} (ha : Says strict e.2 k a) : t.get k = some a := by
  rw [ofEntries_append] at h
  obtain ⟨u, _, h⟩ := except_bind_ok.mp h
  obtain ⟨set, hset, h⟩ := ofEntries_cons_ok h
  obtain ⟨b, hb, rfl⟩ := readEntry_targeted_ok hk hset
  rw [get_of_untargeted h hafter, ha.unique hb]
  exact get_assign_same u b

theorem get_of_all (h : ofEntries strict place textGiven entries s = .ok t) (he : e ∈ entries)
    (hk : target textGiven e = some k) {a : k.Content}
    (hall : ∀ e' ∈ entries, target textGiven e' = some k → Says strict e'.2 k a) : t.get k = some a := by
  obtain ⟨before, last, after, rfl, hlast, hafter⟩ := exists_last (p := (target textGiven · = some k)) he hk
  exact get_of_last h hlast hafter (hall last (by simp) hlast)

/-! ## Names apart from each other -/

/-- No name is the key of two entries. -/
def NamesApart (entries : List (Value × Value)) : Prop :=
  entries.Pairwise fun e e' => ∀ name, e.1 = .text name → e'.1 ≠ .text name

theorem NamesApart.eq_of_name (h : NamesApart entries) (he : e ∈ entries) (he' : e' ∈ entries)
    {name : String} (hname : e.1 = .text name) (hname' : e'.1 = .text name) : e = e' := by
  by_contra hne
  have hsymm : Std.Symm fun e e' : Value × Value => ∀ name, e.1 = .text name → e'.1 ≠ .text name :=
    ⟨fun _ _ h name hname hname' => h name hname' hname⟩
  exact h.forall he he' hne name hname hname'

/-- All fields but the text have one name. -/
theorem ofKey_of_target (hk : target textGiven e = some k) (htext : k ≠ .text) :
    EntryKind.ofKey e.1 = .field k k.name := by
  rw [target] at hk
  cases hkey : EntryKind.ofKey e.1 with
  | textAlias =>
      rw [hkey] at hk
      cases textGiven with
      | true => cases hk
      | false =>
          cases hk
          exact absurd rfl htext
  | unknown =>
      rw [hkey] at hk
      cases hk
  | field k' name =>
      simp only [hkey] at hk
      cases hnull : e.2.isNull with
      | true => simp [hnull] at hk
      | false =>
          simp only [hnull, Bool.false_eq_true, ↓reduceIte, Option.some.injEq] at hk
          subst hk
          rw [(EntryKind.ofKey_eq_field hkey).2]

theorem name_of_target (hk : target textGiven e = some k) (htext : k ≠ .text) : e.1 = .text k.name :=
  (EntryKind.ofKey_eq_field (ofKey_of_target hk htext)).1

theorem NamesApart.eq_of_target (h : NamesApart entries) (he : e ∈ entries) (he' : e' ∈ entries)
    (htext : k ≠ .text) (hk : target textGiven e = some k) (hk' : target textGiven e' = some k) : e = e' :=
  h.eq_of_name he he' (name_of_target hk htext) (name_of_target hk' htext)

/-- With names apart, a field other than the text is what its entry says. -/
theorem get_of_apart (hapart : NamesApart entries)
    (h : ofEntries strict place textGiven entries s = .ok t) (he : e ∈ entries)
    (htext : k ≠ .text) (hk : target textGiven e = some k) {a : k.Content} (ha : Says strict e.2 k a) :
    t.get k = some a :=
  get_of_all h he hk fun _ he' hk' => hapart.eq_of_target he he' htext hk hk' ▸ ha

/-- What holds of all mappings that reading comes to in the value of a field. -/
def AllInField (p : List (Value × Value) → Prop) (v : Value) : FieldKey → Prop
  | .anchor _ => AllVisited p v
  | .descendants => ∀ items, v = .list items → ∀ w ∈ items, AllVisited p w
  | _ => True

theorem allInField_of_target {p : List (Value × Value) → Prop} (hk : target textGiven e = some k)
    (h : AllWithin p e.1 e.2) : AllInField p e.2 k := by
  cases k with
  | anchor r =>
      rw [AllWithin, ofKey_of_target hk (by simp)] at h
      exact h
  | descendants =>
      rw [AllWithin, ofKey_of_target hk (by simp)] at h
      exact h
  | _ => trivial

end Selector

theorem Value.sameKey_text_iff {key : Value} {name : String} :
    key.sameKey (.text name) = true ↔ key = .text name := by
  cases key with
  | text s => simp [sameKey]
  | _ => simp [sameKey, numeric?]

namespace Selector

variable {entries : List (Value × Value)}

/-- With names apart, the value of a field is that of its only entry. -/
theorem NamesApart.field?_eq_some_iff (h : NamesApart entries) {name : String} {v : Value} :
    Value.field? name entries = some v ↔ (.text name, v) ∈ entries := by
  rw [Value.field?, Value.lookup, Option.map_eq_some_iff]
  constructor
  · rintro ⟨e, hfind, rfl⟩
    have hsame : e.1.sameKey (.text name) = true := by simpa using List.find?_some hfind
    exact Value.sameKey_text_iff.mp hsame ▸ List.mem_of_find?_eq_some hfind
  · intro hv
    cases hfind : entries.find? fun e => e.1.sameKey (.text name) with
    | none => exact absurd (Value.sameKey_text_iff.mpr rfl) (List.find?_eq_none.mp hfind _ hv)
    | some e =>
        have hsame : e.1.sameKey (.text name) = true := by simpa using List.find?_some hfind
        have hkey := Value.sameKey_text_iff.mp hsame
        obtain rfl := h.eq_of_name (List.mem_of_find?_eq_some hfind) hv hkey rfl
        exact ⟨_, rfl, rfl⟩

/-- The text is given if the value of its entry counts as true. -/
theorem givesText_iff (h : NamesApart entries) :
    givesText entries = true ↔ ∃ v, (.text "text", v) ∈ entries ∧ v.truthy = true := by
  have hgives : givesText entries = true ↔ ∃ v, Value.field? "text" entries = some v ∧ v.truthy = true := by
    rw [givesText]
    cases Value.field? "text" entries <;> simp
  rw [hgives]
  simp only [h.field?_eq_some_iff]

end Selector

end ElementFinder
