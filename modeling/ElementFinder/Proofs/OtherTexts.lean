import ElementFinder.Proofs.Filling
import ElementFinder.Proofs.KnownKeys

/-!
# Selectors with other texts

A value that has the form of a selector and is read is read with other texts, too. The selector is then the
same one with other texts, unless a mapping gives the text under both of its keys: there an empty text is
passed over for the other.
-/

namespace ElementFinder

/-! ## Selectors with other texts -/

def Criteria.mapTexts (φ : String → String) (c : Criteria) : Criteria :=
  { c with text := c.text.map φ, id := c.id.map φ }

namespace Selector

mutual

/-- The selector with other texts, names and positions, also in its anchors and descendants. -/
def mapTexts (φ : String → String) : Selector → Selector
  | ⟨c, index, ⟨b1, b2, b3, b4, b5, b6, b7⟩, ds⟩ =>
    ⟨c.mapTexts φ, index.map φ, ⟨mapAnchor φ b1, mapAnchor φ b2, mapAnchor φ b3, mapAnchor φ b4,
      mapAnchor φ b5, mapAnchor φ b6, mapAnchor φ b7⟩, mapDescendants φ ds⟩

def mapAnchor (φ : String → String) : Option Selector → Option Selector
  | none => none
  | some s => some (s.mapTexts φ)

def mapDescendants (φ : String → String) : List Selector → List Selector
  | [] => []
  | s :: rest => s.mapTexts φ :: mapDescendants φ rest

end

variable {φ : String → String}

theorem mapTexts_changeCriteria (s : Selector) {f g : Criteria → Criteria}
    (h : ∀ c, (f c).mapTexts φ = g (c.mapTexts φ)) :
    (s.changeCriteria f).mapTexts φ = (s.mapTexts φ).changeCriteria g := by
  obtain ⟨c, index, ⟨b1, b2, b3, b4, b5, b6, b7⟩, ds⟩ := s
  simp [changeCriteria, mapTexts, h]

theorem mapTexts_withIndex (s : Selector) (t : String) :
    ({ s with index := some t } : Selector).mapTexts φ = { s.mapTexts φ with index := some (φ t) } := by
  obtain ⟨c, index, ⟨b1, b2, b3, b4, b5, b6, b7⟩, ds⟩ := s
  simp [mapTexts]

theorem mapTexts_withAnchor (s : Selector) (r : Relation) (a : Selector) :
    (s.withAnchor r a).mapTexts φ = (s.mapTexts φ).withAnchor r (a.mapTexts φ) := by
  obtain ⟨c, index, ⟨b1, b2, b3, b4, b5, b6, b7⟩, ds⟩ := s
  cases r <;> simp [withAnchor, Anchors.set, mapTexts, mapAnchor]

theorem mapTexts_withDescendants (s : Selector) (ds : List Selector) :
    ({ s with descendants := ds } : Selector).mapTexts φ =
      { s.mapTexts φ with descendants := mapDescendants φ ds } := by
  obtain ⟨c, index, ⟨b1, b2, b3, b4, b5, b6, b7⟩, ds⟩ := s
  simp [mapTexts]

end Selector

/-! ## Related results -/

/-- Where the first result is no failure, the second is none either, and what they give is related. -/
def Carries {α β : Type} (r : α → β → Prop) (x : Except Failure α) (y : Except Failure β) : Prop :=
  ∀ a, x = .ok a → ∃ b, y = .ok b ∧ r a b

namespace Carries

variable {α β γ δ : Type} {r : α → β → Prop} {q : γ → δ → Prop} {x : Except Failure α}
  {y : Except Failure β}

theorem ok {a : α} {b : β} (h : r a b) : Carries r (.ok a) (.ok b) := by
  rintro _ ⟨⟩
  exact ⟨b, rfl, h⟩

theorem map (h : Carries r x y) {f : α → γ} {g : β → δ} (hfg : ∀ a b, r a b → q (f a) (g b)) :
    Carries q (x.map f) (y.map g) := by
  intro c hc
  obtain ⟨a, ha, rfl⟩ := except_map_ok.mp hc
  obtain ⟨b, hb, hab⟩ := h a ha
  exact ⟨g b, except_map_ok.mpr ⟨b, hb, rfl⟩, hfg a b hab⟩

theorem bind (h : Carries r x y) {k : α → Except Failure γ} {l : β → Except Failure δ}
    (hkl : ∀ a b, r a b → Carries q (k a) (l b)) : Carries q (x >>= k) (y >>= l) := by
  intro c hc
  obtain ⟨a, ha, hk⟩ := except_bind_ok.mp hc
  obtain ⟨b, hb, hab⟩ := h a ha
  obtain ⟨d, hd, hcd⟩ := hkl a b hab c hk
  exact ⟨d, except_bind_ok.mpr ⟨b, hb, hd⟩, hcd⟩

/-- The same result gives what is related to itself. -/
theorem same {p : γ → γ → Prop} {f : α → γ} (h : ∀ a, x = .ok a → p (f a) (f a)) :
    Carries p (x.map f) (x.map f) := by
  intro c hc
  obtain ⟨a, ha, rfl⟩ := except_map_ok.mp hc
  exact ⟨f a, hc, h a ha⟩

end Carries

/-! ## Values with other texts -/

namespace Value

variable {φ : String → String}

theorem mapEntries_eq (entries : List (Value × Value)) :
    mapEntries φ entries = entries.map fun e => (e.1, e.2.mapTexts φ) := by
  induction entries with
  | nil => rfl
  | cons e entries ih => rw [mapEntries, ih, List.map_cons]

theorem field?_mapEntries (name : String) (entries : List (Value × Value)) :
    field? name (mapEntries φ entries) = (field? name entries).map (mapTexts φ) := by
  rw [mapEntries_eq, field?, field?, lookup, lookup, List.find?_map, Option.map_map, Option.map_map]
  rfl

theorem mapTexts_of_isWhole {v : Value} (h : v.isWhole = true) : v.mapTexts φ = v := by
  cases v with
  | int n => rfl
  | float x => rfl
  | _ => cases h

theorem mapTexts_of_isBool {v : Value} (h : v.isBool = true) : v.mapTexts φ = v := by
  cases v with
  | bool b => rfl
  | _ => cases h

theorem isNull_mapTexts (v : Value) : (v.mapTexts φ).isNull = v.isNull := by cases v <;> rfl

end Value

namespace Selector

open Schema

variable {φ : String → String} {strict textGiven textGiven' : Bool} {place : String} {key value : Value}

/-- The text is not given under both of its keys. -/
def TextsApart (entries : List (Value × Value)) : Prop :=
  Value.field? "text" entries = none ∨ Value.field? textAlias entries = none

/-- The texts of whole numbers stay as they are. -/
def KeepsNumbers (φ : String → String) : Prop :=
  ∀ (v : Value) (t : String), v.isWhole = true → v.writeOrFail = .ok t → φ t = t

/-- What the second sets in a selector with other texts is what the first sets, with other texts. -/
def SetsSame (φ : String → String) (set set' : Selector → Selector) : Prop :=
  ∀ s, (set s).mapTexts φ = set' (s.mapTexts φ)

theorem textGiven_mapEntries {entries : List (Value × Value)} (hapart : TextsApart entries)
    {e : Value × Value} (he : e ∈ entries) (hkey : EntryKind.ofKey e.1 = .textAlias) :
    givesText entries = givesText (Value.mapEntries φ entries) := by
  have hsome : Value.field? textAlias entries ≠ none := by
    rw [Value.field?, Value.lookup, Ne, Option.map_eq_none_iff, List.find?_eq_none]
    exact fun hno => hno e he (by rw [EntryKind.key_of_textAlias hkey]; decide)
  have hnone := hapart.resolve_right hsome
  rw [givesText, givesText, Value.field?_mapEntries, hnone]
  rfl

theorem readField_mapTexts (hφ : KeepsNumbers φ) {k : FieldKey} (h : k.property.fits value = true) :
    Carries (SetsSame φ) (readField k place value) (readField k place (value.mapTexts φ)) := by
  have htext : ∀ {set : String → Selector → Selector}, value.isText = true →
      (∀ t, SetsSame φ (set t) (set (φ t))) →
      Carries (SetsSame φ) (value.writeOrFail.map set) ((value.mapTexts φ).writeOrFail.map set) := by
    intro set h hset
    cases value with
    | text t => exact .ok (hset t)
    | _ => cases h
  have hcriteria : ∀ {α : Type} (x : Except Failure α) {f : α → Criteria → Criteria},
      (∀ a c, (f a c).mapTexts φ = f a (c.mapTexts φ)) →
      Carries (SetsSame φ) (x.map fun a s => s.changeCriteria (f a)) (x.map fun a s => s.changeCriteria (f a)) :=
    fun x _ h => .same fun a _ s => mapTexts_changeCriteria s (h a)
  cases k with
  | text => exact htext h fun t s => mapTexts_changeCriteria s fun c => rfl
  | id => exact htext h fun t s => mapTexts_changeCriteria s fun c => rfl
  | width | height =>
      rw [Value.mapTexts_of_isWhole h]
      exact hcriteria _ fun n c => rfl
  | tolerance =>
      rw [Value.mapTexts_of_isWhole (Bool.and_eq_true_iff.mp h).1]
      exact hcriteria _ fun n c => rfl
  | enabled | selected | focused =>
      rw [Value.mapTexts_of_isBool h]
      exact hcriteria _ fun b c => rfl
  | index =>
      rcases Bool.or_eq_true_iff.mp h with hwhole | htextual
      · rw [Value.mapTexts_of_isWhole hwhole]
        refine Carries.same fun t ht s => ?_
        rw [mapTexts_withIndex, hφ value t hwhole ht]
      · exact htext htextual fun t s => mapTexts_withIndex s t
  | anchor r => exact .ok fun s => rfl
  | descendants => exact .ok fun s => rfl

/-- A value is read with other texts as the same selector with other texts. -/
def ReadsAlike (φ : String → String) (strict : Bool) (v : Value) : Prop :=
  ∀ place, Carries (fun s s' => AllVisited TextsApart v → s' = s.mapTexts φ)
    (ofValue strict place v) (ofValue strict place (v.mapTexts φ))

def ItemsReadAlike (φ : String → String) (strict : Bool) (v : Value) : Prop :=
  ∀ place, Carries (fun ds ds' => (∀ items, v = .list items → ∀ w ∈ items, AllVisited TextsApart w) →
      ds' = mapDescendants φ ds)
    (ofItems strict place v) (ofItems strict place (v.mapTexts φ))

/-- An entry sets the same with other texts, if the text is given with them exactly if it is without. -/
def EntryReadsAlike (φ : String → String) (strict textGiven textGiven' : Bool) (place : String)
    (key value : Value) : Prop :=
  Carries (fun set set' => (EntryKind.ofKey key = .textAlias → textGiven = textGiven') ∧
      AllWithin TextsApart key value → SetsSame φ set set')
    (readEntry strict place textGiven key value) (readEntry strict place textGiven' key (value.mapTexts φ))

theorem readEntry_mapTexts (hφ : KeepsNumbers φ) (hfits : FitsEntry key value)
    (hvalue : fitsSelector value = true → ReadsAlike φ strict value)
    (hitems : fitsItems value = true → ItemsReadAlike φ strict value) :
    EntryReadsAlike φ strict textGiven textGiven' place key value := by
  rw [EntryReadsAlike]
  cases hkey : EntryKind.ofKey key with
  | textAlias =>
      rw [FitsEntry, hkey] at hfits
      cases value with
      | text t =>
          simp only [readEntry, hkey]
          cases textGiven with
          | true =>
              cases textGiven' with
              | true => exact .ok fun _ s => rfl
              | false => exact .ok fun h => absurd (h.1 trivial) (by decide)
          | false =>
              cases textGiven' with
              | true => exact .ok fun h => absurd (h.1 trivial) (by decide)
              | false => exact .ok fun _ s => mapTexts_changeCriteria s fun c => rfl
      | _ => cases hfits
  | unknown =>
      simp only [readEntry, hkey]
      cases strict with
      | true =>
          intro _ h
          obtain ⟨_, -, ⟨⟩⟩ := except_bind_ok.mp h
      | false => exact .ok fun _ s => rfl
  | field k name =>
      have hnull := isNull_of_fitsEntry hkey hfits
      rw [FitsEntry, hkey] at hfits
      simp only [readEntry, AllWithin, hkey, Value.isNull_mapTexts, hnull, Bool.false_eq_true, ↓reduceIte]
      cases k with
      | anchor r =>
          refine (hvalue hfits _).map fun a a' ha hvisited s => ?_
          rw [ha hvisited.2]
          exact mapTexts_withAnchor s r a
      | descendants =>
          refine (hitems hfits _).map fun ds ds' hds hvisited s => ?_
          rw [hds hvisited.2]
          exact mapTexts_withDescendants s ds
      | _ => exact fun set hset => (readField_mapTexts hφ hfits set hset).imp fun set' h =>
          ⟨h.1, fun _ => h.2⟩

theorem ofEntries_mapTexts {entries : List (Value × Value)}
    (h : ∀ e ∈ entries, EntryReadsAlike φ strict textGiven textGiven' place e.1 e.2) (s s' : Selector) :
    Carries (fun t t' => (∀ e ∈ entries, (EntryKind.ofKey e.1 = .textAlias → textGiven = textGiven') ∧
        AllWithin TextsApart e.1 e.2) → s' = s.mapTexts φ → t' = t.mapTexts φ)
      (ofEntries strict place textGiven entries s)
      (ofEntries strict place textGiven' (Value.mapEntries φ entries) s') := by
  induction entries generalizing s s' with
  | nil => exact .ok fun _ hs => hs
  | cons e entries ih =>
      obtain ⟨hfirst, hrest⟩ := List.forall_mem_cons.mp h
      rw [Value.mapEntries, ofEntries_cons, ofEntries_cons]
      refine hfirst.bind fun set set' hset t ht => ?_
      obtain ⟨t', ht', hsame⟩ := ih hrest (set s) (set' s') t ht
      refine ⟨t', ht', fun hall hs => hsame (fun e he => hall e (List.mem_cons_of_mem _ he)) ?_⟩
      rw [hs]
      exact (hset (hall e List.mem_cons_self) s).symm

theorem allVisited_textsApart_map {entries : List (Value × Value)} (h : AllVisited TextsApart (.map entries))
    {e : Value × Value} (he : e ∈ entries) :
    (EntryKind.ofKey e.1 = .textAlias → givesText entries = givesText (Value.mapEntries φ entries)) ∧
      AllWithin TextsApart e.1 e.2 := by
  obtain ⟨hhere, hwithin⟩ := allVisited_map_iff.mp h
  exact ⟨textGiven_mapEntries hhere he, hwithin e he⟩

mutual

theorem ofValue_mapTexts (hφ : KeepsNumbers φ) (strict : Bool) :
    ∀ v, fitsSelector v = true → ReadsAlike φ strict v
  | .text _, _, _ => .ok fun _ => rfl
  | .map entries, hfits, place => by
    have hentries := readEntries_mapTexts hφ strict entries (fun _ => fitsEntry_of_mem hfits) place
      (givesText entries) (givesText (Value.mapEntries φ entries))
    intro s hs
    obtain ⟨s', hs', hsame⟩ := ofEntries_mapTexts hentries {} {} s hs
    exact ⟨s', hs', fun h => hsame (fun e he => allVisited_textsApart_map h he) rfl⟩
  | .null, hfits, _ | .bool _, hfits, _ | .int _, hfits, _ | .float _, hfits, _
  | .bytes _, hfits, _ | .date _, hfits, _ | .moment _, hfits, _ | .list _, hfits, _
  | .pair _ _, hfits, _ | .set _, hfits, _ | .setting _, hfits, _
  | .enclosing _, hfits, _ => nomatch hfits

theorem readEntries_mapTexts (hφ : KeepsNumbers φ) (strict : Bool) : ∀ entries : List (Value × Value),
    (∀ e ∈ entries, FitsEntry e.1 e.2) → ∀ place textGiven textGiven', ∀ e ∈ entries,
    EntryReadsAlike φ strict textGiven textGiven' place e.1 e.2
  | [], _, _, _, _, _, h => absurd h List.not_mem_nil
  | (key, v) :: rest, hfits, place, textGiven, textGiven', _, h => by
    obtain ⟨hfirst, hrest⟩ := List.forall_mem_cons.mp hfits
    rcases List.mem_cons.mp h with rfl | h
    · exact readEntry_mapTexts hφ hfirst (fun hv => ofValue_mapTexts hφ strict v hv)
        (fun hv => ofItems_mapTexts hφ strict v hv)
    · exact readEntries_mapTexts hφ strict rest hrest place textGiven textGiven' _ h

theorem ofItems_mapTexts (hφ : KeepsNumbers φ) (strict : Bool) :
    ∀ v, fitsItems v = true → ItemsReadAlike φ strict v
  | .list items, hfits, place => by
    intro ds hds
    obtain ⟨ds', hds', hsame⟩ :=
      ofList_mapTexts hφ strict items (fun _ => fits_of_mem hfits) place 0 ds hds
    exact ⟨ds', hds', fun h => hsame (h items rfl)⟩
  | .null, hfits, _ | .bool _, hfits, _ | .int _, hfits, _ | .float _, hfits, _
  | .bytes _, hfits, _ | .date _, hfits, _ | .moment _, hfits, _ | .text _, hfits, _
  | .map _, hfits, _ | .pair _ _, hfits, _ | .set _, hfits, _ | .setting _, hfits, _
  | .enclosing _, hfits, _ => nomatch hfits

theorem ofList_mapTexts (hφ : KeepsNumbers φ) (strict : Bool) : ∀ items : List Value,
    (∀ v ∈ items, fitsSelector v = true) → ∀ place i,
    Carries (fun ds ds' => (∀ v ∈ items, AllVisited TextsApart v) → ds' = mapDescendants φ ds)
      (ofList strict place i items) (ofList strict place i (Value.mapItems φ items))
  | [], _, _, _ => .ok fun _ => rfl
  | v :: rest, hfits, place, i => by
    obtain ⟨hfirst, hrest⟩ := List.forall_mem_cons.mp hfits
    rw [Value.mapItems, ofList, ofList]
    refine (ofValue_mapTexts hφ strict v hfirst _).bind fun s s' hs => ?_
    refine (ofList_mapTexts hφ strict rest hrest place (i + 1)).bind fun ds ds' hds => ?_
    refine .ok fun hall => ?_
    obtain ⟨hv, hrestVisited⟩ := List.forall_mem_cons.mp hall
    rw [hs hv, hds hrestVisited, mapDescendants]

end

end Selector

end ElementFinder
