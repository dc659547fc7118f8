import ElementFinder.Proofs.Escapes
import ElementFinder.Proofs.MapReport

/-!
# How object maps fail to load

An object map with a fault does not load, and what is wrong with it is answered as a failure of the
configuration. Other failures arise where the check or the reading needs words that there are none for,
where names of selectors cannot be put into an order, and in selectors that hold themselves.
-/

namespace ElementFinder

namespace Schema

variable {entries : List (Value × Value)}

/-! ## Object maps that pass the check -/

theorem faults_of_check (h : check entries = .ok ()) : faults entries = .ok [] := by
  obtain ⟨found, hok, h⟩ := except_bind_ok.mp h
  obtain ⟨inOrder, hsorted, h⟩ := except_bind_ok.mp h
  have hperm := perm_of_sorted hsorted
  split at h
  · next hempty =>
    rw [List.isEmpty_iff.mp hempty] at hperm
    rw [hok, hperm.nil_eq]
  · obtain ⟨_, -, ⟨⟩⟩ := except_bind_ok.mp h

theorem isWhole_of_countFaults {path : List Value} {v : Value} (h : countFaults path v = .ok []) :
    v.isWhole = true := by
  obtain ⟨wrongType, hwrong, h⟩ := except_bind_ok.mp h
  have hnil : wrongType = [] := by
    cases hbelow : v.isBelowZero with
    | true =>
        rw [hbelow] at h
        obtain ⟨shown, -, h⟩ := except_bind_ok.mp h
        exact (List.append_eq_nil_iff.mp (Except.ok.inj h)).1
    | false =>
        rw [hbelow] at h
        exact Except.ok.inj h
  subst hnil
  cases hwhole : v.isWhole with
  | true => rfl
  | false =>
      rw [typeFault, hwhole] at hwrong
      obtain ⟨_, -, ⟨⟩⟩ := except_bind_ok.mp hwrong

theorem isWhole_of_check (h : check entries = .ok ()) {name : String}
    (hname : name = "find_timeout_ms" ∨ name = "optional_find_timeout_ms") {v : Value}
    (hv : Value.field? name (ObjectMap.block "app" entries) = some v) : v.isWhole = true := by
  obtain ⟨settings, hsettings, h⟩ := except_bind_ok.mp (faults_of_check h)
  obtain ⟨selectors, -, h⟩ := except_bind_ok.mp h
  obtain ⟨extra, -, h⟩ := except_bind_ok.mp h
  have hnil : settings = [] := by
    simp only [List.append_assoc] at h
    exact (List.append_eq_nil_iff.mp (Except.ok.inj h)).1
  subst hnil
  rw [ObjectMap.block] at hv
  split at hv
  · next es hes =>
    rw [fieldFaults, hes] at hsettings
    obtain ⟨find, hfind, h⟩ := except_bind_ok.mp hsettings
    obtain ⟨optional, hoptional, h⟩ := except_bind_ok.mp h
    obtain ⟨directory, -, h⟩ := except_bind_ok.mp h
    obtain ⟨strict, -, h⟩ := except_bind_ok.mp h
    obtain ⟨extra, -, h⟩ := except_bind_ok.mp h
    have hnil := Except.ok.inj h
    simp only [List.append_assoc, List.append_eq_nil_iff] at hnil
    obtain ⟨rfl, rfl, -⟩ := hnil
    obtain rfl | rfl := hname
    · rw [fieldFaults, hv] at hfind
      exact isWhole_of_countFaults hfind
    · rw [fieldFaults, hv] at hoptional
      exact isWhole_of_countFaults hoptional
  · cases hv

theorem wrongSelectors_of_check (h : check entries = .ok ()) : wrongSelectors entries = [] := by
  obtain ⟨settings, selectors, whole, hnil, -, hselectors, -⟩ := faults_paths (faults_of_check h)
  obtain ⟨hnil, -⟩ := List.append_eq_nil_iff.mp hnil.symm
  obtain ⟨-, rfl⟩ := List.append_eq_nil_iff.mp hnil
  obtain hpaths | ⟨hnone, -⟩ := hselectors
  · exact List.map_eq_nil_iff.mp hpaths.symm
  · exact hnone

/-- In an object map that passes the check, each selector has the form of a selector and has words. -/
theorem selector_of_check (h : check entries = .ok ()) {e : Value × Value}
    (he : e ∈ ObjectMap.block "selectors" entries) :
    fitsSelector e.2 = true ∧ ¬e.2.HoldsTooLong := by
  have horderly : Orderly (check entries) := h ▸ Orderly.ok ()
  constructor
  · have hnone := List.filter_eq_nil_iff.mp (wrongSelectors_of_check h) e he
    simpa using hnone
  · obtain ⟨es, hes, he⟩ := mem_block_iff.mp he
    exact (check_orderly_iff.mp horderly).1 e.2 (.selector hes (.selector he))

end Schema

/-! ## Selectors of the right form -/

theorem Value.not_isInfinite_of_isWhole {v : Value} (h : v.isWhole = true) : ¬v.IsInfinite := by
  rintro ⟨hnone, -⟩
  rw [isWhole, hnone] at h
  cases h

theorem Value.toInteger_of_isWhole {v : Value} (h : v.isWhole = true) :
    ∃ n, v.toInteger = .ok (some n) := by
  cases v with
  | int n => exact ⟨n, rfl⟩
  | float x =>
      cases hb : Binary.ofFloat? x with
      | none =>
          rw [isWhole, hb] at h
          cases h
      | some b => exact ⟨b.truncate, by simp only [toInteger, hb]⟩
  | _ => cases h

/-- What the form of an object map asks of the value of a field. -/
def FieldKey.property : FieldKey → Schema.Property
  | .text | .id => .text
  | .width | .height => .whole
  | .tolerance => .count
  | .enabled | .selected | .focused => .truth
  | .index => .wholeOrText
  | .anchor _ => .selector
  | .descendants => .selectors

theorem FieldKey.not_escapes_of_fits {k : FieldKey} {v : Value} (h : k.property.fits v = true)
    (hwords : ¬v.HoldsTooLong) : ¬k.Escapes v := by
  cases k with
  | width => exact not_or.mpr ⟨Value.not_isInfinite_of_isWhole h, fun h => hwords h.1⟩
  | height => exact not_or.mpr ⟨Value.not_isInfinite_of_isWhole h, fun h => hwords h.1⟩
  | tolerance =>
      have hwhole := (Bool.and_eq_true_iff.mp h).1
      exact not_or.mpr ⟨Value.not_isInfinite_of_isWhole hwhole, fun h => hwords h.1⟩
  | anchor r => exact fun h => h
  | descendants => exact fun h => h
  | _ => exact hwords

namespace Schema

/-- An entry with a known key has a value of the right form. -/
def FitsEntry (key value : Value) : Prop :=
  match EntryKind.ofKey key with
  | .textAlias => value.isText = true
  | .unknown => True
  | .field (.anchor _) _ => fitsSelector value = true
  | .field .descendants _ => fitsItems value = true
  | .field k _ => k.property.fits value = true

/-- The form and the reading of selectors know the same keys. -/
theorem property?_eq (key : Value) : property? key = match EntryKind.ofKey key with
    | .textAlias => some .text
    | .unknown => none
    | .field k _ => some k.property := by
  cases key with
  | text name =>
      by_cases hknown : name ∈ properties.map (·.1)
      · have hall : ∀ name ∈ properties.map (·.1), property? (.text name) =
            match EntryKind.ofKey (.text name) with
            | .textAlias => some .text
            | .unknown => none
            | .field k _ => some k.property := by decide
        exact hall name hknown
      · have hkeys : (properties.map (·.1)).Perm (selectorKeys ++ [textAlias]) := by decide
        have hunknown : EntryKind.ofKey (.text name) = .unknown := by
          rw [EntryKind.ofKey_eq_unknown_iff]
          rintro ⟨_, hname, ⟨⟩⟩
          exact hknown (hkeys.mem_iff.mpr hname)
        rw [hunknown, property?, Option.map_eq_none_iff, List.find?_eq_none]
        intro p hp hname
        exact hknown (List.mem_map.mpr ⟨p, hp, beq_iff_eq.mp hname⟩)
  | _ => rfl

theorem fitsEntry_of_mem {entries : List (Value × Value)} (h : fitsEntries entries = true)
    {e : Value × Value} (he : e ∈ entries) : FitsEntry e.1 e.2 := by
  induction entries with
  | nil => cases he
  | cons first rest ih =>
      obtain ⟨key, value⟩ := first
      rw [fitsEntries, Bool.and_eq_true_iff] at h
      rcases List.mem_cons.mp he with rfl | he
      · have hfirst := h.1
        rw [property?_eq] at hfirst
        rw [FitsEntry]
        cases hkey : EntryKind.ofKey key with
        | unknown => trivial
        | textAlias =>
            rw [hkey] at hfirst
            exact hfirst
        | field k name =>
            rw [hkey] at hfirst
            cases k <;> exact hfirst
      · exact ih h.2 he

theorem fits_of_mem {items : List Value} (h : fitsAll items = true) {v : Value} (hv : v ∈ items) :
    fitsSelector v = true := by
  induction items with
  | nil => cases hv
  | cons w rest ih =>
      rw [fitsAll, Bool.and_eq_true_iff] at h
      rcases List.mem_cons.mp hv with rfl | hv
      · exact h.1
      · exact ih h.2 hv

end Schema

namespace Selector

open Schema

variable {strict : Bool}

mutual

/-- A value of the right form that is not read in an orderly way has no words. -/
theorem Escapes.holdsTooLong_of_fits :
    ∀ {v : Value}, Escapes strict v → fitsSelector v = true → v.HoldsTooLong
  | _, .itself, h => nomatch h
  | _, .entry ⟨before, after, _, _, hsplit, _⟩ hentry, h => by
    have he : (_, _) ∈ _ := hsplit ▸ List.mem_append_right before List.mem_cons_self
    exact (hentry.holdsTooLong_of_fits (fitsEntry_of_mem h he)).elim (.key he) (.value he)

theorem EntryEscapes.holdsTooLong_of_fits : ∀ {textGiven : Bool} {key value : Value},
    EntryEscapes strict textGiven key value → FitsEntry key value →
      key.HoldsTooLong ∨ value.HoldsTooLong
  | _, _, _, .otherText hkey hlong, _ => Or.inr hlong
  | _, _, _, .unknownKey _ _ hlong, _ => Or.inl hlong
  | _, _, _, @EntryEscapes.field _ _ _ _ k _ hkey hfield, h => by
    rw [FitsEntry, hkey] at h
    refine Or.inr (Classical.byContradiction fun hwords => ?_)
    cases k with
    | anchor r => exact hfield
    | descendants => exact hfield
    | _ => exact FieldKey.not_escapes_of_fits h hwords hfield
  | _, _, _, .anchor hkey hanchor, h => by
    rw [FitsEntry, hkey] at h
    exact Or.inr (hanchor.holdsTooLong_of_fits h)
  | _, _, _, .descendants hkey hitems, h => by
    rw [FitsEntry, hkey] at h
    exact Or.inr (hitems.holdsTooLong_of_fits h)

theorem ItemsEscape.holdsTooLong_of_fits :
    ∀ {v : Value}, ItemsEscape strict v → fitsItems v = true → v.HoldsTooLong
  | _, .itself, h => nomatch h
  | _, .item ⟨before, after, _, _, hsplit, _⟩ hv, h => by
    have hmem : _ ∈ _ := hsplit ▸ List.mem_append_right before List.mem_cons_self
    exact .item hmem (hv.holdsTooLong_of_fits (fits_of_mem h hmem))

end

end Selector

namespace ObjectMap

/-! ## Loading -/

theorem countOf_ok {name : String} {settings : List (Value × Value)}
    (h : ∀ v, Value.field? name settings = some v → v.isWhole = true) :
    ∃ n, countOf name settings = .ok n := by
  rw [countOf]
  cases hv : Value.field? name settings with
  | none => exact ⟨0, rfl⟩
  | some v =>
      obtain ⟨n, hn⟩ := v.toInteger_of_isWhole (h v hv)
      refine ⟨n, ?_⟩
      simp only [hn]
      rfl

theorem settingsOf_ok {entries : List (Value × Value)} (h : Schema.check entries = .ok ())
    (directory : String) : ∃ settings, settingsOf directory (block "app" entries) = .ok settings ∧
      settings.strict = strictOf (block "app" entries) := by
  obtain ⟨find, hfind⟩ := countOf_ok fun _ => Schema.isWhole_of_check h (Or.inl rfl)
  obtain ⟨optional, hoptional⟩ := countOf_ok fun _ => Schema.isWhole_of_check h (Or.inr rfl)
  refine ⟨⟨find, optional, directoryOf directory (block "app" entries), strictOf (block "app" entries)⟩,
    ?_, rfl⟩
  rw [settingsOf, hfind, hoptional]
  rfl

theorem ofEntries_eq (directory : String) (entries : List (Value × Value)) :
    ofEntries directory entries =
      Schema.check entries >>= fun _ => settingsOf directory (block "app" entries) >>= fun settings =>
        ((block "selectors" entries).mapM fun e => readSelector settings.strict e.1 e.2).map fun _ =>
          ⟨settings, block "selectors" entries⟩ := by
  have hloop : ∀ (settings : MapSettings) (selectors whole : List (Value × Value)),
      (do
        for e in selectors do
          let _ ← readSelector settings.strict e.1 e.2
        return (⟨settings, whole⟩ : ObjectMap)) =
      (selectors.mapM fun e => readSelector settings.strict e.1 e.2).map fun _ => ⟨settings, whole⟩ := by
    intro settings selectors whole
    induction selectors with
    | nil => rfl
    | cons e selectors ih =>
        rw [List.forIn_cons, List.mapM_cons]
        cases readSelector settings.strict e.1 e.2 with
        | error f => rfl
        | ok s =>
            refine Eq.trans ih ?_
            cases selectors.mapM fun e => readSelector settings.strict e.1 e.2 <;> rfl
  rw [ofEntries]
  congr 1
  funext _
  congr 1
  funext settings
  exact hloop settings _ _

theorem readSelector_orderly_iff {strict : Bool} {name data : Value}
    (hfits : Schema.fitsSelector data = true) (hwords : ¬data.HoldsTooLong) :
    Orderly (readSelector strict name data) ↔ ¬name.HoldsTooLong := by
  rw [readSelector, Orderly.bind_iff, name.writeOrFail_orderly_iff]
  exact and_iff_left fun _ _ => (Selector.ofValue_orderly_iff strict data _).mpr fun h =>
    hwords (h.holdsTooLong_of_fits hfits)

/-- Loading an object map fails for another reason than its form: a value has no words, a selector holds
itself, the names of two wrong selectors have no order, or a name has no words, of a wrong selector or of
one that the reading of selectors comes to. -/
inductive Escapes (entries : List (Value × Value)) : Prop
  | value {v : Value} : Schema.Shows entries v → v.HoldsTooLong → Escapes entries
  | itself {e : Value × Value} :
      e ∈ block "selectors" entries → Schema.returnsToItself e.2 = true → Escapes entries
  | order {a b : Value × Value} :
      [a, b].Sublist (Schema.wrongSelectors entries) → ¬a.1.HaveOrder b.1 → Escapes entries
  | wrongName {e : Value × Value} :
      e ∈ Schema.wrongSelectors entries → e.1.HoldsTooLong → Escapes entries
  | name {before after : List (Value × Value)} {e : Value × Value} :
      Schema.check entries = .ok () → block "selectors" entries = before ++ e :: after →
      (∀ b ∈ before, ∃ s, readSelector (strictOf (block "app" entries)) b.1 b.2 = .ok s) →
      e.1.HoldsTooLong → Escapes entries

theorem ofEntries_orderly_iff (directory : String) (entries : List (Value × Value)) :
    Orderly (ofEntries directory entries) ↔ ¬Escapes entries := by
  rw [ofEntries_eq, Orderly.bind_iff]
  constructor
  · rintro ⟨hcheck, hread⟩ hescapes
    obtain ⟨hwords, hends, horder, hnames⟩ := Schema.check_orderly_iff.mp hcheck
    cases hescapes with
    | value hshows hlong => exact hwords _ hshows hlong
    | itself he hitself => exact hends _ he hitself
    | order hab hno => exact hno (List.pairwise_iff_forall_sublist.mp horder hab)
    | wrongName he hlong => exact hnames _ he hlong
    | @name before after e hpasses hsplit hbefore hlong =>
        obtain ⟨settings, hsettings, hstrict⟩ := settingsOf_ok hpasses directory
        have hall := hread () hpasses
        rw [hsettings] at hall
        -- The value of the selector has passed the check, so only its name can be the reason.
        have he : e ∈ block "selectors" entries := by simp [hsplit]
        obtain ⟨hfits, hselector⟩ := Schema.selector_of_check hpasses he
        have hname := Orderly.mapM_iff.mp (Orderly.map_iff.mp hall) before e after hsplit
          (hstrict ▸ hbefore)
        exact (readSelector_orderly_iff hfits hselector).mp hname hlong
  · intro hescapes
    constructor
    · refine Schema.check_orderly_iff.mpr ⟨fun w hw hlong => hescapes (.value hw hlong),
        fun e he hitself => hescapes (.itself he hitself), ?_,
        fun e he hlong => hescapes (.wrongName he hlong)⟩
      refine List.pairwise_iff_forall_sublist.mpr fun {a b} hab => ?_
      exact Classical.byContradiction fun hno => hescapes (.order hab hno)
    · rintro ⟨⟩ hpasses
      obtain ⟨settings, hsettings, hstrict⟩ := settingsOf_ok hpasses directory
      rw [hsettings]
      refine Orderly.map_iff.mpr (Orderly.mapM_iff.mpr fun before e after hsplit hbefore => ?_)
      have he : e ∈ block "selectors" entries := by simp [hsplit]
      obtain ⟨hfits, hselector⟩ := Schema.selector_of_check hpasses he
      exact (readSelector_orderly_iff hfits hselector).mpr fun hlong =>
        hescapes (.name hpasses hsplit (hstrict ▸ hbefore) hlong)

theorem load_eq {bytes : List UInt8} {text : String} (htext : textOf bytes = .ok text)
    (directory name : String) : load directory name (some bytes) = match dataOf text with
      | .error (.malformed reason) => .error (.config ("Invalid YAML: " ++ reason))
      | .error (.value f) => .error f
      | .ok (.map entries) => ofEntries directory entries
      | .ok _ => .error (.config "Object map YAML must be a mapping at root.") := by
  rw [load, entriesOf, htext]
  change (match dataOf text with
    | .error (.malformed reason) => _
    | .error (.value f) => _
    | .ok (.map entries) => _
    | .ok _ => _) >>= ofEntries directory = _
  split <;> rfl

theorem load_orderly_iff {bytes : List UInt8} {text : String} (htext : textOf bytes = .ok text)
    (directory name : String) : Orderly (load directory name (some bytes)) ↔
      (∀ f, dataOf text = .error (.value f) → f.IsConfig) ∧
        ∀ entries, dataOf text = .ok (.map entries) → ¬Escapes entries := by
  rw [load_eq htext]
  split
  · next reason hread => simp [hread, Orderly.error_iff, Failure.IsConfig]
  · next f hread => simp [hread, Orderly.error_iff]
  · next entries hread => simp [hread, ofEntries_orderly_iff]
  · next v hne hread =>
    refine iff_of_true (Orderly.error_iff.mpr trivial) ⟨fun f h => ?_, fun entries h => ?_⟩
    · cases hread.symm.trans h
    · exact absurd (Except.ok.inj (hread.symm.trans h)) (hne entries)

end ObjectMap

/-! ## Main result -/

open ObjectMap

/-- A missing object map, and one whose bytes are a text, fail to load, if they do, as a failure of the
configuration: but for texts that are refused by a number or a date in them, and for object maps in which
a value or a name has no words, names have no order, or a selector holds itself. -/
theorem map_refusal_is_orderly_iff (directory name : String) :
    (∀ f, load directory name none = .error f → f.IsConfig) ∧
    ∀ (bytes : List UInt8) (text : String), textOf bytes = .ok text →
      ((∀ f, load directory name (some bytes) = .error f → f.IsConfig) ↔
        (∀ f, dataOf text = .error (.value f) → f.IsConfig) ∧
          ∀ entries, dataOf text = .ok (.map entries) → ¬Escapes entries) :=
  ⟨Orderly.error_iff.mpr trivial, fun _ _ htext => load_orderly_iff htext directory name⟩

/-- The document of an object map without selectors. -/
def mapOfNothing : Yaml.Document :=
  ⟨[⟨.mapping, .entries [(1, 2)]⟩, ⟨.text, .text "selectors"⟩, ⟨.mapping, .entries []⟩], 0⟩

theorem dataOf_no_selectors :
    dataOf "selectors: \x7b\x7d" = .ok (.map [(.text "selectors", .map [])]) := by
  -- step by step, since the values are asked for in many places of the tree that is made of them
  have hdocument : Yaml.readDocument "selectors: \x7b\x7d" = .ok (some mapOfNothing) := rfl
  have hparts : mapOfNothing.parts =
      .ok [.map [(1, 2)], .value (.text "selectors"), .map []] := rfl
  rw [dataOf, Yaml.read, hdocument]
  change mapOfNothing.value (.each (.each .whole)) = _
  rw [Yaml.Document.value, hparts]
  rfl

theorem map_refusal_is_orderly_iff_no_selectors :
    textOf [115, 101, 108, 101, 99, 116, 111, 114, 115, 58, 32, 123, 125] =
      .ok "selectors: \x7b\x7d" ∧
    ∀ f, load "/maps" "map.yaml"
      (some [115, 101, 108, 101, 99, 116, 111, 114, 115, 58, 32, 123, 125]) = .error f → f.IsConfig := by
  have hread := dataOf_no_selectors
  refine ⟨rfl, ((map_refusal_is_orderly_iff "/maps" "map.yaml").2 _ _ rfl).mpr
    ⟨fun f h => (nomatch hread.symm.trans h), fun entries h => ?_⟩⟩
  cases hread.symm.trans h
  rintro (@⟨v, hshows, hlong⟩ | ⟨he, -⟩ | ⟨hab, -⟩ | ⟨he, -⟩ | ⟨-, hsplit, -⟩)
  · cases hshows with
    | setting hv => cases hv
    | selector hv hshow =>
        cases hv
        cases hshow with
        | whole h => exact h [] rfl
        | selector he => cases he
    | key he hkey =>
        cases List.mem_singleton.mp he
        cases hkey
  · cases he
  · cases hab
  · cases he
  · exact List.append_ne_nil_of_right_ne_nil _ (List.cons_ne_nil _ _) hsplit.symm

/-- A byte that is no text, and names without an order, are not answered as failures of the
configuration. -/
theorem undecodable_map_is_not_refused :
    load "/maps" "map.yaml" (some [0xFF]) = .error .undecodable ∧
    ObjectMap.ofEntries "/maps" [(.text "selectors", .map [(.null, .null), (.text "save", .null)])] =
      .error .wrongType ∧
    ¬Failure.undecodable.IsConfig ∧ ¬Failure.wrongType.IsConfig :=
  ⟨rfl, rfl, id, id⟩

end ElementFinder
