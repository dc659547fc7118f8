import ElementFinder.ObjectMap.Basic
import ElementFinder.Proofs.Orderly

/-!
# The check of the form of object maps

All faults of an object map are found before one of them is reported. Finding them puts the values that
are wrong into words, and all selectors, right or wrong; reporting them puts them into an order.
-/

namespace ElementFinder

namespace Schema

variable {path : List Value} {name : String} {entries : List (Value × Value)}

/-! ## What is put into words -/

/-- The check of the settings puts a value into words: the whole, if it is no mapping, or a wrong
setting, or an unknown key. -/
inductive SettingsShow : Value → Value → Prop
  | whole {v : Value} : (∀ es, v ≠ .map es) → SettingsShow v v
  | count {es : List (Value × Value)} {name : String} {v : Value} :
      name = "find_timeout_ms" ∨ name = "optional_find_timeout_ms" → Value.field? name es = some v →
      v.isWhole = false ∨ v.isBelowZero = true → SettingsShow (.map es) v
  | directory {es : List (Value × Value)} {v : Value} :
      Value.field? "artifacts_dir" es = some v → v.isText = false → SettingsShow (.map es) v
  | strict {es : List (Value × Value)} {v : Value} :
      Value.field? "strict_selector_keys" es = some v → v.isBool = false → SettingsShow (.map es) v
  | key {es : List (Value × Value)} {e : Value × Value} :
      e ∈ es → isKnown settingKeys e.1 = false → SettingsShow (.map es) e.1

/-- The check of the selectors puts a value into words: the whole, if it is no mapping, or the value of
a selector. -/
inductive SelectorsShow : Value → Value → Prop
  | whole {v : Value} : (∀ es, v ≠ .map es) → SelectorsShow v v
  | selector {es : List (Value × Value)} {e : Value × Value} : e ∈ es → SelectorsShow (.map es) e.2

/-- The check of an object map puts a value into words. -/
inductive Shows (entries : List (Value × Value)) : Value → Prop
  | setting {v w : Value} : Value.field? "app" entries = some v → SettingsShow v w → Shows entries w
  | selector {v w : Value} :
      Value.field? "selectors" entries = some v → SelectorsShow v w → Shows entries w
  | key {e : Value × Value} : e ∈ entries → isKnown blockKeys e.1 = false → Shows entries e.1

theorem notOfType_strays (type : String) (v : Value) :
    StraysWhen v.HoldsTooLong (notOfType path type v) :=
  v.displayOrFail_strays.map _

theorem typeFault_strays (type : String) (fits : Bool) (v : Value) :
    StraysWhen (fits = false ∧ v.HoldsTooLong) (typeFault path type fits v) := by
  cases fits with
  | true => exact .ok nofun
  | false => exact ((notOfType_strays type v).map fun f => [f]).congr (and_iff_right rfl).symm

theorem countFaults_strays (path : List Value) (v : Value) :
    StraysWhen ((v.isWhole = false ∨ v.isBelowZero = true) ∧ v.HoldsTooLong) (countFaults path v) := by
  rw [or_and_right, countFaults]
  refine (typeFault_strays "integer" v.isWhole v).bind fun wrongType => ?_
  cases v.isBelowZero with
  | true =>
      exact (v.displayOrFail_strays.map fun shown =>
        wrongType ++ [⟨path, shown ++ " is less than the minimum of 0"⟩]).congr (and_iff_right rfl).symm
  | false => exact .ok nofun

theorem extraFaults_strays (known : List String) :
    StraysWhen (∃ e ∈ entries, isKnown known e.1 = false ∧ e.1.HoldsTooLong)
      (extraFaults path known entries) := by
  have hmem : (∃ e ∈ entries.filter (fun e => !isKnown known e.1), e.1.HoldsTooLong) ↔
      ∃ e ∈ entries, isKnown known e.1 = false ∧ e.1.HoldsTooLong := by
    simp [and_assoc]
  rw [← hmem, extraFaults]
  dsimp only
  split
  · next hempty =>
    rw [List.isEmpty_iff.mp hempty]
    exact .ok nofun
  · have hkey : ∀ e : Value × Value, StraysWhen e.1.HoldsTooLong
        (e.1.writeOrFail >>= fun text => e.1.displayOrFail >>= fun shown => pure (text, shown)) :=
      fun e => (e.1.writeOrFail_strays.both e.1.displayOrFail_strays Prod.mk).congr (or_self_iff)
    exact (FailsWhen.mapM hkey _).map _

theorem fieldFaults_strays {p : Value → Prop} {check : List Value → Value → Except Failure (List Fault)}
    (h : ∀ path v, StraysWhen (p v) (check path v)) :
    StraysWhen (∃ v, Value.field? name entries = some v ∧ p v) (fieldFaults path name entries check) := by
  rw [fieldFaults]
  cases Value.field? name entries with
  | none => exact .ok nofun
  | some v => exact (h _ v).congr (by simp)

theorem settingsFaults_of_ne_map {v : Value} (h : ∀ es, v ≠ .map es) :
    settingsFaults path v = (notOfType path "object" v).map fun f => [f] := by
  rw [settingsFaults.eq_def]
  split
  · next es => exact absurd rfl (h es)
  · cases notOfType path "object" v <;> rfl

theorem settingsFaults_strays (path : List Value) (v : Value) :
    StraysWhen (∃ w, SettingsShow v w ∧ w.HoldsTooLong) (settingsFaults path v) := by
  by_cases hmap : ∃ es, v = .map es
  · obtain ⟨es, rfl⟩ := hmap
    refine ((fieldFaults_strays countFaults_strays).bind fun _ =>
      (fieldFaults_strays countFaults_strays).bind fun _ =>
      (fieldFaults_strays fun p v => typeFault_strays "string" v.isText v).bind fun _ =>
      (fieldFaults_strays fun p v => typeFault_strays "boolean" v.isBool v).bind fun _ =>
      (extraFaults_strays settingKeys).map _).congr ?_
    constructor
    · rintro (⟨v, hv, hwrong, hlong⟩ | ⟨v, hv, hwrong, hlong⟩ | ⟨v, hv, hwrong, hlong⟩ |
        ⟨v, hv, hwrong, hlong⟩ | ⟨e, he, hkey, hlong⟩)
      · exact ⟨v, .count (Or.inl rfl) hv hwrong, hlong⟩
      · exact ⟨v, .count (Or.inr rfl) hv hwrong, hlong⟩
      · exact ⟨v, .directory hv hwrong, hlong⟩
      · exact ⟨v, .strict hv hwrong, hlong⟩
      · exact ⟨e.1, .key he hkey, hlong⟩
    · rintro ⟨w, hshow, hlong⟩
      cases hshow with
      | whole h => exact absurd rfl (h es)
      | count hname hv hwrong =>
          obtain rfl | rfl := hname
          · exact Or.inl ⟨w, hv, hwrong, hlong⟩
          · exact Or.inr (Or.inl ⟨w, hv, hwrong, hlong⟩)
      | directory hv hwrong => exact Or.inr (Or.inr (Or.inl ⟨w, hv, hwrong, hlong⟩))
      | strict hv hwrong => exact Or.inr (Or.inr (Or.inr (Or.inl ⟨w, hv, hwrong, hlong⟩)))
      | key he hkey => exact Or.inr (Or.inr (Or.inr (Or.inr ⟨_, he, hkey, hlong⟩)))
  · have hne : ∀ es, v ≠ .map es := fun es h => hmap ⟨es, h⟩
    rw [settingsFaults_of_ne_map hne]
    refine ((notOfType_strays "object" v).map _).congr ⟨fun hlong => ⟨v, .whole hne, hlong⟩, ?_⟩
    rintro ⟨w, hshow, hlong⟩
    cases hshow with
    | whole => exact hlong
    | _ => exact absurd rfl (hne _)

theorem selectorFaults_strays (v : Value) :
    StraysWhen (v.HoldsTooLong ∨ returnsToItself v = true) (selectorFaults path v) := by
  rw [selectorFaults]
  refine v.displayOrFail_strays.bind fun shown => ?_
  cases returnsToItself v with
  | true => exact .error id rfl
  | false => cases fitsSelector v <;> exact .ok nofun

theorem selectorsFaults_of_ne_map {v : Value} (h : ∀ es, v ≠ .map es) :
    selectorsFaults path v = (notOfType path "object" v).map fun f => [f] := by
  rw [selectorsFaults.eq_def]
  split
  · next es => exact absurd rfl (h es)
  · cases notOfType path "object" v <;> rfl

theorem selectorsFaults_strays (path : List Value) (v : Value) :
    StraysWhen ((∃ w, SelectorsShow v w ∧ w.HoldsTooLong) ∨
      ∃ es, v = .map es ∧ ∃ e ∈ es, returnsToItself e.2 = true) (selectorsFaults path v) := by
  by_cases hmap : ∃ es, v = .map es
  · obtain ⟨es, rfl⟩ := hmap
    refine ((FailsWhen.mapM (fun e : Value × Value => selectorFaults_strays e.2) es).map _).congr ?_
    constructor
    · rintro ⟨e, he, hlong | hitself⟩
      · exact Or.inl ⟨e.2, .selector he, hlong⟩
      · exact Or.inr ⟨es, rfl, e, he, hitself⟩
    · rintro (⟨w, hshow, hlong⟩ | ⟨_, hes, e, he, hitself⟩)
      · cases hshow with
        | whole h => exact absurd rfl (h es)
        | selector he => exact ⟨_, he, Or.inl hlong⟩
      · cases hes
        exact ⟨e, he, Or.inr hitself⟩
  · have hne : ∀ es, v ≠ .map es := fun es h => hmap ⟨es, h⟩
    rw [selectorsFaults_of_ne_map hne]
    refine ((notOfType_strays "object" v).map _).congr ?_
    constructor
    · intro hlong
      exact Or.inl ⟨v, .whole hne, hlong⟩
    · rintro (⟨w, hshow, hlong⟩ | ⟨es, hes, -⟩)
      · cases hshow with
        | whole => exact hlong
        | selector => exact absurd rfl (hne _)
      · exact absurd hes (hne es)

/-- All faults are found, but for values that have no words and for selectors that hold themselves. -/
theorem faults_strays (entries : List (Value × Value)) :
    StraysWhen ((∃ w, Shows entries w ∧ w.HoldsTooLong) ∨
      ∃ es, Value.field? "selectors" entries = some (.map es) ∧ ∃ e ∈ es, returnsToItself e.2 = true)
      (faults entries) := by
  refine ((fieldFaults_strays settingsFaults_strays).bind fun _ =>
    (fieldFaults_strays selectorsFaults_strays).bind fun _ => (extraFaults_strays blockKeys).map _).congr ?_
  constructor
  · rintro (⟨v, hv, w, hshow, hlong⟩ | ⟨v, hv, ⟨w, hshow, hlong⟩ | ⟨es, rfl, hitself⟩⟩ |
      ⟨e, he, hkey, hlong⟩)
    · exact Or.inl ⟨w, .setting hv hshow, hlong⟩
    · exact Or.inl ⟨w, .selector hv hshow, hlong⟩
    · exact Or.inr ⟨es, hv, hitself⟩
    · exact Or.inl ⟨e.1, .key he hkey, hlong⟩
  · rintro (⟨w, hshow, hlong⟩ | ⟨es, hv, hitself⟩)
    · cases hshow with
      | setting hv hshow => exact Or.inl ⟨_, hv, w, hshow, hlong⟩
      | selector hv hshow => exact Or.inr (Or.inl ⟨_, hv, Or.inl ⟨w, hshow, hlong⟩⟩)
      | key he hkey => exact Or.inr (Or.inr ⟨_, he, hkey, hlong⟩)
    · exact Or.inr (Or.inl ⟨_, hv, Or.inr ⟨es, rfl, hitself⟩⟩)

/-! ## Where the faults are -/

/-- Each fault has a path that goes on from a given one by the names of fields. -/
def AllBelow (path : List Value) (found : List Fault) : Prop :=
  ∀ f ∈ found, ∃ names : List String, f.path = path ++ names.map .text

theorem typeFault_path {type : String} {fits : Bool} {v : Value} {found : List Fault}
    (h : typeFault path type fits v = .ok found) : ∀ f ∈ found, f.path = path := by
  rw [typeFault] at h
  cases fits with
  | true =>
      cases h
      nofun
  | false =>
      obtain ⟨fault, hfault, ⟨⟩⟩ := except_bind_ok.mp h
      obtain ⟨shown, -, ⟨⟩⟩ := except_bind_ok.mp hfault
      simp

theorem countFaults_path {v : Value} {found : List Fault} (h : countFaults path v = .ok found) :
    ∀ f ∈ found, f.path = path := by
  obtain ⟨wrongType, hwrong, h⟩ := except_bind_ok.mp h
  have hfirst := typeFault_path hwrong
  cases hbelow : v.isBelowZero with
  | true =>
      rw [hbelow] at h
      obtain ⟨shown, -, ⟨⟩⟩ := except_bind_ok.mp h
      intro f hf
      rcases List.mem_append.mp hf with hf | hf
      · exact hfirst f hf
      · rw [List.mem_singleton.mp hf]
  | false =>
      rw [hbelow] at h
      cases h
      exact hfirst

theorem extraFaults_path {known : List String} {found : List Fault}
    (h : extraFaults path known entries = .ok found) : ∀ f ∈ found, f.path = path := by
  rw [extraFaults] at h
  dsimp only at h
  split at h
  · cases h
    nofun
  · obtain ⟨_, -, ⟨⟩⟩ := except_bind_ok.mp h
    simp

theorem fieldFaults_below {check : List Value → Value → Except Failure (List Fault)} {found : List Fault}
    (hcheck : ∀ path v found, check path v = .ok found → AllBelow path found)
    (h : fieldFaults path name entries check = .ok found) : AllBelow (path ++ [.text name]) found := by
  rw [fieldFaults] at h
  cases hv : Value.field? name entries with
  | none =>
      rw [hv] at h
      cases h
      nofun
  | some v =>
      rw [hv] at h
      exact hcheck _ v found h

theorem allBelow_of_path {found : List Fault} (h : ∀ f ∈ found, f.path = path) : AllBelow path found := by
  intro f hf
  exact ⟨[], by rw [h f hf, List.map_nil, List.append_nil]⟩

theorem AllBelow.field {found : List Fault} (h : AllBelow (path ++ [.text name]) found) :
    AllBelow path found := by
  intro f hf
  obtain ⟨names, hnames⟩ := h f hf
  exact ⟨name :: names, by rw [hnames, List.map_cons, List.append_assoc, List.singleton_append]⟩

theorem AllBelow.append {found others : List Fault} (h : AllBelow path found)
    (hothers : AllBelow path others) : AllBelow path (found ++ others) := by
  intro f hf
  exact (List.mem_append.mp hf).elim (h f) (hothers f)

theorem notOfType_path {type : String} {v : Value} {fault : Fault}
    (h : notOfType path type v = .ok fault) : fault.path = path := by
  obtain ⟨_, -, ⟨⟩⟩ := except_bind_ok.mp h
  rfl

theorem settingsFaults_below {v : Value} {found : List Fault} (h : settingsFaults path v = .ok found) :
    AllBelow path found := by
  by_cases hmap : ∃ es, v = .map es
  · obtain ⟨es, rfl⟩ := hmap
    obtain ⟨find, hfind, h⟩ := except_bind_ok.mp h
    obtain ⟨optional, hoptional, h⟩ := except_bind_ok.mp h
    obtain ⟨directory, hdirectory, h⟩ := except_bind_ok.mp h
    obtain ⟨strict, hstrict, h⟩ := except_bind_ok.mp h
    obtain ⟨extra, hextra, ⟨⟩⟩ := except_bind_ok.mp h
    have hcount := fun path v found (h : countFaults path v = .ok found) =>
      allBelow_of_path (countFaults_path h)
    exact (fieldFaults_below hcount hfind).field
      |>.append (fieldFaults_below hcount hoptional).field
      |>.append (fieldFaults_below (fun _ _ _ h => allBelow_of_path (typeFault_path h)) hdirectory).field
      |>.append (fieldFaults_below (fun _ _ _ h => allBelow_of_path (typeFault_path h)) hstrict).field
      |>.append (allBelow_of_path (extraFaults_path hextra))
  · rw [settingsFaults_of_ne_map fun es h => hmap ⟨es, h⟩] at h
    obtain ⟨fault, hfault, rfl⟩ := except_map_ok.mp h
    refine allBelow_of_path fun f hf => ?_
    rw [List.mem_singleton.mp hf, notOfType_path hfault]

theorem selectorFaults_paths {v : Value} {found : List Fault} (h : selectorFaults path v = .ok found) :
    found.map (·.path) = if fitsSelector v then [] else [path] := by
  obtain ⟨shown, -, h⟩ := except_bind_ok.mp h
  cases hitself : returnsToItself v with
  | true =>
      rw [hitself] at h
      cases h
  | false =>
      rw [hitself] at h
      cases hfits : fitsSelector v with
      | true =>
          rw [hfits] at h
          cases h
          rfl
      | false =>
          rw [hfits] at h
          cases h
          rfl

/-- The faults of selectors are at the selectors that are wrong. -/
theorem selectorsFaults_paths {es : List (Value × Value)} {found : List Fault}
    (h : selectorsFaults path (.map es) = .ok found) :
    found.map (·.path) = (es.filter fun e => !fitsSelector e.2).map fun e => path ++ [e.1] := by
  obtain ⟨parts, hparts, ⟨⟩⟩ := except_bind_ok.mp h
  clear h
  induction es generalizing parts with
  | nil =>
      cases hparts
      rfl
  | cons e es ih =>
      rw [List.mapM_cons] at hparts
      obtain ⟨first, hfirst, hparts⟩ := except_bind_ok.mp hparts
      obtain ⟨rest, hrest, ⟨⟩⟩ := except_bind_ok.mp hparts
      rw [List.flatten_cons, List.map_append, ih rest hrest, selectorFaults_paths hfirst]
      cases hfits : fitsSelector e.2 <;> simp [hfits]

/-! ## The order of the faults -/

/-- The selectors of an object map that do not have the form of selectors. -/
def wrongSelectors (entries : List (Value × Value)) : List (Value × Value) :=
  (ObjectMap.block "selectors" entries).filter fun e => !fitsSelector e.2

/-- The faults of an object map are at its settings, at its wrong selectors, and at the whole. -/
theorem faults_paths {found : List Fault} (h : faults entries = .ok found) :
    ∃ settings selectors whole, found = settings ++ selectors ++ whole ∧
      AllBelow [.text "app"] settings ∧
      (selectors.map (·.path) = (wrongSelectors entries).map (fun e => [.text "selectors", e.1]) ∨
        wrongSelectors entries = [] ∧ ∀ f ∈ selectors, f.path = [.text "selectors"]) ∧
      ∀ f ∈ whole, f.path = [] := by
  obtain ⟨settings, hsettings, h⟩ := except_bind_ok.mp h
  obtain ⟨selectors, hselectors, h⟩ := except_bind_ok.mp h
  obtain ⟨extra, hextra, ⟨⟩⟩ := except_bind_ok.mp h
  refine ⟨settings, selectors, _, List.append_assoc .., ?_, ?_, ?_⟩
  · exact fieldFaults_below (fun _ _ _ => settingsFaults_below) hsettings
  · rw [wrongSelectors, ObjectMap.block]
    rw [fieldFaults] at hselectors
    cases hv : Value.field? "selectors" entries with
    | none =>
        rw [hv] at hselectors
        cases hselectors
        exact Or.inl rfl
    | some v =>
        rw [hv] at hselectors
        by_cases hmap : ∃ es, v = .map es
        · obtain ⟨es, rfl⟩ := hmap
          exact Or.inl (selectorsFaults_paths hselectors)
        · have hne : ∀ es, v ≠ .map es := fun es h => hmap ⟨es, h⟩
          right
          dsimp only at hselectors
          rw [selectorsFaults_of_ne_map hne] at hselectors
          obtain ⟨fault, hfault, rfl⟩ := except_map_ok.mp hselectors
          refine ⟨?_, fun f hf => ?_⟩
          · split
            · next es hes => exact absurd (Option.some.inj hes) (hne es)
            · rfl
          · rw [List.mem_singleton.mp hf, notOfType_path hfault]
            rfl
  · intro f hf
    rcases List.mem_append.mp hf with hf | hf
    · split at hf
      · cases hf
      · rw [List.mem_singleton.mp hf]
    · exact extraFaults_path hextra f hf

end Schema

end ElementFinder
