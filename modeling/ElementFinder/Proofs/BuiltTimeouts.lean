import ElementFinder.Proofs.FieldSources
import ElementFinder.Proofs.GivenTimeouts

/-!
# Layers of timeouts

A configuration is built in layers: usual timeouts, the changes of a preset, the overrides of the caller, and the
defaults of an object map, which count on the usual preset alone. For each kind of operation the last layer that gives
something settles the timeout, whatever the layers give for other kinds.
-/

namespace ElementFinder

open Run Selector

/-- The value is a number within the range of doubles. -/
def Value.FitsDouble (v : Value) : Prop := v.numeric?.isSome ∧ ∃ x, v.toDouble = .ok x

namespace Timeouts

variable {t u : Timeouts} {f : TimeoutField} {entries defaults : List (Value × Value)} {name : Option String}

theorem ext_get (h : ∀ f, t.get f = u.get f) : t = u := by
  cases t
  cases u
  exact (mk.injEq ..).mpr ⟨h .findElement, h .findOptionalElement, h .findQuick, h .elementGone, h .httpRequest⟩

/-! ## What each layer gives -/

/-- What a preset changes in the usual timeouts. -/
def presetChanges (name : Option String) : List (TimeoutField × Float) :=
  ((presets.find? (·.1 == presetKey name)).map (·.2)).getD []

/-- What a preset gives for a kind. -/
def presetLayer (name : Option String) (f : TimeoutField) : Option Value :=
  ((presetChanges name).lookup f).map .float

/-- What overrides give for a kind. -/
def overrideLayer (entries : List (Value × Value)) (f : TimeoutField) : Option Value :=
  (Value.field? f.name entries).bind givenBy?

/-- The name of the milliseconds that an object map has for a kind. -/
def appKey? : TimeoutField → Option String
  | .findElement => some "find_timeout_ms"
  | .findOptionalElement => some "optional_find_timeout_ms"
  | _ => none

/-- The seconds of the milliseconds with a name, unless they are zero. -/
def appSeconds? (key : String) (defaults : List (Value × Value)) : Option Float :=
  ((Value.field? key defaults).filter Value.truthy).bind fun v => v.toDouble.toOption.map (· / 1000.0)

/-- What an object map gives for a kind. -/
def appLayer (defaults : List (Value × Value)) (f : TimeoutField) : Option Value :=
  ((appKey? f).bind fun key => appSeconds? key defaults).map .float

/-- The timeout of a kind: that of the last layer that gives one. -/
def layered (name : Option String) (entries defaults : List (Value × Value)) (f : TimeoutField) : Value :=
  let app := if name = some usualPreset then appLayer defaults f else none
  (app.or ((overrideLayer entries f).or (presetLayer name f))).getD (.float f.usual)

/-! ## Presets -/

/-- There is a preset with this name. -/
def KnownPreset (name : Option String) : Prop := presetKey name ∈ presets.map (·.1)

instance : Decidable (KnownPreset name) := inferInstanceAs (Decidable (_ ∈ _))

theorem get_foldl_set {changes : List (TimeoutField × Float)} (h : (changes.map (·.1)).Nodup) (t : Timeouts) :
    (changes.foldl (fun t c => t.set c.1 (.float c.2)) t).get f =
      ((changes.lookup f).map Value.float).getD (t.get f) := by
  induction changes generalizing t with
  | nil => rfl
  | cons c changes ih =>
      obtain ⟨hc, hchanges⟩ := List.nodup_cons.mp h
      rw [List.foldl_cons, ih hchanges, get_set, List.lookup_cons]
      by_cases hf : f = c.1
      · -- No later change is for the same kind.
        subst hf
        have hnone : changes.lookup c.1 = none := by
          rw [List.lookup_eq_none_iff]
          intro d hd
          rw [bne_iff_ne]
          intro hsame
          exact hc (List.mem_map.mpr ⟨d, hd, hsame.symm⟩)
        simp [hnone]
      · rw [if_neg hf, beq_false_of_ne hf]

theorem ofPreset_get (h : KnownPreset name) :
    ∃ t, ofPreset name = .ok t ∧ ∀ f, t.get f = (presetLayer name f).getD (.float f.usual) := by
  obtain ⟨p, hp, hkey⟩ := List.mem_map.mp h
  cases hfind : presets.find? (·.1 == presetKey name) with
  | none => exact absurd (beq_iff_eq.mpr hkey) (List.find?_eq_none.mp hfind p hp)
  | some q =>
      have hapart : ∀ p ∈ presets, (p.2.map (·.1)).Nodup := by decide
      refine ⟨_, by rw [ofPreset, hfind], fun f => ?_⟩
      rw [get_foldl_set (hapart q (List.mem_of_find?_eq_some hfind)), presetLayer, presetChanges, hfind]
      cases f <;> rfl

/-! ## Overrides -/

/-- What can override a timeout: a number within the range of doubles, a setting, or a mapping. -/
inductive CanOverride : Value → Prop
  | number {v : Value} : v.FitsDouble → CanOverride v
  | setting (t : Value) : CanOverride (.setting t)
  | mapping (entries : List (Value × Value)) : CanOverride (.map entries)

/-- Overrides of kinds that there are, at most one for each. -/
structure AreOverrides (entries : List (Value × Value)) : Prop where
  key : ∀ e ∈ entries, ∃ f : TimeoutField, e.1 = .text f.name
  value : ∀ e ∈ entries, CanOverride e.2
  apart : NamesApart entries

theorem keyField?_name (f : TimeoutField) : keyField? (.text f.name) = some f := by
  cases f <;> decide

theorem fieldOfKey_name (f : TimeoutField) : fieldOfKey (.text f.name) = .ok f := by
  cases f <;> rfl

theorem name_injective : Function.Injective TimeoutField.name := by
  intro f g h
  have hkey := keyField?_name f
  rw [h, keyField?_name] at hkey
  exact (Option.some_inj.mp hkey).symm

theorem exists_overridden {v : Value} (h : CanOverride v) (f : TimeoutField) (old : Value) :
    ∃ w, overridden f old v = .ok w := by
  cases h with
  | setting t => exact ⟨t, rfl⟩
  | mapping entries =>
      rw [overridden]
      split <;> exact ⟨_, rfl⟩
  | number hv =>
      obtain ⟨hnumber, x, hx⟩ := hv
      refine ⟨.float x, ?_⟩
      have hgiven : v.toDouble.map Value.float = .ok (.float x) := by
        rw [hx]
        rfl
      rw [← hgiven]
      cases v with
      | bool b => rfl
      | int n => rfl
      | float y => rfl
      | _ => cases hnumber

theorem exists_override (hkey : ∀ e ∈ entries, ∃ f : TimeoutField, e.1 = .text f.name)
    (hvalue : ∀ e ∈ entries, CanOverride e.2) (t : Timeouts) : ∃ u, t.override entries = (u, none) := by
  induction entries generalizing t with
  | nil => exact ⟨t, rfl⟩
  | cons e entries ih =>
      obtain ⟨⟨f, hf⟩, hkeys⟩ := List.forall_mem_cons.mp hkey
      obtain ⟨hfirst, hvalues⟩ := List.forall_mem_cons.mp hvalue
      obtain ⟨key, v⟩ := e
      cases hf
      obtain ⟨w, hw⟩ := exists_overridden hfirst f (t.get f)
      obtain ⟨u, hu⟩ := ih hkeys hvalues (t.set f w)
      refine ⟨u, ?_⟩
      have hstep : (fieldOfKey (.text f.name) >>= fun f => (overridden f (t.get f) v).map (t.set f)) =
          .ok (t.set f w) := by
        rw [fieldOfKey_name]
        exact congrArg (Except.map (t.set f)) hw
      rw [override, hstep]
      exact hu

/-- With one override at most for each kind, the last one is the only one. -/
theorem given?_eq_overrideLayer (h : NamesApart entries)
    (hkey : ∀ e ∈ entries, ∃ f : TimeoutField, e.1 = .text f.name) : given? f entries = overrideLayer entries f := by
  induction entries with
  | nil => rfl
  | cons e entries ih =>
      obtain ⟨⟨g, hg⟩, hkeys⟩ := List.forall_mem_cons.mp hkey
      obtain ⟨hfirst, hrest⟩ := List.pairwise_cons.mp h
      obtain ⟨key, v⟩ := e
      cases hg
      rw [given?, ih hrest hkeys, keyField?_name]
      by_cases hfg : g = f
      · subst hfg
        have hnone : Value.field? g.name entries = none := by
          rw [Option.eq_none_iff_forall_ne_some]
          intro w hw
          exact hfirst _ ((NamesApart.field?_eq_some_iff hrest).mp hw) g.name rfl rfl
        have hsome : Value.field? g.name ((.text g.name, v) :: entries) = some v :=
          (NamesApart.field?_eq_some_iff h).mpr List.mem_cons_self
        rw [overrideLayer, overrideLayer, hnone, hsome]
        simp
      · have hskip : Value.field? f.name ((.text g.name, v) :: entries) = Value.field? f.name entries := by
          rw [Value.field?, Value.field?, Value.lookup, Value.lookup, List.find?_cons_of_neg]
          intro hsame
          have hkeyEq := Value.sameKey_text_iff.mp hsame
          exact hfg (name_injective (Value.text.inj hkeyEq))
        rw [if_neg fun hsome => hfg (Option.some_inj.mp hsome), Option.or_none, overrideLayer, overrideLayer, hskip]

theorem override_get_layer (h : AreOverrides entries) (t : Timeouts) :
    ∃ u, t.override entries = (u, none) ∧ ∀ f, u.get f = (overrideLayer entries f).getD (t.get f) := by
  obtain ⟨u, hu⟩ := exists_override h.key h.value t
  exact ⟨u, hu, fun f => by rw [override_get hu, given?_eq_overrideLayer h.apart h.key]⟩

theorem AreOverrides.perm {entries' : List (Value × Value)} (h : AreOverrides entries) (hperm : entries'.Perm entries) :
    AreOverrides entries' := by
  refine ⟨fun e he => h.key e (hperm.mem_iff.mp he), fun e he => h.value e (hperm.mem_iff.mp he), ?_⟩
  exact (hperm.pairwise_iff fun hapart name hname hname' => hapart name hname' hname).mpr h.apart

theorem overrideLayer_perm {entries' : List (Value × Value)} (h : AreOverrides entries)
    (hperm : entries'.Perm entries) : overrideLayer entries' = overrideLayer entries := by
  funext f
  have hfield : Value.field? f.name entries' = Value.field? f.name entries := by
    ext v
    rw [(h.perm hperm).apart.field?_eq_some_iff, h.apart.field?_eq_some_iff, hperm.mem_iff]
  rw [overrideLayer, overrideLayer, hfield]

/-! ## Defaults of an object map -/

/-- The overrides for a kind that a number of seconds comes to, if there is one. -/
def secondsEntry (f : TimeoutField) (x : Option Float) : List (Value × Value) :=
  x.toList.map fun x => (.text f.name, settingValue (.float x))

theorem appOverride_eq {key : String} (h : ∀ v, Value.field? key defaults = some v → v.FitsDouble) :
    appOverride f key defaults = .ok (secondsEntry f (appSeconds? key defaults)) := by
  rw [appOverride, appSeconds?]
  cases hv : Value.field? key defaults with
  | none => rfl
  | some v =>
      obtain ⟨-, x, hx⟩ := h v hv
      cases htrue : v.truthy with
      | false => simp [htrue, secondsEntry, pure, Except.pure]
      | true =>
          have hfilter : (some v).filter Value.truthy = some v := Option.filter_some_pos htrue
          simp only [htrue, ↓reduceIte, hx, hfilter, Option.bind_some]
          rfl

theorem given?_append (f : TimeoutField) (entries more : List (Value × Value)) :
    given? f (entries ++ more) = (given? f more).or (given? f entries) := by
  induction entries with
  | nil => rw [List.nil_append, given?, Option.or_none]
  | cons e entries ih =>
      obtain ⟨key, v⟩ := e
      rw [List.cons_append, given?, given?, ih, Option.or_assoc]

theorem given?_secondsEntry (f g : TimeoutField) (x : Option Float) :
    given? g (secondsEntry f x) = if f = g then x.map .float else none := by
  cases x with
  | none => simp [secondsEntry, given?]
  | some x =>
      have hgiven : givenBy? (settingValue (.float x)) = some (.float x) := rfl
      simp [secondsEntry, given?, keyField?_name, hgiven]

/-- The overrides that two numbers of seconds come to, for finding an element and an optional one. -/
def secondsEntries (find optional : Option Float) : List (Value × Value) :=
  secondsEntry .findElement find ++ secondsEntry .findOptionalElement optional

theorem exists_override_seconds (find optional : Option Float) (t : Timeouts) :
    ∃ u, t.override (secondsEntries find optional) = (u, none) := by
  have hentry : ∀ e ∈ secondsEntries find optional,
      ∃ f x, e = (.text (TimeoutField.name f), settingValue (.float x)) := by
    intro e he
    rcases List.mem_append.mp he with he | he <;> obtain ⟨x, -, rfl⟩ := List.mem_map.mp he <;> exact ⟨_, x, rfl⟩
  refine exists_override (fun e he => ?_) (fun e he => ?_) t <;> obtain ⟨f, x, rfl⟩ := hentry e he
  · exact ⟨f, rfl⟩
  · exact .mapping _

/-- The overrides that the numbers of an object map come to. -/
def appEntries (defaults : List (Value × Value)) : List (Value × Value) :=
  secondsEntries (appSeconds? "find_timeout_ms" defaults) (appSeconds? "optional_find_timeout_ms" defaults)

theorem appOverrides_eq (h : ∀ e ∈ defaults, e.2.FitsDouble) :
    appOverrides (.map defaults) = .ok (appEntries defaults) := by
  have hfield : ∀ key v, Value.field? key defaults = some v → v.FitsDouble := by
    intro key v hv
    obtain ⟨e, hfind, rfl⟩ := Option.map_eq_some_iff.mp hv
    exact h e (List.mem_of_find?_eq_some hfind)
  rw [appOverrides, optionalEntries]
  show (appOverride .findElement "find_timeout_ms" defaults >>= fun find =>
    appOverride .findOptionalElement "optional_find_timeout_ms" defaults >>= fun optional => .ok (find ++ optional)) = _
  rw [appOverride_eq (hfield _), appOverride_eq (hfield _)]
  rfl

theorem given?_appEntries : given? f (appEntries defaults) = appLayer defaults f := by
  rw [appEntries, secondsEntries, given?_append, given?_secondsEntry, given?_secondsEntry, appLayer]
  cases f <;> simp [appKey?]

/-! ## Building -/

variable {overrides : List (Value × Value)}

/-- What is built has the timeouts of its layers. -/
theorem built_layered (hname : KnownPreset name) (hoverrides : AreOverrides overrides)
    (hdefaults : ∀ e ∈ defaults, e.2.FitsDouble) :
    ∃ t, built name (.map overrides) (.map defaults) = .ok t ∧ ∀ f, t.get f = layered name overrides defaults f := by
  obtain ⟨base, hbase, hpreset⟩ := ofPreset_get hname
  obtain ⟨changed, hchanged, hoverridden⟩ := override_get_layer hoverrides base
  have hbuilt : built name (.map overrides) (.map defaults) =
      if name = some usualPreset then appOverrides (.map defaults) >>= changed.overrideAll else .ok changed := by
    rw [built, hbase]
    show (base.overrideAll overrides >>= fun changed => _) = _
    rw [overrideAll_eq_ok.mpr hchanged]
    rfl
  by_cases husual : name = some usualPreset
  · obtain ⟨t, ht⟩ : ∃ t, changed.override (appEntries defaults) = (t, none) := exists_override_seconds ..
    refine ⟨t, ?_, fun f => ?_⟩
    · rw [hbuilt, if_pos husual, appOverrides_eq hdefaults]
      exact overrideAll_eq_ok.mpr ht
    · rw [override_get ht, given?_appEntries, hoverridden, hpreset, layered, if_pos husual, Option.getD_or,
        Option.getD_or]
  · refine ⟨changed, by rw [hbuilt, if_neg husual], fun f => ?_⟩
    rw [hoverridden, hpreset, layered, if_neg husual, Option.none_or, Option.getD_or]

end Timeouts

/-! ## Main result -/

/-- Each timeout of a configuration that is built is that of the last layer that gives one. Nothing else is changed,
and the order of the overrides makes no difference. -/
theorem built_timeouts_come_from_layers {name : Option String} {overrides defaults : List (Value × Value)}
    (hname : Timeouts.KnownPreset name) (hoverrides : Timeouts.AreOverrides overrides)
    (hdefaults : ∀ e ∈ defaults, e.2.FitsDouble) :
    (∃ t : Timeouts, (∀ s, ConfigStep.build name (.map overrides) (.map defaults) s =
        (.ok s.cells.length, (s.alloc t).2)) ∧
      ∀ f, t.get f = Timeouts.layered name overrides defaults f) ∧
    ∀ shuffled : List (Value × Value), shuffled.Perm overrides →
      ConfigStep.build name (.map shuffled) (.map defaults) =
        ConfigStep.build name (.map overrides) (.map defaults) := by
  have hbuild : ∀ {entries}, Timeouts.AreOverrides entries → ∃ t : Timeouts,
      (∀ s, ConfigStep.build name (.map entries) (.map defaults) s = (.ok s.cells.length, (s.alloc t).2)) ∧
        ∀ f, t.get f = Timeouts.layered name entries defaults f := by
    intro entries hentries
    obtain ⟨t, ht, hget⟩ := Timeouts.built_layered hname hentries hdefaults
    refine ⟨t, fun s => ?_, hget⟩
    have hyields := ConfigStep.build_yields name (.map entries) (.map defaults) s
    rwa [ht] at hyields
  refine ⟨hbuild hoverrides, fun shuffled hperm => ?_⟩
  obtain ⟨t, ht, hget⟩ := hbuild hoverrides
  obtain ⟨u, hu, hget'⟩ := hbuild (hoverrides.perm hperm)
  have hsame : u = t := by
    refine Timeouts.ext_get fun f => ?_
    rw [hget, hget', Timeouts.layered, Timeouts.layered, Timeouts.overrideLayer_perm hoverrides hperm]
  funext s
  rw [ht, hu, hsame]

/-- A number, a setting and a mapping that leaves the timeout out. -/
def mixedOverrides : List (Value × Value) :=
  [(.text "element_gone", .float 2.5), (.text "find_element", .setting (.float 5.0)),
    (.text "find_optional_element", Timeouts.settingValue .null)]

/-- The defaults of an object map with nine seconds for finding an element. -/
def nineSeconds : List (Value × Value) := [(.text "find_timeout_ms", .int 9000)]

theorem toDouble_nineSeconds : (Value.int 9000).toDouble = .ok 9000.0 := by
  rw [← toOption_eq_some_iff, Value.toDouble_int]
  decide +kernel

theorem fitsDouble_nineSeconds : ∀ e ∈ nineSeconds, e.2.FitsDouble :=
  List.forall_mem_singleton.mpr ⟨rfl, _, toDouble_nineSeconds⟩

theorem appLayer_nineSeconds : Timeouts.appLayer nineSeconds .findElement = some (.float 9.0) := by
  have hquotient : (9000.0 / 1000.0 : Float) = 9.0 := by decide +kernel
  show ((Value.int 9000).toDouble.toOption.map (· / 1000.0)).map Value.float = _
  rw [toDouble_nineSeconds, ← hquotient]
  rfl

theorem built_timeouts_come_from_layers_mixed :
    ∃ t : Timeouts, (∀ s, ConfigStep.build (some "default") (.map mixedOverrides) (.map nineSeconds) s =
        (.ok s.cells.length, (s.alloc t).2)) ∧
      t.elementGone = .float 2.5 ∧ t.findElement = .float 9.0 ∧ t.findOptionalElement = .float 7.0 := by
  have hoverrides : Timeouts.AreOverrides mixedOverrides := by
    refine ⟨?_, ?_, by simp [mixedOverrides, NamesApart]⟩
    · simp only [mixedOverrides, List.forall_mem_cons, List.not_mem_nil, false_imp_iff, implies_true, and_true]
      exact ⟨⟨.elementGone, rfl⟩, ⟨.findElement, rfl⟩, ⟨.findOptionalElement, rfl⟩⟩
    · simp only [mixedOverrides, List.forall_mem_cons, List.not_mem_nil, false_imp_iff, implies_true, and_true]
      exact ⟨.number ⟨rfl, 2.5, rfl⟩, .setting _, .mapping _⟩
  have hname : Timeouts.KnownPreset (some "default") := by decide
  obtain ⟨⟨t, hrun, hget⟩, -⟩ := built_timeouts_come_from_layers hname hoverrides fitsDouble_nineSeconds
  refine ⟨t, hrun, hget .elementGone, (hget .findElement).trans ?_, hget .findOptionalElement⟩
  rw [Timeouts.layered, if_pos (by decide), appLayer_nineSeconds]
  rfl

end ElementFinder
