import ElementFinder.Proofs.Calls
import ElementFinder.Proofs.GivenTimeouts
import ElementFinder.Proofs.TypedFailure

/-!
# Timeouts of named calls

A call for a named selector is to wait for its own milliseconds, or else for those of the finder, or else for those of
the object map, or else for the configured time, where a number that is not positive is not set. But a negative number
keeps the call from the object map, which is looked at only where zeros are before it.
-/

namespace ElementFinder

open Run

/-! ## Settings in the order of their precedence -/

/-- The milliseconds of an object map for an element that has to be there, or for an optional one. -/
def MapSettings.waitMs (s : MapSettings) (optional : Bool) : Int :=
  if optional then s.optionalFindTimeoutMs else s.findTimeoutMs

/-- The configured time for an element that has to be there, or for an optional one. -/
def Timeouts.wait (t : Timeouts) (optional : Bool) : Value :=
  t.get (if optional then .findOptionalElement else .findElement)

/-- The seconds of some milliseconds, or else of the configured time. -/
def secondsFor? (configured : Value) : Option Int → Option Float
  | some n => (doubleOfInt? n).map (· / 1000.0)
  | none => configured.toDouble.toOption

/-- The first positive one of some milliseconds. -/
def firstSet? (ms : List Int) : Option Int := ms.find? (0 < ·)

/-- The milliseconds that a named call counts, unless it takes the configured time: its own, those of the finder, and
those of the object map if zeros are before them. -/
def countedMs? (own finder map : Int) : Option Int :=
  let ms := if own ≠ 0 then own else if finder = 0 then map else 0
  if 0 < ms then some ms else if 0 < finder then some finder else none

/-- Only the milliseconds of the object map are positive, and some before them are negative. -/
def MapPassedOver (own finder map : Int) : Prop :=
  0 < map ∧ own ≤ 0 ∧ finder ≤ 0 ∧ (own < 0 ∨ finder < 0)

section

variable {own finder map : Int}

theorem countedMs?_of_passedOver (h : MapPassedOver own finder map) : countedMs? own finder map = none := by
  obtain ⟨-, hown, hfinder, hnegative⟩ := h
  have hms : ¬0 < (if own ≠ 0 then own else if finder = 0 then map else 0) := by
    split
    · omega
    · rw [if_neg (by omega)]
      omega
  rw [countedMs?, if_neg hms, if_neg (by omega)]

theorem firstSet?_of_passedOver (h : MapPassedOver own finder map) : firstSet? [own, finder, map] = some map := by
  obtain ⟨hmap, hown, hfinder, -⟩ := h
  simp [firstSet?, hmap, Int.not_lt.mpr hown, Int.not_lt.mpr hfinder]

theorem countedMs?_eq_firstSet? (h : ¬MapPassedOver own finder map) :
    countedMs? own finder map = firstSet? [own, finder, map] := by
  rw [MapPassedOver] at h
  simp only [countedMs?, firstSet?, List.find?_cons, List.find?_nil]
  grind

end

/-! ## What named calls wait for -/

namespace Finder

variable {σ : Type} {f : Finder σ} {configured : Timeouts} {m : ObjectMap} {optional : Bool} {ms : Int} {x : Float}

/-- The finder's own milliseconds for an element that has to be there, or for an optional one. -/
def ownMs (f : Finder σ) (optional : Bool) : Int :=
  if optional then f.optionalFindTimeoutMs else f.findTimeoutMs

/-- The call goes as if it were given a deadline after some seconds. -/
def WaitsFor (f : Finder σ) (configured : Timeouts) (m : ObjectMap) (optional : Bool) (ms : Int) (x : Float) : Prop :=
  ∀ rounds name bindings w, f.findNamed configured rounds m name bindings (.usual optional ms) w =
    f.findNamed configured rounds m name bindings (.untilDeadline (.after x w.now)) w

/-- Milliseconds as a timeout are the seconds that they come to. -/
theorem toDouble_ofMillis (n : Int) : ((Value.int n).secondsOfMillis.map Value.float >>= Value.toDouble).toOption =
    (doubleOfInt? n).map (· / 1000.0) := by
  have hseconds : (Value.int n).secondsOfMillis = (Value.int n).toDouble.map (· / 1000.0) := rfl
  rw [hseconds, ← Value.toDouble_int]
  cases (Value.int n).toDouble <;> rfl

theorem timeout_eq : (f.timeout configured optional ms >>= Value.toDouble).toOption =
    secondsFor? (configured.wait optional)
      (if 0 < ms then some ms else if 0 < f.ownMs optional then some (f.ownMs optional) else none) := by
  rw [timeout, ← ownMs]
  split
  · exact toDouble_ofMillis ms
  · split
    · exact toDouble_ofMillis _
    · rfl

/-- A named call counts the milliseconds of the object map only if there are no others. -/
theorem namedLimit_usual (settings : MapSettings) : f.namedLimit settings (.usual optional ms) =
    .usual optional (if ms ≠ 0 then ms else if f.ownMs optional = 0 then settings.waitMs optional else 0) := by
  rw [namedLimit]
  cases optional <;> split <;> rfl

theorem deadlineAt_named {settings : MapSettings} (h : secondsFor? (configured.wait optional)
    (countedMs? ms (f.ownMs optional) (settings.waitMs optional)) = some x) (now : Float) :
    f.deadlineAt configured now (f.namedLimit settings (.usual optional ms)) = .ok (.after x now) := by
  rw [countedMs?, ← timeout_eq] at h
  rw [namedLimit_usual, deadlineAt]
  cases hv : f.timeout configured optional _ with
  | error e =>
      rw [hv] at h
      cases h
  | ok v =>
      rw [hv] at h
      replace h : v.toDouble.toOption = some x := h
      show v.toDouble.map (Deadline.after · now) = _
      cases hx : v.toDouble with
      | error e =>
          rw [hx] at h
          cases h
      | ok y =>
          rw [hx] at h
          cases h
          rfl

/-- A call goes on from its deadline alone, however this was found. -/
theorem findNamed_untilDeadline {rounds : Nat} {name bindings : Value} {limit : Limit} {w : World σ} {d : Deadline}
    (hd : f.deadlineAt configured w.now (f.namedLimit m.settings limit) = .ok d) :
    f.findNamed configured rounds m name bindings limit w =
      f.findNamed configured rounds m name bindings (.untilDeadline d) w := by
  cases hs : m.selector name bindings with
  | ok s =>
      rw [findNamed_run hs, findNamed_run hs, hd]
      rfl
  | error e =>
      rw [findNamed, findNamed, startCall_bind, startCall_bind, Call.ofWork_bind_run (Work.ofExcept_run _),
        Call.ofWork_bind_run (Work.ofExcept_run _), hs]

theorem waitsFor_counted (h : secondsFor? (configured.wait optional)
    (countedMs? ms (f.ownMs optional) (m.settings.waitMs optional)) = some x) :
    f.WaitsFor configured m optional ms x :=
  fun _ _ _ w => findNamed_untilDeadline (deadlineAt_named h w.now)

end Finder

/-! ## What the log shows -/

/-- An object map with one selector. -/
def rowMap (settings : MapSettings) : ObjectMap := ⟨settings, [(.text "row", .text "Row")]⟩

def waitRecord (x : Float) : LogRecord :=
  ⟨.search, .debug, "Resolving 'Row' (timeout " ++ Decimal.fixed 2 (Deadline.after x 0.0).timeout ++ "s)"⟩

/-- A call begins with a record of the time that it waits for. -/
theorem log_of_waitsFor {f : Finder Unit} {configured : Timeouts} {settings : MapSettings} {optional : Bool} {ms : Int}
    {x : Float} (h : f.WaitsFor configured (rowMap settings) optional ms x) :
    (f.findNamed configured 0 (rowMap settings) (.text "row") .null (.usual optional ms)
      { client := (), wall := ⟨"", ""⟩ }).2.log = [waitRecord x] := by
  rw [h]
  rfl

theorem waitRecord_eq {f : Finder Unit} {configured : Timeouts} {settings : MapSettings} {optional : Bool} {ms : Int}
    {x y : Float} (hx : f.WaitsFor configured (rowMap settings) optional ms x)
    (hy : f.WaitsFor configured (rowMap settings) optional ms y) : waitRecord x = waitRecord y :=
  List.singleton_inj.mp ((log_of_waitsFor hx).symm.trans (log_of_waitsFor hy))

/-! ## Main result -/

/-- Named calls wait for the first positive one of their settings, or else for the configured time, exactly if the
object map is not passed over and the first positive number is not beyond all doubles. -/
theorem named_call_waits_as_set_iff {optional : Bool} {own finder map : Int} :
    (∀ (σ : Type) (f : Finder σ) (m : ObjectMap) (configured : Timeouts), f.ownMs optional = finder →
      m.settings.waitMs optional = map → configured.Copyable →
      ∃ x, secondsFor? (configured.wait optional) (firstSet? [own, finder, map]) = some x ∧
        f.WaitsFor configured m optional own x) ↔
    ¬MapPassedOver own finder map ∧ ∀ n, firstSet? [own, finder, map] = some n → (doubleOfInt? n).isSome := by
  constructor
  · intro h
    let f : Finder Unit := { client := emptyClient, findTimeoutMs := finder, optionalFindTimeoutMs := finder }
    let settings : MapSettings := { findTimeoutMs := map, optionalFindTimeoutMs := map }
    have hfinder : f.ownMs optional = finder := by cases optional <;> rfl
    have hmap : settings.waitMs optional = map := by cases optional <;> rfl
    have hall : ∀ y : Float, ∃ x, secondsFor? (.float y) (firstSet? [own, finder, map]) = some x ∧
        f.WaitsFor (.ofFields fun _ => .float y) (rowMap settings) optional own x := by
      intro y
      have hy : (Timeouts.ofFields fun _ => .float y).Copyable := fun field => ⟨y, by cases field <;> rfl⟩
      obtain ⟨x, hx, hwaits⟩ := h Unit f (rowMap settings) (.ofFields fun _ => .float y) hfinder hmap hy
      exact ⟨x, by rw [← hx]; cases optional <;> rfl, hwaits⟩
    refine ⟨fun hover => ?_, fun n hn => ?_⟩
    · -- The promised time does not hang on the configured one, but the time that the call waits for does.
      have hconfigured : ∀ y : Float, f.WaitsFor (.ofFields fun _ => .float y) (rowMap settings) optional own y := by
        intro y
        apply Finder.waitsFor_counted
        rw [hfinder, rowMap, hmap, countedMs?_of_passedOver hover]
        cases optional <;> rfl
      have hrecord : ∀ y : Float, ∃ x, (doubleOfInt? map).map (· / 1000.0) = some x ∧
          waitRecord x = waitRecord y := by
        intro y
        obtain ⟨x, hx, hwaits⟩ := hall y
        rw [firstSet?_of_passedOver hover] at hx
        exact ⟨x, hx, waitRecord_eq hwaits (hconfigured y)⟩
      obtain ⟨x, hx, hone⟩ := hrecord 1.0
      obtain ⟨x', hx', htwo⟩ := hrecord 2.0
      cases hx.symm.trans hx'
      exact absurd (hone.symm.trans htwo) (by decide)
    · obtain ⟨x, hx, -⟩ := hall 1.0
      rw [hn] at hx
      obtain ⟨z, hz, -⟩ := Option.map_eq_some_iff.mp hx
      rw [hz]
      rfl
  · rintro ⟨hover, hsize⟩ σ f m configured rfl rfl hconfigured
    have hseconds : ∃ x, secondsFor? (configured.wait optional)
        (firstSet? [own, f.ownMs optional, m.settings.waitMs optional]) = some x := by
      cases hfirst : firstSet? [own, f.ownMs optional, m.settings.waitMs optional] with
      | some n =>
          obtain ⟨z, hz⟩ := Option.isSome_iff_exists.mp (hsize n hfirst)
          exact ⟨z / 1000.0, by rw [secondsFor?, hz]; rfl⟩
      | none =>
          obtain ⟨z, hz⟩ := hconfigured (if optional then .findOptionalElement else .findElement)
          exact ⟨z, by rw [secondsFor?, Timeouts.wait, hz]; rfl⟩
    obtain ⟨x, hx⟩ := hseconds
    refine ⟨x, hx, Finder.waitsFor_counted ?_⟩
    rw [countedMs?_eq_firstSet? hover, hx]

/-- A call with less than no milliseconds of its own waits for the configured time, although the object map sets
another one and the finder none. -/
theorem negative_milliseconds_hide_map :
    let f : Finder Unit := { client := emptyClient }
    let m := rowMap { findTimeoutMs := 9000 }
    firstSet? [-1, f.ownMs false, m.settings.waitMs false] = some 9000 ∧
      secondsFor? (Timeouts.usual.wait false) (some 9000) = some 9.0 ∧
      f.WaitsFor .usual m false (-1) 17.0 ∧ ¬f.WaitsFor .usual m false (-1) 9.0 := by
  intro f m
  have hwaits : f.WaitsFor .usual m false (-1) 17.0 := Finder.waitsFor_counted rfl
  refine ⟨by decide, by decide +kernel, hwaits, fun h => ?_⟩
  exact absurd (waitRecord_eq h hwaits) (by decide)

end ElementFinder
