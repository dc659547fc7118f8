import ElementFinder.Proofs.RoundTrip
import ElementFinder.Proofs.SideBySide
import ElementFinder.Proofs.Written

/-!
# Another index

The index plays no part in queries: it is looked at only to pick one of the matching nodes of a page. So
calls for selectors that differ in their index alone ask the same, are shown the same pages, and end alike.
-/

namespace ElementFinder

open Run

variable {σ : Type} {c : Client σ} {s : Selector} {j : String}

/-! ## Selectors -/

namespace Selector

/-- The selector with another index. -/
def indexed (s : Selector) (index : String) : Selector := { s with index := some index }

@[simp] theorem criteria_indexed : (s.indexed j).criteria = s.criteria := rfl

@[simp] theorem hasRelative_indexed : (s.indexed j).hasRelative = s.hasRelative := rfl

@[simp] theorem index_indexed : (s.indexed j).index = some j := rfl

/-- An index can always be written. -/
theorem holdsTooLong_indexed : (s.indexed j).toValue.HoldsTooLong ↔ s.toValue.HoldsTooLong := by
  obtain ⟨c, index, ⟨b1, b2, b3, b4, b5, b6, b7⟩, ds⟩ := s
  have hindex : ∀ index : Option String, ¬∃ e ∈ entryOf "index" index .text,
      e.1.HoldsTooLong ∨ e.2.HoldsTooLong := by
    rintro (_ | t) ⟨e, he, h⟩
    · cases he
    · cases List.mem_singleton.mp he
      exact h.elim (Value.HoldsTooLong.not_text _) (Value.HoldsTooLong.not_text _)
  rw [indexed, toValue_eq, toValue_eq, Value.HoldsTooLong.map_iff, Value.HoldsTooLong.map_iff]
  simp only [List.mem_append, or_and_right, exists_or, hindex]

/-- Whether the selector can be described does not hang on its index. -/
theorem describe_indexed {E : Failure → Failure → Prop} (hE : ∀ f, E f f) :
    Alike (fun _ _ => True) E s.describe (s.indexed j).describe := by
  rw [describe, describe, criteria_indexed]
  split
  · have hnumeral : ∀ e, e = NumeralFault.tooLongToWrite → Failure.numeral e = .numeral .tooLongToWrite := by
      rintro _ rfl
      rfl
    have hs : FailsWhen (· = .numeral .tooLongToWrite) s.toValue.HoldsTooLong s.toValue.writeOrFail :=
      s.toValue.write_writtenUnless.mapError hnumeral
    have hj : FailsWhen (· = .numeral .tooLongToWrite) s.toValue.HoldsTooLong
        (s.indexed j).toValue.writeOrFail :=
      ((s.indexed j).toValue.write_writtenUnless.congr holdsTooLong_indexed).mapError hnumeral
    refine hs.alike hj ?_
    rintro _ _ rfl rfl
    exact hE _
  · exact .ok trivial

/-- On a page an index picks a node if any other index does. -/
theorem pickIn_indexed {E : Failure → Failure → Prop} (hE : ∀ f, E f f) (page : Snapshot) :
    Alike (fun m n => m.isSome = n.isSome) E (s.pickIn page) ((s.indexed j).pickIn page) := by
  rw [pickIn_eq, pickIn_eq, criteria_indexed]
  cases s.criteria.filterNodes page.nodes with
  | error f => exact .error (hE f)
  | ok found =>
      show Alike _ E (s.chooseCandidate found) ((s.indexed j).chooseCandidate found)
      obtain ⟨rfl, hs⟩ | ⟨m, hm, hs⟩ := s.chooseCandidate_eq found <;>
        obtain ⟨hnone, hj⟩ | ⟨n, hn, hj⟩ := (s.indexed j).chooseCandidate_eq _ <;> rw [hs, hj]
      · exact .ok rfl
      · cases hn
      · rw [hnone] at hm
        cases hm
      · exact .ok rfl

end Selector

/-! ## States -/

/-- Two states show a search the same: the same exchange, the same last page, and times are reported in
both or in neither. -/
structure World.LookAlike (s t : World σ) : Prop where
  exchange : s.exchange = t.exchange
  enabled : s.timing.enabled = t.timing.enabled
  page : s.notes.page = t.notes.page

/-- Two failures are of one kind, as far as a search distinguishes them. -/
structure Failure.SameKind (f g : Failure) : Prop where
  isQuery : f.isQuery = g.isQuery
  isOwn : f.isOwn = g.isOwn
  isDeadline : f.IsDeadline ↔ g.IsDeadline

theorem Failure.SameKind.refl (f : Failure) : SameKind f f := ⟨rfl, rfl, Iff.rfl⟩

namespace World.LookAlike

theorem trans {s t u : World σ} (h : s.LookAlike t) (h' : t.LookAlike u) : s.LookAlike u :=
  ⟨h.exchange.trans h'.exchange, h.enabled.trans h'.enabled, h.page.trans h'.page⟩

theorem reporting (s : World σ) (e : TimingEvent) : (s.reporting e).LookAlike s := by
  refine ⟨s.exchange_reporting e, ?_, by rw [s.notes_reporting e]⟩
  rw [World.reporting, Work.emit_run]
  split <;> rfl

/-- Reports of different events make no difference if both can be written or neither can. -/
theorem emit {e e' : TimingEvent} (h : ∀ time time',
      (e.line time).map (fun _ => ()) = (e'.line time').map fun _ => ()) {s t : World σ}
    (hst : s.LookAlike t) :
    (Work.emit e s).1 = (Work.emit e' t).1 ∧ (s.reporting e).LookAlike (t.reporting e') := by
  refine ⟨?_, ((reporting s e).trans hst).trans ?_⟩
  · rw [Work.emit_fst, Work.emit_fst, ← hst.enabled, h]
  · obtain ⟨hexchange, henabled, hpage⟩ := reporting t e'
    exact ⟨hexchange.symm, henabled.symm, hpage.symm⟩

theorem keptByReports (limit : Nat) :
    KeptByReports (LookAlike : World σ → World σ → Prop) Failure.SameKind limit where
  exchange _ _ h := h.exchange
  forget _ _ h := ⟨h.exchange, h.enabled, h.page⟩
  record _ _ _ _ _ h := ⟨.ok trivial, h.exchange, h.enabled, h.page⟩
  emit _ _ _ _ he he' s t h := by
    obtain ⟨hsame, hafter⟩ := emit (fun time time' => (he time).trans (he' time').symm) h
    exact ⟨.of_eq (fun _ => trivial) .refl hsame, hafter⟩

end World.LookAlike

/-! ## Attempts -/

namespace Attempt

open Work World

theorem parts_lookAlike (c : Client σ) : Parts c LookAlike fun _ => True where
  exchange _ _ h := h.exchange
  send r s t h := by
    obtain ⟨hsame, hsent⟩ := send_congr c r h.exchange
    exact ⟨hsame, ⟨hsent, h.enabled, h.page⟩, fun _ _ => trivial⟩
  record _ _ _ _ h := ⟨rfl, ⟨h.exchange, h.enabled, h.page⟩, fun _ _ => trivial⟩
  note _ _ _ h := ⟨rfl, ⟨h.exchange, h.enabled, h.page⟩, fun _ _ => trivial⟩
  shown _ _ _ h := ⟨rfl, ⟨h.exchange, h.enabled, rfl⟩, fun _ _ => trivial⟩

theorem steps_lookAlike (c : Client σ) : Steps c LookAlike fun _ => True := by
  refine (parts_lookAlike c).steps fun q started missed s t h => ?_
  have hemit : ∀ e, Respects LookAlike (fun _ => True) (Work.emit e : Work σ Unit) := by
    intro e s t h
    obtain ⟨hsame, hafter⟩ := h.emit (e := e) fun time time' => by rw [e.line_map, e.line_map]
    exact ⟨hsame, hafter, fun _ _ => trivial⟩
  rw [reportTime_run, reportTime_run, ← h.enabled]
  split
  · exact ((parts_lookAlike c).now.bind fun _ => (ofExcept_respects fun _ _ => trivial).bind hemit) s t h
  · exact ⟨rfl, h, fun _ _ => trivial⟩

/-- Two elements have the same handle, or both have none; those with a handle are the same. -/
structure SameHandle (e e' : Element) : Prop where
  handle : e'.handle = e.handle
  same : e.handle ≠ none → e'.same e = true

variable {limit : Option Deadline}

/-- Work that respects the relation goes side by side with itself. -/
theorem pairs_lookAlike {α : Type} {x : Work σ α} (hx : Respects LookAlike (fun _ => True) x) :
    Pairs LookAlike Eq Failure.SameKind x x := hx.pairs fun f _ => .refl f

theorem noneFound_indexed : Pairs LookAlike SameHandle Failure.SameKind
    (byQueries.noneFound s : Work σ Element) (byQueries.noneFound (s.indexed j)) :=
  (ofExcept_pairs (Selector.describe_indexed .refl)).bind fun _ _ _ => .throw ⟨rfl, rfl, Iff.rfl⟩

theorem ofHandle_indexed (q : Query) (handle : String) :
    Pairs LookAlike SameHandle Failure.SameKind (ofHandle c s q handle)
      (ofHandle c (s.indexed j) q handle) := by
  have hproperty : ∀ (r : Request) (usual : r.Answer) (word : String),
      Pairs LookAlike Eq Failure.SameKind (property c r usual word handle)
        (property c r usual word handle) :=
    fun r usual word => pairs_lookAlike ((steps_lookAlike c).property r usual word handle)
  rw [ofHandle, ofHandle]
  refine (hproperty (.text handle) "" "text").bind ?_
  rintro text _ rfl
  refine (hproperty (.rect handle) {} "rect").bind ?_
  rintro bounds _ rfl
  refine (hproperty (.displayed handle) false "visibility").bind ?_
  rintro visible _ rfl
  refine (ofExcept_pairs (Selector.describe_indexed .refl)).bind fun description description' _ => ?_
  exact .pure ⟨rfl, fun _ => decide_eq_true rfl⟩

theorem byQueries_indexed (queries : List Query) :
    Pairs LookAlike SameHandle Failure.SameKind (byQueries c s limit queries)
      (byQueries c (s.indexed j) limit queries) := by
  have h := steps_lookAlike c
  induction queries with
  | nil => exact noneFound_indexed
  | cons q rest ih =>
      rw [byQueries, byQueries]
      refine (pairs_lookAlike (h.expired limit)).bind ?_
      rintro past _ rfl
      split
      · exact noneFound_indexed
      · refine (pairs_lookAlike (h.tryQuery q)).bind ?_
        rintro found _ rfl
        cases found with
        | none => exact ih
        | some handle =>
            exact (pairs_lookAlike (h.record _ _)).bind fun _ _ _ => ofHandle_indexed q handle

theorem byPage_indexed : Pairs LookAlike SameHandle Failure.SameKind (byPage c s)
    (byPage c (s.indexed j)) := by
  have h := steps_lookAlike c
  have hnote : ∀ a a', Pairs LookAlike (fun _ _ => True) Failure.SameKind (Work.note a : Work σ Unit)
      (Work.note a') := fun _ _ _ _ hst => ⟨.ok trivial, hst.exchange, hst.enabled, hst.page⟩
  refine (ofExcept_pairs (Selector.describe_indexed .refl)).bind fun description description' _ => ?_
  refine (pairs_lookAlike (h.loadPage (admits_all s))).bind ?_
  rintro page _ rfl
  refine (ofExcept_pairs (Selector.pickIn_indexed .refl page)).bind fun m n hmn => ?_
  cases m <;> cases n <;> cases hmn
  · exact (hnote _ _).bind fun _ _ _ => .throw ⟨rfl, rfl, Iff.rfl⟩
  · exact (hnote _ _).bind fun _ _ _ => .pure ⟨rfl, fun h => absurd rfl h⟩

theorem queriesOr_indexed (queries : List Query) {next next' : Work σ Element}
    (hnext : Pairs LookAlike SameHandle Failure.SameKind next next') :
    Pairs LookAlike SameHandle Failure.SameKind (queriesOr c s limit queries next)
      (queriesOr c (s.indexed j) limit queries next') := by
  refine attempt_bind_pairs (byQueries_indexed queries) (fun _ _ he => .pure he) fun f g hfg => ?_
  refine (pairs_lookAlike ((steps_lookAlike c).expired limit)).bind ?_
  rintro past _ rfl
  rw [hfg.isQuery]
  split
  · exact hnext
  · exact .throw hfg

/-- Ordinary attempts for a selector without surroundings go side by side, whatever its index. -/
theorem standard_indexed (hs : s.hasRelative = false) :
    Pairs LookAlike SameHandle Failure.SameKind (standard c s limit)
      (standard c (s.indexed j) limit) := by
  rw [standard, standard, Selector.hasRelative_indexed, Selector.criteria_indexed, hs]
  simp only [Bool.false_eq_true, ↓reduceIte]
  split
  · exact byPage_indexed
  · exact queriesOr_indexed _ byPage_indexed

/-- So do attempts before a tap. -/
theorem tap_indexed : Pairs LookAlike SameHandle Failure.SameKind (tap c s limit)
    (tap c (s.indexed j) limit) := by
  have hqueries : Respects LookAlike (fun _ => True) (exactOrContains c s) := by
    have h := (steps_lookAlike c).exactOrContains_bind (s := s) (k := Pure.pure) (fun _ => .pure _)
      fun _ _ => .pure _
    rwa [bind_pure] at h
  refine queriesOr_indexed _ ((pairs_lookAlike hqueries).bind ?_)
  rintro queried _ rfl
  refine attempt_bind_pairs byPage_indexed (fun _ _ he => .pure he) fun f g hfg => ?_
  dsimp only
  rw [hfg.isOwn]
  split
  · exact .throw hfg
  · cases queried with
    | error missed => exact .throw (.refl missed)
    | ok found =>
        have hrecord := (World.LookAlike.keptByReports (σ := σ) 0).record
        exact (hrecord _ _ _).bind fun _ _ _ => ofHandle_indexed found.1 found.2

end Attempt

/-! ## Calls -/

namespace Finder

open World Attempt

variable {f : Finder σ} {configured : Timeouts} {rounds : Nat} {d : Deadline}

theorem search_indexed {attempt attempt' : Work σ Element} (directory label : Option String)
    (hattempt : Pairs LookAlike SameHandle Failure.SameKind attempt attempt') :
    Pairs LookAlike SameHandle (StopAlike fun _ _ => True)
      (search rounds s d attempt (.keep directory label))
      (search rounds (s.indexed j) d attempt' (.keep directory label)) := by
  have hkind : KeepsKind (fun _ _ => True) Failure.SameKind :=
    ⟨fun _ _ h => h.isOwn, fun _ _ h => h.isDeadline, fun _ _ _ _ _ _ _ _ _ => ⟨rfl, rfl, Iff.rfl⟩⟩
  refine search_pairs (LookAlike.keptByReports rounds) hkind (Nat.le_refl _) (fun _ _ _ => trivial)
    (fun _ _ h => h) (fun _ _ _ _ _ h => ⟨.ok trivial, h.exchange, h.enabled, h.page⟩)
    (Selector.describe_indexed .refl) hattempt ?_
  exact fun _ _ _ _ _ _ _ _ _ u v h => ⟨.ok trivial, h.exchange, h.enabled, h.page⟩

/-- The ways to ask for the element of a selector. -/
inductive Seeking where
  | find (limit : Limit)
  | findForTap (limit : Limit)
  | findOnce

/-- Asks for the element of a selector. -/
def Seeking.run (f : Finder σ) (configured : Timeouts) (rounds : Nat) (s : Selector) :
    Seeking → Call σ Element
  | .find limit => f.find configured rounds s limit
  | .findForTap limit => f.findForTap configured rounds s limit
  | .findOnce => Call.ofWork (f.findOnce s)

theorem tapAttempt_indexed (hs : s.hasRelative = false) :
    Pairs LookAlike SameHandle Failure.SameKind (f.tapAttempt s d) (f.tapAttempt (s.indexed j) d) := by
  rw [tapAttempt, tapAttempt, Selector.hasRelative_indexed, hs]
  simp only [Bool.false_eq_true, ↓reduceIte]
  show Pairs _ _ _ (if isTapText s then _ else _) (if isTapText s then _ else _)
  split
  · exact tap_indexed
  · exact standard_indexed hs

/-- With another index a call asks the same, and returns an element exactly if it did before, with the
same handle. -/
theorem Seeking.run_indexed (seeking : Seeking) (f : Finder σ) (configured : Timeouts) (rounds : Nat)
    (hs : s.hasRelative = false) (j : String) :
    Pairs LookAlike SameHandle (StopAlike fun _ _ => True) (seeking.run f configured rounds s)
      (seeking.run f configured rounds (s.indexed j)) := by
  have hbegun : ∀ w w' : World σ, w.LookAlike w' → w.begun.LookAlike w'.begun := fun w w' h =>
    ⟨congrArg Exchange.begun h.exchange, h.enabled, rfl⟩
  have hnow : ∀ w w' : World σ, w.LookAlike w' → w.now = w'.now := fun w w' h =>
    congrArg Exchange.now h.exchange
  cases seeking with
  | find limit =>
      intro w w' h
      rw [run, run, find_run, find_run, ← hnow w w' h]
      cases f.deadlineAt configured w.now limit with
      | ok d => exact search_indexed _ _ (standard_indexed hs) _ _ (hbegun w w' h)
      | error e => exact ⟨.error (.failed trivial), hbegun w w' h⟩
  | findForTap limit =>
      intro w w' h
      rw [run, run, findForTap_run, findForTap_run, ← hnow w w' h]
      cases f.deadlineAt configured w.now limit with
      | ok d => exact search_indexed _ _ (tapAttempt_indexed hs) _ _ (hbegun w w' h)
      | error e => exact ⟨.error (.failed trivial), hbegun w w' h⟩
  | findOnce =>
      have honce : Pairs LookAlike SameHandle Failure.SameKind (f.findOnce s)
          (f.findOnce (s.indexed j)) :=
        fun w w' h => standard_indexed hs _ _ (hbegun w w' h)
      exact (Call.ofWork_pairs honce).mono fun _ _ h => h.mono fun _ _ _ => trivial

end Finder

end ElementFinder
