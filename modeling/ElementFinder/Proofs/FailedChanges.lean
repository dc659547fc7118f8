import ElementFinder.Proofs.Keeping

/-!
# Failed changes of configurations

A change that fails leaves everything as it was, at whichever entry it fails: only a new configuration was
worked on, which nothing else knows. This rests on the numbers in a store being those of configurations
that it has, which holds of every store that a program can come to.
-/

namespace ElementFinder

open Run

namespace ConfigStore

variable {s u : ConfigStore}

/-- The numbers in a store are those of configurations that it has. -/
structure Sound (s : ConfigStore) : Prop where
  default? : ∀ id ∈ s.default?, id < s.cells.length
  run? : ∀ id ∈ s.run?, id < s.cells.length
  override? : ∀ id ∈ s.override?, id < s.cells.length
  entered : ∀ before ∈ s.entered, ∀ id ∈ before, id < s.cells.length

/-- The stores that a program can come to. Timeouts may be set by hand in any configuration. -/
inductive Reachable : ConfigStore → Prop
  | start : Reachable {}
  | call {s u : ConfigStore} {c : ConfigCall} {r : Except Failure Unit} :
      Reachable s → c.run s = (r, u) → Reachable u
  | enter {s u : ConfigStore} {values : Value} {r : Except Failure ConfigId} :
      Reachable s → ConfigStep.enter values s = (r, u) → Reachable u
  | leave {s u : ConfigStore} {r : Except Failure Unit} :
      Reachable s → ConfigStep.leave s = (r, u) → Reachable u
  | default {s : ConfigStore} : Reachable s → Reachable s.default.2
  | reset {s : ConfigStore} : Reachable s → Reachable s.reset
  | forgetDefault {s : ConfigStore} : Reachable s → Reachable s.forgetDefault
  | setField {s : ConfigStore} (id : ConfigId) (f : TimeoutField) (v : Value) :
      Reachable s → Reachable (s.update id ((s.cell id).set f v))

namespace Sound

theorem keeps (hs : s.Sound) (h : s.Keeps u)
    (hrun : u.run? = s.run? ∨ ∀ id ∈ u.run?, id < u.cells.length) : u.Sound := by
  have hlength : ∀ {id}, id < s.cells.length → id < u.cells.length := fun hid =>
    Nat.lt_of_lt_of_le hid h.cells.length_le
  refine ⟨?_, ?_, ?_, ?_⟩
  · rcases h.default? with hsame | ⟨-, made, hmade, husual⟩
    · rw [hsame]
      exact fun id hid => hlength (hs.default? id hid)
    · rw [hmade]
      rintro id ⟨⟩
      exact (List.getElem?_eq_some_iff.mp husual).1
  · rcases hrun with hsame | hknown
    · rw [hsame]
      exact fun id hid => hlength (hs.run? id hid)
    · exact hknown
  · rw [h.override?]
    exact fun id hid => hlength (hs.override? id hid)
  · rw [h.entered]
    exact fun before hbefore id hid => hlength (hs.entered before hbefore id hid)

theorem made (hs : s.Sound) (t : Timeouts) : (s.current.2.alloc t).2.Sound :=
  hs.keeps ((Keeps.current s).trans (.alloc _ t)) (Or.inl s.run?_current)

theorem enter {values : Value} {r : Except Failure ConfigId} (hs : s.Sound)
    (h : ConfigStep.enter values s = (r, u)) : u.Sound := by
  obtain ⟨-, rfl | ⟨t, rfl⟩⟩ | ⟨entries, copy, t, -, -, -, -, rfl⟩ := ConfigStep.enter_inv h
  · exact hs
  · exact hs.made t
  · have hmade := hs.made t
    have hkept : ∀ id ∈ s.override?, id < (s.current.2.alloc t).2.cells.length := by
      intro id hid
      exact hmade.override? id ((Keeps.current s).override?.symm ▸ hid)
    refine ⟨hmade.default?, hmade.run?, ?_, ?_⟩
    · rintro id ⟨⟩
      simp [alloc]
    · rintro before hbefore
      rcases List.mem_cons.mp hbefore with rfl | hbefore
      · exact hkept
      · exact hmade.entered before ((Keeps.current s).entered.symm ▸ hbefore)

theorem leave {r : Except Failure Unit} (hs : s.Sound) (h : ConfigStep.leave s = (r, u)) : u.Sound := by
  obtain ⟨cells, default?, run?, override?, entered⟩ := s
  cases entered with
  | nil =>
      cases h
      exact hs
  | cons before rest =>
      cases h
      exact ⟨hs.default?, hs.run?, hs.entered before List.mem_cons_self,
        fun b hb => hs.entered b (List.mem_cons_of_mem _ hb)⟩

theorem reset (hs : s.Sound) : s.reset.Sound := by
  refine ⟨?_, nofun, nofun, ?_⟩
  · rintro id ⟨⟩
    simp [ConfigStore.reset, alloc]
  · intro before hbefore id hid
    exact Nat.lt_of_lt_of_le (hs.entered before hbefore id hid) (List.prefix_append _ _).length_le

theorem update (hs : s.Sound) (id : ConfigId) (t : Timeouts) : (s.update id t).Sound := by
  refine ⟨?_, ?_, ?_, ?_⟩ <;> simp only [ConfigStore.update, List.length_set]
  · exact hs.default?
  · exact hs.run?
  · exact hs.override?
  · exact hs.entered

end Sound

theorem Reachable.sound (h : s.Reachable) : s.Sound := by
  induction h with
  | start => exact ⟨nofun, nofun, nofun, nofun⟩
  | call _ hrun ih =>
      obtain ⟨hkeeps, hforRun⟩ := ConfigCall.run_inv hrun
      exact ih.keeps hkeeps (hforRun.imp_right And.right)
  | enter _ hrun ih => exact ih.enter hrun
  | leave _ hrun ih => exact ih.leave hrun
  | default _ ih => exact ih.keeps (.default _) (Or.inl (run?_default _))
  | reset _ ih => exact ih.reset
  | forgetDefault _ ih => exact ⟨nofun, ih.run?, ih.override?, ih.entered⟩
  | setField id f v _ ih => exact ih.update id _

/-- Everything that a program can see is as it was. -/
structure Unchanged (s u : ConfigStore) : Prop where
  current : u.current.2.cell u.current.1 = s.current.2.cell s.current.1
  run? : u.run? = s.run?
  override? : u.override? = s.override?
  entered : u.entered = s.entered
  default : u.default.2.cell u.default.1 = s.default.2.cell s.default.1
  cell : ∀ id < s.cells.length, u.cell id = s.cell id

theorem cell_default_of_none (h : s.default? = none) : s.default.2.cell s.default.1 = .usual := by
  rw [default, h]
  exact s.cell_alloc .usual

/-- A store that keeps all and has the same in force for the run is as it was: a default that was not there
would have been made the same. -/
theorem Keeps.unchanged (h : s.Keeps u) (hs : s.Sound) (hrun : u.run? = s.run?) : s.Unchanged u := by
  have hdefault : u.default.2.cell u.default.1 = s.default.2.cell s.default.1 := by
    rcases h.default? with hsame | ⟨hnone, made, hmade, husual⟩
    · cases hd : s.default? with
      | none => rw [cell_default_of_none hd, cell_default_of_none (hsame.trans hd)]
      | some id =>
          rw [ConfigStore.default, ConfigStore.default, hsame, hd]
          exact h.cell (hs.default? id hd)
    · rw [cell_default_of_none hnone, ConfigStore.default, hmade]
      show u.cell made = _
      rw [ConfigStore.cell, husual, Option.getD_some]
  refine ⟨?_, hrun, h.override?, h.entered, hdefault, fun id hid => h.cell hid⟩
  rw [ConfigStore.current, ConfigStore.current, h.override?, hrun]
  cases ho : s.override? with
  | some id => exact h.cell (hs.override? id ho)
  | none =>
      cases hr : s.run? with
      | some id => exact h.cell (hs.run? id hr)
      | none => exact hdefault

end ConfigStore

/-- A call that fails, or an override that cannot be entered, changes nothing. -/
theorem failed_change_changes_nothing {s u : ConfigStore} {e : Failure} (hs : s.Reachable)
    (hfailed : (∃ c : ConfigCall, c.run s = (.error e, u)) ∨
      ∃ values, ConfigStep.enter values s = (.error e, u)) :
    s.Unchanged u := by
  rcases hfailed with ⟨c, h⟩ | ⟨values, h⟩
  · obtain ⟨hkeeps, hrun | ⟨⟨⟩, -⟩⟩ := ConfigCall.run_inv h
    exact hkeeps.unchanged hs.sound hrun
  · obtain ⟨hkeeps, hrun⟩ := ConfigStep.enter_error_keeps h
    exact hkeeps.unchanged hs.sound hrun

/-- The second of these timeouts is no number. -/
def hastyTimeouts : Value := .map [(.text "find_quick", .float 0.5), (.text "find_element", .text "soon")]

theorem failed_change_changes_nothing_soon :
    ∃ e u, ConfigStep.enter hastyTimeouts {} = (.error e, u) ∧ ConfigStore.Unchanged {} u :=
  ⟨_, _, rfl, failed_change_changes_nothing .start (Or.inr ⟨hastyTimeouts, rfl⟩)⟩

end ElementFinder
