import ElementFinder.Proofs.GivenTimeouts

/-!
# The scope of an override

An override is in force for its body, whatever the body changes for the run, and what was in force before
is in force again after it, however the body ends.
-/

namespace ElementFinder

open Run

namespace ConfigStore

/-- The store after an override is left. -/
def restored (s : ConfigStore) (before : Option ConfigId) (rest : List (Option ConfigId)) : ConfigStore :=
  { s with override? := before, entered := rest }

theorem Keeps.restored {s u : ConfigStore} (h : s.Keeps u) (before : Option ConfigId)
    (rest : List (Option ConfigId)) : (s.restored before rest).Keeps (u.restored before rest) :=
  ⟨h.cells, rfl, rfl, h.default?⟩

end ConfigStore

/-! ## Entering and leaving -/

namespace ConfigStep

variable {s t u : ConfigStore} {values : Value} {id : ConfigId} {before : Option ConfigId}
  {rest : List (Option ConfigId)}

theorem leave_run (h : s.entered = before :: rest) : leave s = (.ok (), s.restored before rest) := by
  obtain ⟨cells, default?, run?, override?, entered⟩ := s
  cases h
  rfl

theorem enter_ok_inv (h : enter values s = (.ok id, u)) :
    u.override? = some id ∧ u.entered = s.override? :: s.entered ∧
      s.Keeps (u.restored s.override? s.entered) ∧ id < u.cells.length := by
  obtain ⟨⟨_, ⟨⟩⟩, -⟩ | ⟨entries, copy, t, -, -, -, hid, rfl⟩ := enter_inv h
  cases hid
  refine ⟨rfl, rfl, ((ConfigStore.Keeps.current s).trans (.alloc _ t)).restored _ _, ?_⟩
  simp [ConfigStore.alloc]

/-- An entered override is a copy of what was in force, with the timeouts that it gives. -/
theorem enter_ok_content (h : enter values s = (.ok id, u)) :
    ∃ entries copy, values = .map entries ∧ (s.current.2.cell s.current.1).CopyOf copy ∧
      copy.override entries = (u.cell id, none) := by
  obtain ⟨⟨_, ⟨⟩⟩, -⟩ | ⟨entries, copy, t, hvalues, hcopy, hoverride, hid, rfl⟩ := enter_inv h
  cases hid
  refine ⟨entries, copy, hvalues, hcopy, ?_⟩
  rw [hoverride]
  exact congrArg (·, none) (s.current.2.cell_alloc t).symm

variable {α : Type} {body : ConfigId → ConfigStep α} {r : Except Failure α}

theorem overriding_error {e : Failure} (h : enter values s = (.error e, u)) :
    overriding values body s = (.error e, u) := bind_error h

/-- A body that leaves the overrides as it found them is followed by what was in force before. -/
theorem overriding_run (henter : enter values s = (.ok id, t)) (hbody : body id t = (r, u))
    (hentered : u.entered = before :: rest) : overriding values body s = (r, u.restored before rest) := by
  rw [overriding, bind_ok henter]
  exact tryFinally_run hbody (leave_run hentered)

end ConfigStep

/-! ## Programs -/

namespace ConfigCommand

theorem tried_inv {c : ConfigCommand} {s u : ConfigStore} {r : Except Failure Unit}
    (h : (tried c).run s = (r, u)) : ∃ r', c.run s = (r', u) := by
  rcases hrun : c.run s with ⟨e | a, t⟩
  · cases (tryCatch_error hrun).symm.trans h
    exact ⟨_, rfl⟩
  · cases (tryCatch_ok hrun).symm.trans h
    exact ⟨_, rfl⟩

mutual

/-- A program keeps what there was, as the overrides in it are left when it ends. -/
theorem run_inv : ∀ (c : ConfigCommand) {s u : ConfigStore} {r : Except Failure Unit},
    c.run s = (r, u) → s.Keeps u ∧ (s.Reachable → u.Reachable)
  | call c, _, _, _, h => ⟨(ConfigCall.run_inv h).1, fun hs => hs.call h⟩
  | fail f, s, _, _, h => by
      cases h
      exact ⟨.refl s, fun hs => hs⟩
  | tried c, _, _, _, h => by
      obtain ⟨r', hrun⟩ := tried_inv h
      exact run_inv c hrun
  | override values body, s, _, _, h => by
      rcases henter : ConfigStep.enter values s with ⟨e | id, t⟩
      · cases (ConfigStep.overriding_error henter).symm.trans h
        exact ⟨(ConfigStep.enter_error_keeps henter).1, fun hs => hs.enter henter⟩
      · obtain ⟨-, hentered, hkeeps, -⟩ := ConfigStep.enter_ok_inv henter
        rcases hbody : runAll body t with ⟨r', v⟩
        obtain ⟨hbodyKeeps, hbodyReachable⟩ := runAll_inv body hbody
        have hleft := hbodyKeeps.entered.trans hentered
        cases (ConfigStep.overriding_run henter hbody hleft).symm.trans h
        exact ⟨hkeeps.trans (hbodyKeeps.restored _ _),
          fun hs => (hbodyReachable (hs.enter henter)).leave (ConfigStep.leave_run hleft)⟩

theorem runAll_inv : ∀ (body : List ConfigCommand) {s u : ConfigStore} {r : Except Failure Unit},
    runAll body s = (r, u) → s.Keeps u ∧ (s.Reachable → u.Reachable)
  | [], s, _, _, h => by
      cases h
      exact ⟨.refl s, fun hs => hs⟩
  | c :: rest, _, _, _, h => by
      rcases bind_inv h with ⟨e, hrun, -⟩ | ⟨_, t, hrun, hrest⟩
      · exact run_inv c hrun
      · obtain ⟨hfirst, hfirstReachable⟩ := run_inv c hrun
        obtain ⟨hthen, hthenReachable⟩ := runAll_inv rest hrest
        exact ⟨hfirst.trans hthen, fun hs => hthenReachable (hfirstReachable hs)⟩

end

end ConfigCommand

/-! ## The body of an override and what follows it -/

namespace ConfigStore

/-- An override with some timeouts is in force. Another that is entered starts from them, each one as the
double that it stands for, and so from equal ones exactly if they are doubles. -/
structure UnderOverride (s : ConfigStore) (id : ConfigId) (t : Timeouts) : Prop where
  reachable : s.Reachable
  current : s.current = (id, s)
  cell : s.cell id = t
  nested : ∀ {values innerId u}, ConfigStep.enter values s = (.ok innerId, u) →
    ∃ entries copy, values = .map entries ∧ t.CopyOf copy ∧ (t.Same copy ↔ t.All Value.IsDouble) ∧
      copy.override entries = (u.cell innerId, none)

/-- After an override the one before it is in force, if there was one, and else what the body left in force
for the run, or the default. -/
structure RestoredTo (s body after : ConfigStore) : Prop where
  override? : after.override? = s.override?
  entered : after.entered = s.entered
  run? : after.run? = body.run?
  cell : ∀ id < s.cells.length, after.cell id = s.cell id
  outer : ∀ {id}, s.override? = some id → after.current = (id, after) ∧ after.cell id = s.cell id
  forRun : ∀ {id}, s.override? = none → body.run? = some id →
    after.current = (id, after) ∧ after.cell id = body.cell id
  default : s.override? = none → body.run? = none → after.current = after.default

theorem current_of_override {s : ConfigStore} {id : ConfigId} (h : s.override? = some id) :
    s.current = (id, s) := by
  rw [current, h]

end ConfigStore

open ConfigStore (UnderOverride RestoredTo) in
/-- The override that a body runs under is in force at each point of the body that is in no other override,
and left at its end. -/
theorem override_lasts_for_its_body {s s₁ : ConfigStore} {values : Value} {id : ConfigId}
    (hs : s.Reachable) (henter : ConfigStep.enter values s = (.ok id, s₁)) (body : List ConfigCommand) :
    (∀ before r s₂, before <+: body → ConfigCommand.runAll before s₁ = (r, s₂) →
      s₂.UnderOverride id (s₁.cell id)) ∧
    ∀ r s₂, ConfigCommand.runAll body s₁ = (r, s₂) →
      ∃ s', (ConfigCommand.override values body).run s = (r, s') ∧ s.RestoredTo s₂ s' := by
  obtain ⟨hoverride, hentered, hkeeps, hid⟩ := ConfigStep.enter_ok_inv henter
  refine ⟨?_, ?_⟩
  · intro before r s₂ _ hrun
    obtain ⟨hbody, hreachable⟩ := ConfigCommand.runAll_inv before hrun
    have hcurrent := ConfigStore.current_of_override (hbody.override?.trans hoverride)
    refine ⟨hreachable (hs.enter henter), hcurrent, hbody.cell hid, ?_⟩
    intro values innerId u hinner
    obtain ⟨entries, copy, hvalues, hcopy, hinside⟩ := ConfigStep.enter_ok_content hinner
    rw [hcurrent, hbody.cell hid] at hcopy
    exact ⟨entries, copy, hvalues, hcopy, hcopy.same_iff, hinside⟩
  · intro r s₂ hrun
    obtain ⟨hbody, -⟩ := ConfigCommand.runAll_inv body hrun
    have hafter : s.Keeps (s₂.restored s.override? s.entered) := hkeeps.trans (hbody.restored _ _)
    refine ⟨_, ConfigStep.overriding_run henter hrun (hbody.entered.trans hentered), rfl, rfl, rfl,
      fun id hid => hafter.cell hid, ?_, ?_, ?_⟩
    · intro outer houter
      exact ⟨ConfigStore.current_of_override houter, hafter.cell (hs.sound.override? outer houter)⟩
    · intro forRun hnone hforRun
      refine ⟨?_, rfl⟩
      rw [ConfigStore.current, ConfigStore.restored, hnone]
      dsimp only
      rw [hforRun]
    · intro hnone hnoRun
      rw [ConfigStore.current, ConfigStore.restored, hnone]
      dsimp only
      rw [hnoRun]

/-- Something is installed for the run before the body fails. -/
def rushedBody : List ConfigCommand := [.call .applyCi, .fail .endless]

def quickTimeouts : Value := .map [(.text "find_quick", .float 0.5)]

theorem override_lasts_for_its_body_rushed :
    ∃ id s₁ s₂ s', ConfigStep.enter quickTimeouts {} = (.ok id, s₁) ∧ s₂.UnderOverride id (s₁.cell id) ∧
      (ConfigCommand.override quickTimeouts rushedBody).run {} = (.error .endless, s') ∧
      ConfigStore.RestoredTo {} s₂ s' := by
  have henter : ConfigStep.enter quickTimeouts {} = (.ok 1, (ConfigStep.enter quickTimeouts {}).2) := rfl
  obtain ⟨hbody, hafter⟩ := override_lasts_for_its_body .start henter rushedBody
  have hrun : ∃ s₂, ConfigCommand.runAll rushedBody (ConfigStep.enter quickTimeouts {}).2 =
      (.error .endless, s₂) := ⟨_, rfl⟩
  obtain ⟨s₂, hrun⟩ := hrun
  obtain ⟨s', hoverride, hrestored⟩ := hafter _ _ hrun
  exact ⟨1, _, s₂, s', henter, hbody _ _ _ (List.prefix_refl _) hrun, hoverride, hrestored⟩

/-- No double is this number. -/
def longTimeouts : Value :=
  .map [(.text "find_element", .map [(.text "timeout", .int 100000000000000001)])]

/-- An override in another need not start from its timeouts: it has another one for finding an element, for
which it gives none. -/
theorem inner_override_has_another_timeout :
    ∃ outer inner s₁ s₂, ConfigStep.enter longTimeouts {} = (.ok outer, s₁) ∧
      ConfigStep.enter quickTimeouts s₁ = (.ok inner, s₂) ∧
      (s₁.cell outer).findElement = .int 100000000000000001 ∧
      (s₂.cell inner).findElement = .float 100000000000000000.0 :=
  ⟨1, 2, _, _, rfl, rfl, rfl, rfl⟩

end ElementFinder
