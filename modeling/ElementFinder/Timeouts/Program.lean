import ElementFinder.Timeouts.Store

/-!
# Programs with configurations

What a program does with configurations: calls that change what is in force for the run, and overrides
for the time of a body, one inside the other. Everything may fail, and a failure may be caught.
-/

namespace ElementFinder

/-- A configuration that there is. -/
def ConfigStep.known (id : ConfigId) : ConfigStep ConfigId := do
  if id < (← get).cells.length then return id else throw .outOfRange

/-- A call that leaves the overrides alone. -/
inductive ConfigCall where
  | current
  | install (id : ConfigId)
  | clearRun
  | applyPreset (name : Option String)
  | applyCi
  | applyLocal
  | build (preset : Option String) (overrides appDefaults : Value)
  | clone (id : ConfigId)

def ConfigCall.run : ConfigCall → ConfigStep Unit
  | current => do let _ ← ConfigStep.current
  | install id => do
    let id ← ConfigStep.known id
    modify fun s => s.install id
  | clearRun => modify fun s => s.clearRun
  | applyPreset name => ConfigStep.applyPreset name
  | applyCi => ConfigStep.applyCi
  | applyLocal => ConfigStep.applyLocal
  | build preset overrides appDefaults => do let _ ← ConfigStep.build preset overrides appDefaults
  | clone id => do let _ ← ConfigStep.clone (← ConfigStep.known id)

/-- A part of a program: a call, a failure of its own, a part whose failure is caught, or a body under an
override. -/
inductive ConfigCommand where
  | call (c : ConfigCall)
  | fail (f : Failure)
  | tried (c : ConfigCommand)
  | override (values : Value) (body : List ConfigCommand)

namespace ConfigCommand

mutual

def run : ConfigCommand → ConfigStep Unit
  | call c => c.run
  | fail f => throw f
  | tried c => tryCatch c.run fun _ => return ()
  | override values body => ConfigStep.overriding values fun _ => runAll body

/-- Runs the parts one after the other, up to the first that fails. -/
def runAll : List ConfigCommand → ConfigStep Unit
  | [] => return ()
  | c :: rest => do
    c.run
    runAll rest

end

end ConfigCommand

end ElementFinder
