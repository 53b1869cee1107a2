import SensorNet.Lib.Json

/-!
# The backend's device twin updates (`iot-hub.service.ts`)

Each update reads the desired properties of the twin (`registry.getTwin`),
computes new ones from what it read, and sends all of them back
(`registry.updateTwin` with etag `*`, which is unconditional). The functions here
are the part in between: from the properties read to the properties sent, under
the name of the method.

Of the IoT Hub we assume: an update is merged into the desired properties object by
object, arrays and all other values replace what was there, and properties whose
name begins with `$` are ignored.
-/

namespace SensorNet.Backend

open SensorNet.Js

/-- `twin.properties.desired` -/
abbrev Desired := String → Json

/-! ## What the methods send -/

/-- `twin.properties.desired?.jobs || []` -/
def currentJobs (desired : Desired) : Json :=
  if (desired "jobs").truthy then desired "jobs" else .arr []

/-- `addJobToTwin`; `none` where it throws because the jobs are not iterable. -/
def addJobToTwin (job : Json) (desired : Desired) : Option Desired := do
  let jobs ← (currentJobs desired).spread
  return Function.update desired "jobs" (.arr (jobs ++ [job]))

/-- The object `{ siteId, nodeMappings }`. -/
def topology (siteId nodeMappings : Json) : Json :=
  .obj fun name =>
    if name = "siteId" then siteId
    else if name = "nodeMappings" then nodeMappings
    else .undefined

/-- `updateTopologyMapping` -/
def updateTopologyMapping (siteId nodeMappings : Json) (desired : Desired) :
    Option Desired :=
  some (Function.update desired "topology" (topology siteId nodeMappings))

/-- `updateHubPolicies` -/
def updateHubPolicies (policies : Json) (desired : Desired) : Option Desired :=
  some (Function.update desired "policies" policies)

/-! ## What the IoT Hub does with it -/

/-- `registry.updateTwin`: merge what was sent into the desired properties. -/
def updateTwin (desired sent : Desired) : Desired := fun name =>
  if Json.isMeta name then desired name else (desired name).merge (sent name)

/-- A call of one of the three methods. -/
inductive TwinCall where
  | addJob (job : Json)
  | topology (siteId nodeMappings : Json)
  | policies (policies : Json)

namespace TwinCall

/-- What the call sends, from the properties it read. -/
def sends : TwinCall → Desired → Option Desired
  | addJob job => addJobToTwin job
  | topology siteId nodeMappings => updateTopologyMapping siteId nodeMappings
  | policies value => updateHubPolicies value

/-- The property the call is about. -/
def sets : TwinCall → String
  | addJob _ => "jobs"
  | topology _ _ => "topology"
  | policies _ => "policies"

/-- The job the call adds. -/
def job? : TwinCall → Option Json
  | addJob job => some job
  | _ => none

/-- What the call leaves in the twin, from the properties it read and those that are
there when its update arrives. A call that throws sends nothing. -/
def apply (call : TwinCall) (read desired : Desired) : Desired :=
  match call.sends read with
  | some sent => updateTwin desired sent
  | none => desired

end TwinCall

/-- The jobs in the twin, as `addJobToTwin` lists them. -/
def jobsOf (desired : Desired) : Option (List Json) := (currentJobs desired).spread

/-! ## One call without interference -/

/-- A call writes its own property, and leaves every other one as it was. -/
theorem apply_self_of_ne (call : TwinCall) (desired : Desired) {name : String}
    (h : name ≠ call.sets) : call.apply desired desired name = desired name := by
  have hkeep : ∀ value, updateTwin desired (Function.update desired call.sets value) name =
      desired name := by
    intro value
    rw [updateTwin, Function.update_of_ne h, Json.merge_self, ite_self]
  cases call with
  | addJob job =>
    simp only [TwinCall.apply, TwinCall.sends, addJobToTwin]
    cases (currentJobs desired).spread with
    | none => rfl
    | some jobs => exact hkeep _
  | topology siteId nodeMappings => exact hkeep _
  | policies value => exact hkeep _

theorem addJobToTwin_eq (job : Json) {desired : Desired} {jobs : List Json}
    (h : jobsOf desired = some jobs) :
    addJobToTwin job desired = some (Function.update desired "jobs" (.arr (jobs ++ [job]))) := by
  rw [addJobToTwin, show (currentJobs desired).spread = some jobs from h]
  rfl

/-- Adding a job appends it to the list. -/
theorem apply_addJob_jobs {job : Json} {desired : Desired} {jobs : List Json}
    (h : jobsOf desired = some jobs) :
    (TwinCall.addJob job).apply desired desired "jobs" = .arr (jobs ++ [job]) := by
  have hsends : (TwinCall.addJob job).sends desired = _ := addJobToTwin_eq job h
  have hmeta : Json.isMeta "jobs" = false := by decide
  rw [TwinCall.apply, hsends]
  simp [updateTwin, hmeta]

/-- Nothing else changes. -/
theorem apply_addJob (job : Json) {desired : Desired} {jobs : List Json}
    (h : jobsOf desired = some jobs) :
    (TwinCall.addJob job).apply desired desired =
      Function.update desired "jobs" (.arr (jobs ++ [job])) := by
  funext name
  by_cases hname : name = "jobs"
  · rw [hname, apply_addJob_jobs h, Function.update_self]
  · rw [apply_self_of_ne _ _ hname, Function.update_of_ne hname]

/-- The jobs listed after a call: those before it, and the one it adds. -/
theorem jobsOf_apply {call : TwinCall} {desired : Desired} {jobs : List Json}
    (h : jobsOf desired = some jobs) :
    jobsOf (call.apply desired desired) = some (jobs ++ call.job?.toList) := by
  have hkeep : "jobs" ≠ call.sets → jobsOf (call.apply desired desired) = jobsOf desired := by
    intro hne
    rw [jobsOf, jobsOf, currentJobs, currentJobs, apply_self_of_ne call desired hne]
  cases call with
  | addJob job =>
    rw [jobsOf, currentJobs, apply_addJob_jobs h]
    rfl
  | topology siteId nodeMappings =>
    rw [hkeep (by simp [TwinCall.sets]), h]
    simp [TwinCall.job?]
  | policies value =>
    rw [hkeep (by simp [TwinCall.sets]), h]
    simp [TwinCall.job?]

end SensorNet.Backend
