import SensorNet.Lib.Run

/-!
# The sensor node (`node_nrf54l15/src/main.c`, `diagnostics/diagnostics.c`)

After booting, the node is driven by its sampling work, which schedules itself
again after each sample, and by the callbacks for connections. All of them share
`app_state`.

The environment decides the results of the calls (`BootResults`, the result of
`sensor_read`) and the order of the events; a central holds at most one
connection. Advertising calls succeed. The calls that only log or report
(`advertising_update_reading`, `gatt_notify_reading`, the watchdog) are left out.
-/

namespace SensorNet.Node

/-- `app_state` -/
inductive AppState where
  | factory
  | uncommissioned
  | commissioning
  | operational
  | maintenance
  | fault
  deriving DecidableEq, Repr

/-- Static data of `main.c` and `diagnostics.c`, and the world around:
- `appState`, `intervalSeconds` (of `current_config.sampling`), `faultCount`;
- `sampleWork`: the delay in seconds for which `sample_work` is scheduled, `none` if it
  is not;
- `advertising`, and whether a central is `connected`. -/
structure NodeState where
  appState : AppState := .uncommissioned
  intervalSeconds : UInt32 := 0
  faultCount : Int := 0
  sampleWork : Option UInt32 := none
  advertising : Bool := false
  connected : Bool := false
  deriving DecidableEq, Repr

/-! ## Diagnostics, advertising and the work queue -/

/-- `diagnostics_init` -/
def diagnosticsInit (s : NodeState) : NodeState := { s with faultCount := 0 }

/-- `diagnostics_record_fault` -/
def diagnosticsRecordFault (s : NodeState) : NodeState :=
  { s with faultCount := s.faultCount + 1 }

/-- `diagnostics_get_fault_count` -/
def diagnosticsGetFaultCount (s : NodeState) : Int := s.faultCount

/-- `diagnostics_clear_fault_count` -/
def diagnosticsClearFaultCount (s : NodeState) : NodeState := { s with faultCount := 0 }

/-- `advertising_start` -/
def advertisingStart (s : NodeState) : NodeState := { s with advertising := true }

/-- `advertising_stop` -/
def advertisingStop (s : NodeState) : NodeState := { s with advertising := false }

/-- `k_work_schedule(&sample_work, K_SECONDS(delay))`, without effect on work that is
scheduled already. -/
def kWorkSchedule (delay : UInt32) (s : NodeState) : NodeState :=
  { s with sampleWork := s.sampleWork <|> some delay }

/-! ## The handlers -/

/-- `sample_work_handler`, where `sensor_read` returns `ret`. -/
def sampleWorkHandler (ret : Int) (s : NodeState) : NodeState :=
  let s :=
    if ret < 0 then
      let s := diagnosticsRecordFault s
      if diagnosticsGetFaultCount s > 5 then { s with appState := .fault } else s
    else diagnosticsClearFaultCount s
  if s.appState = .operational then kWorkSchedule s.intervalSeconds s else s

/-- `connected` -/
def connected (err : UInt8) (s : NodeState) : NodeState :=
  if err ≠ 0 then s else advertisingStop s

/-- `disconnected` -/
def disconnected (_reason : UInt8) (s : NodeState) : NodeState :=
  if s.appState = .operational then advertisingStart s else s

/-! ## Booting -/

/-- What the calls of `main` return before its loop, and the sampling interval that
`config_manager_load` loads. -/
structure BootResults where
  configManagerLoad : Int
  interval : UInt32
  powerManagerInit : Int
  sensorInit : Int
  btEnable : Int
  gattServicesInit : Int
  advertisingStart : Int

/-- The sampling interval set by `config_manager_set_defaults`. -/
def defaultInterval : UInt32 := 60

/-- The first part of `main`: the configuration is loaded. -/
def loadConfig (env : BootResults) : NodeState :=
  if env.configManagerLoad < 0 then
    { intervalSeconds := defaultInterval, appState := .uncommissioned }
  else { intervalSeconds := env.interval, appState := .operational }

/-- `main` up to its loop; an error is what `main` returns. -/
def main (env : BootResults) : Except Int NodeState := do
  let s := loadConfig env
  if env.powerManagerInit < 0 then throw env.powerManagerInit
  if env.sensorInit < 0 then throw env.sensorInit
  if env.btEnable ≠ 0 then throw env.btEnable
  if env.gattServicesInit < 0 then throw env.gattServicesInit
  if env.advertisingStart < 0 then throw env.advertisingStart
  let s := diagnosticsInit (advertisingStart s)
  return if s.appState = .operational then kWorkSchedule 5 s else s

/-- A check of `main` is passed iff its condition for an error fails. -/
theorem check_eq_ok {c : Prop} [Decidable c] {err : Int} {f : PUnit → Except Int NodeState}
    {rest : Except Int NodeState} {s : NodeState} :
    (if c then throw err >>= f else rest) = .ok s ↔ ¬ c ∧ rest = .ok s := by
  by_cases hc : c
  · rw [if_pos hc]
    refine iff_of_false (fun h => ?_) fun h => h.1 hc
    cases h
  · rw [if_neg hc]
    exact (and_iff_right hc).symm

/-- The state in which the loop of `main` starts. -/
theorem main_eq_ok {env : BootResults} {s : NodeState} (h : main env = .ok s) :
    s = if env.configManagerLoad < 0 then
          { intervalSeconds := defaultInterval, advertising := true }
        else
          { intervalSeconds := env.interval, appState := .operational,
            sampleWork := some 5, advertising := true } := by
  unfold main at h
  obtain ⟨-, h⟩ := check_eq_ok.mp h
  obtain ⟨-, h⟩ := check_eq_ok.mp h
  obtain ⟨-, h⟩ := check_eq_ok.mp h
  obtain ⟨-, h⟩ := check_eq_ok.mp h
  obtain ⟨-, h⟩ := check_eq_ok.mp h
  cases h
  unfold loadConfig
  by_cases hload : env.configManagerLoad < 0
  · simp only [if_pos hload]
    rfl
  · simp only [if_neg hload]
    rfl

/-- A boot where all calls succeed but `config_manager_load`, which returns `load`. -/
def bootWith (load : Int) : BootResults :=
  { configManagerLoad := load, interval := 60, powerManagerInit := 0, sensorInit := 0,
    btEnable := 0, gattServicesInit := 0, advertisingStart := 0 }

/-! ## Events -/

/-- What happens to the node:
- `sample ret`: the delay of the scheduled work is over and the handler runs;
- `connected`, `disconnected`: a central connects, and its connection ends. -/
inductive NodeEvent where
  | sample (ret : Int)
  | connected
  | disconnected (reason : UInt8)
  deriving DecidableEq, Repr

/-- One event, where it can happen. -/
def nodeStep (s : NodeState) : NodeEvent → Option NodeState
  | .sample ret =>
    if s.sampleWork.isSome then some (sampleWorkHandler ret { s with sampleWork := none })
    else none
  | .connected =>
    if s.connected then none else some (connected 0 { s with connected := true })
  | .disconnected reason =>
    if s.connected then some (disconnected reason { s with connected := false }) else none

end SensorNet.Node
