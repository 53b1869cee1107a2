import SensorNet.Lib.Run
import SensorNet.Lib.Watchdog

/-!
# The cellular hub (`hub_nrf91_cellular/src/main.c`, `network/lte_connection.c`)

`main` runs `run_state_machine` for ever. The modem calls `lte_handler` on its own
schedule, also while a step sleeps, and the twin synchronisation runs from the work
queue.

The environment decides the results of the calls (`Results`) and the order of the
events. Arming the watchdog succeeds. The stubs that only log (`device_twin_init`,
`device_twin_sync`, `ipc_bridge_init`, `ipc_bridge_process`, `iot_hub_process`) are
left out.
-/

namespace SensorNet.Cellular

/-- `enum hub_state` -/
inductive HubState where
  | hubInit
  | lteConnecting
  | dpsProvisioning
  | iotHubConnecting
  | operational
  | error
  deriving DecidableEq, Repr

/-- Static data of `main.c` and `lte_connection.c`:
- `currentState` and `connected`;
- `twinSyncWork`: whether `twin_sync_work` is scheduled;
- `actions`: what the watchdog has seen since it was armed. -/
structure Hub where
  currentState : HubState := .hubInit
  connected : Bool := false
  twinSyncWork : Bool := false
  actions : List WatchdogAction := []
  deriving DecidableEq, Repr

/-! ## The watchdog and sleeping -/

/-- `wdt_config.window.max`, in milliseconds -/
def wdtWindowMax : Nat := 30000

/-- `feed_watchdog` -/
def feedWatchdog (h : Hub) : Hub := { h with actions := h.actions ++ [.feed] }

/-- `k_sleep(K_MSEC(ms))` -/
def kSleep (ms : Nat) (h : Hub) : Hub := { h with actions := h.actions ++ [.sleep ms] }

/-! ## `lte_connection.c` -/

/-- `evt->nw_reg_status` -/
inductive NwRegStatus where
  | registeredHome
  | registeredRoaming
  | other
  deriving DecidableEq, Repr

/-- `struct lte_lc_evt` -/
inductive LteEvent where
  | nwRegStatus (status : NwRegStatus)
  | psmUpdate
  | other
  deriving DecidableEq, Repr

/-- `lte_handler` -/
def lteHandler (h : Hub) : LteEvent → Hub
  | .nwRegStatus status =>
    if status = .registeredHome ∨ status = .registeredRoaming then { h with connected := true }
    else { h with connected := false }
  | .psmUpdate => h
  | .other => h

/-- What the calls of one step return. `waiting i` are the events that the modem delivers
before the `i`-th look of `lte_connection_connect` at `connected`. -/
structure Results where
  lteLcInit : Int
  lteLcRegisterHandler : Int
  lteLcPsmReq : Int
  lteLcConnectAsync : Int
  waiting : Nat → List LteEvent
  provisioningIsProvisioned : Bool
  provisioningRegister : Int
  iotHubConnect : Int

/-- `lte_connection_init`. That `lte_lc_psm_req` fails is only logged. -/
def lteConnectionInit (env : Results) : Int :=
  if env.lteLcInit ≠ 0 then env.lteLcInit
  else if env.lteLcRegisterHandler ≠ 0 then env.lteLcRegisterHandler
  else 0

/-- The number of looks of `lte_connection_connect`, one in a second -/
def connectLooks : Nat := 60

/-- `ETIMEDOUT` -/
def eTIMEDOUT : Int := 116

/-- The loop of `lte_connection_connect`, with `n` looks to go. -/
def waitConnected : Nat → (Nat → List LteEvent) → Hub → Int × Hub
  | 0, _, h => (-eTIMEDOUT, h)
  | n + 1, waiting, h =>
    let h := (waiting 0).foldl lteHandler h
    if h.connected then (0, h)
    else waitConnected n (fun i => waiting (i + 1)) (kSleep 1000 h)

/-- `lte_connection_connect` -/
def lteConnectionConnect (env : Results) (h : Hub) : Int × Hub :=
  if env.lteLcConnectAsync ≠ 0 then (env.lteLcConnectAsync, h)
  else waitConnected connectLooks env.waiting h

/-- `lte_connection_is_connected` -/
def lteConnectionIsConnected (h : Hub) : Bool := h.connected

/-! ## `main.c` -/

/-- `k_work_schedule(&twin_sync_work, K_MINUTES(5))` -/
def scheduleTwinSync (h : Hub) : Hub := { h with twinSyncWork := true }

/-- `twin_sync_worker`, when its delay is over. -/
def twinSyncWorker (h : Hub) : Hub :=
  let h := { h with twinSyncWork := false }
  if h.currentState = .operational then scheduleTwinSync h else h

/-- `run_state_machine` -/
def runStateMachine (env : Results) (h : Hub) : Hub :=
  match h.currentState with
  | .hubInit =>
    if lteConnectionInit env = 0 then { h with currentState := .lteConnecting }
    else { h with currentState := .error }
  | .lteConnecting =>
    let (err, h) := lteConnectionConnect env h
    if err = 0 then
      if env.provisioningIsProvisioned then { h with currentState := .iotHubConnecting }
      else { h with currentState := .dpsProvisioning }
    else h
  | .dpsProvisioning =>
    if env.provisioningRegister = 0 then { h with currentState := .iotHubConnecting }
    else kSleep 30000 h
  | .iotHubConnecting =>
    if env.iotHubConnect = 0 then { scheduleTwinSync h with currentState := .operational }
    else kSleep 10000 h
  | .operational => kSleep 100 (feedWatchdog h)
  | .error => { kSleep 60000 h with currentState := .hubInit }

/-! ## Events -/

/-- What happens to the hub: the modem calls `lte_handler`, `main` takes a step, or the
delay of `twin_sync_work` is over. -/
inductive HubEvent where
  | lte (evt : LteEvent)
  | step (env : Results)
  | twinSync

/-- One event, where it can happen. -/
def hubStep (h : Hub) : HubEvent → Option Hub
  | .lte evt => some (lteHandler h evt)
  | .step env => some (runStateMachine env h)
  | .twinSync => if h.twinSyncWork then some (twinSyncWorker h) else none

/-- A boot where all calls succeed, in a network that registers the hub before the
`look`-th look. -/
def registersAt (look : Nat) : Results :=
  { lteLcInit := 0, lteLcRegisterHandler := 0, lteLcPsmReq := 0, lteLcConnectAsync := 0,
    waiting := fun i => if i = look then [.nwRegStatus .registeredHome] else [],
    provisioningIsProvisioned := true, provisioningRegister := 0, iotHubConnect := 0 }

end SensorNet.Cellular
