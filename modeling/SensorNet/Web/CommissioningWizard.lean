import SensorNet.Lib.Run

/-!
# The commissioning wizard (`apps/web/src/pages/CommissioningWizard.tsx`)

The wizard connects to a device, shows what it read from it, asks for the configuration and
creates the device in the backend. Its steps change by one, at a click on Back or Next and
when the last response of a scan or of a create request arrives; a step is shown for each
value of `activeStep` from 0 (Connect) to 4 (Complete).

While a handler waits for a response the other buttons are disabled, but Back is not, and
it is not disabled at the Complete step either. So a response can find the wizard at
another step than that at which the request was sent, and the wizard can come back from the
Complete step to the one with the Commission button.

- `activeStep_range`: the step is one of the five, in all runs.
- `commissionsOnce_iff`: the exact condition for a device being created once.
- `firstTime_of_noLateBack`: it is met where Back is not clicked while a create request is
  pending nor at the Complete step.
-/

namespace SensorNet.Web

/-! ## What is sent and received -/

/-- The `mode` of the wizard -/
inductive CommissioningMode where
  | node
  | hub
  deriving DecidableEq, Repr

/-- A device that the browser's dialog offers -/
structure BluetoothDevice where
  id : String
  name : String
  services : List String
  deriving DecidableEq, Repr

/-- What is shown about the connected device -/
structure DeviceInfo where
  name : String
  id : String
  firmwareVersion : String
  deriving DecidableEq, Repr

/-- The input fields. `none` is `NaN`: what is typed need not be a number. -/
structure WizardConfig where
  organizationId : String := ""
  siteId : String := ""
  sensorGroupId : String := ""
  nodeName : String := ""
  samplingInterval : Option Rat := some 60
  warmupMs : Option Rat := some 100
  burstCount : Option Rat := some 10
  calibrationOffset : Option Rat := some 0
  calibrationSlope : Option Rat := some 20
  deriving DecidableEq, Repr

/-- `configuration` in the request for a node -/
structure NodeConfiguration where
  intervalSeconds : Option Rat
  warmupMs : Option Rat
  burstCount : Option Rat
  aggregation : Rat
  offset : Option Rat
  slope : Option Rat
  polyA : Rat
  polyB : Rat
  deriving DecidableEq, Repr

/-- The create requests: to `/api/topology/nodes` and to `/api/topology/hubs` -/
inductive CreateRequest where
  | node (nodeId name sensorGroupId : String) (configuration : NodeConfiguration)
  | hub (deviceId siteId status : String)
  deriving DecidableEq, Repr

/-- The device that the request creates -/
def CreateRequest.deviceId : CreateRequest → String
  | node nodeId _ _ _ => nodeId
  | hub deviceId _ _ => deviceId

/-- The request that `saveConfiguration` sends -/
def createRequest (mode : CommissioningMode) (deviceInfo : DeviceInfo)
    (config : WizardConfig) : CreateRequest :=
  match mode with
  | .node =>
    .node deviceInfo.id config.nodeName config.sensorGroupId
      { intervalSeconds := config.samplingInterval
        warmupMs := config.warmupMs
        burstCount := config.burstCount
        aggregation := 0
        offset := config.calibrationOffset
        slope := config.calibrationSlope
        polyA := 0
        polyB := 0 }
  | .hub => .hub deviceInfo.id config.siteId "commissioned"

/-- `serviceUuid` -/
def serviceUuid : CommissioningMode → String
  | .node => "00001000-0000-1000-8000-00805f9b34fb"
  | .hub => "00002000-0000-1000-8000-00805f9b34fb"

/-- `namePrefix` -/
def scanNamePrefix : CommissioningMode → String
  | .node => "ISN-"
  | .hub => "HUB-"

/-- The device passes one of the `filters`. -/
def matchesFilters (mode : CommissioningMode) (device : BluetoothDevice) : Bool :=
  device.services.contains (serviceUuid mode)
    || (scanNamePrefix mode).toList.isPrefixOf device.name.toList

/-- An `await` at which a handler is -/
inductive WizardAwait where
  /-- `requestDevice` -/
  | choosing
  /-- `gatt?.connect` -/
  | connecting (device : BluetoothDevice)
  /-- The service, its characteristic or the value of that -/
  | reading (device : BluetoothDevice)
  /-- `axios.post` -/
  | saving (request : CreateRequest)
  deriving DecidableEq, Repr

/-- The await is that of `saveConfiguration`. -/
def WizardAwait.isSaving : WizardAwait → Bool
  | saving _ => true
  | _ => false

/-- What passed between the wizard and the backend -/
inductive Exchange where
  /-- A create request was sent. -/
  | sent (request : CreateRequest)
  /-- A create request succeeded, and the wizard showed this step when the response had
  arrived. -/
  | created (deviceId : String) (shown : Int)
  deriving DecidableEq, Repr

/-! ## The wizard -/

/-- The state of the wizard, where its handlers are, and what was exchanged -/
structure WizardState where
  activeStep : Int := 0
  error : Option String := none
  loading : Bool := false
  device : Option BluetoothDevice := none
  deviceInfo : Option DeviceInfo := none
  config : WizardConfig := {}
  awaits : List WizardAwait := []
  exchanges : List Exchange := []
  deriving DecidableEq, Repr

inductive WizardButton where
  | scan
  | back
  | next
  | commission
  deriving DecidableEq, Repr

namespace WizardState

/-- The button is shown and enabled. -/
def isEnabled (w : WizardState) : WizardButton → Bool
  | .scan => w.activeStep == 0 && !w.loading
  | .back => !(w.activeStep == 0)
  | .next => decide (w.activeStep < 4) && w.activeStep != 0 && w.activeStep != 3 && !w.loading
  | .commission =>
    decide (w.activeStep < 4) && w.activeStep != 0 && w.activeStep == 3 && !w.loading

/-- `handleNext` -/
def handleNext (w : WizardState) : WizardState := { w with activeStep := w.activeStep + 1 }

/-- `handleBack` -/
def handleBack (w : WizardState) : WizardState := { w with activeStep := w.activeStep - 1 }

/-- `scanForDevice`, up to its first `await` -/
def scanForDevice (bluetooth : Bool) (w : WizardState) : WizardState :=
  if bluetooth then
    { w with loading := true, error := none, awaits := w.awaits ++ [.choosing] }
  else
    { w with loading := false, error := some "Web Bluetooth is not supported in this browser" }

/-- `saveConfiguration`, up to its `await` -/
def saveConfiguration (mode : CommissioningMode) (w : WizardState) : WizardState :=
  match w.deviceInfo with
  -- `deviceInfo.id` throws before anything is sent.
  | none =>
    { w with loading := false, error := some "Cannot read properties of null (reading 'id')" }
  | some deviceInfo =>
    let request := createRequest mode deviceInfo w.config
    { w with
      loading := true
      error := none
      awaits := w.awaits ++ [.saving request]
      exchanges := w.exchanges ++ [.sent request] }

/-- A click on an enabled button -/
def onClick (mode : CommissioningMode) (bluetooth : Bool) (w : WizardState) :
    WizardButton → WizardState
  | .scan => w.scanForDevice bluetooth
  | .back => w.handleBack
  | .next => w.handleNext
  | .commission => w.saveConfiguration mode

/-- The handler at the `i`-th await returns, by `finally`. -/
def finish (i : Nat) (w : WizardState) : WizardState :=
  { w with loading := false, awaits := w.awaits.eraseIdx i }

end WizardState

/-- What an `await` gives, or that it throws with this message -/
inductive WizardResponse where
  | selected (device : BluetoothDevice)
  /-- `server` is `undefined` if the device has no `gatt`. -/
  | connected (server : Bool)
  | firmware (version : String)
  | created
  | failed (message : String)
  deriving DecidableEq, Repr

/-- `err.message || text` -/
def errorText (message text : String) : String := if message = "" then text else message

namespace WizardState

/-- The handler at the `i`-th await goes on; `none` if it cannot get this response. -/
def onResponse (mode : CommissioningMode) (i : Nat) (w : WizardState) :
    WizardAwait → WizardResponse → Option WizardState
  | .choosing, .selected device =>
    if matchesFilters mode device then
      some { w with device := some device, awaits := w.awaits.set i (.connecting device) }
    else none
  | .connecting device, .connected server =>
    if server then some { w with awaits := w.awaits.set i (.reading device) }
    else some (w.finish i)
  | .reading device, .firmware version =>
    some ({ w with deviceInfo := some ⟨device.name, device.id, version⟩ }.handleNext.finish i)
  | .saving request, .created =>
    let next := w.handleNext
    some ({ next with
      exchanges := w.exchanges ++ [Exchange.created request.deviceId next.activeStep] }.finish i)
  | .saving _, .failed message =>
    some ({ w with error := some (errorText message "Failed to save configuration") }.finish i)
  | .choosing, .failed message | .connecting _, .failed message | .reading _, .failed message =>
    some ({ w with error := some (errorText message "Failed to connect to device") }.finish i)
  | _, _ => none

end WizardState

/-- What happens to the wizard:
- a button is clicked;
- the input fields, at the two steps that have some, are changed;
- the `i`-th of the awaits of its handlers gets a response. -/
inductive WizardEvent where
  | click (button : WizardButton)
  | configure (config : WizardConfig)
  | respond (i : Nat) (response : WizardResponse)
  deriving DecidableEq, Repr

variable (mode : CommissioningMode) (bluetooth : Bool)

/-- One event, where it can happen. -/
def wizardStep (w : WizardState) : WizardEvent → Option WizardState
  | .click button => if w.isEnabled button then some (w.onClick mode bluetooth button) else none
  | .configure config =>
    if w.activeStep = 2 ∨ w.activeStep = 3 then some { w with config := config } else none
  | .respond i response =>
    w.awaits[i]?.bind fun await => w.onResponse mode i await response

/-! ## What should hold -/

/-- `b` is not a request for a device whose creation `a` reports. -/
def NotAgain (a b : Exchange) : Prop :=
  ∀ deviceId shown request, a = .created deviceId shown → b = .sent request →
    request.deviceId ≠ deviceId

/-- The wizard creates each device once. -/
structure CommissionsOnce (w : WizardState) : Prop where
  /-- (1) The step is one of the five. -/
  range : 0 ≤ w.activeStep ∧ w.activeStep ≤ 4
  /-- (2) When a create request succeeds, the wizard shows the Complete step. -/
  complete : ∀ deviceId shown, .created deviceId shown ∈ w.exchanges → shown = 4
  /-- (3) No request for the device is sent after that. -/
  once : w.exchanges.Pairwise NotAgain

/-- What is clicked and what arrives is so for the first time: Commission is not clicked for
a device that was created, and a create request succeeds at the step at which it was sent. -/
def FirstTime (w : WizardState) : WizardEvent → Prop
  | .click .commission => w.isEnabled .commission → ∀ info, w.deviceInfo = some info →
      ∀ shown, .created info.id shown ∉ w.exchanges
  | .respond i .created => (∃ request, w.awaits[i]? = some (.saving request)) → w.activeStep = 3
  | _ => True

/-- Back is not clicked while a create request is pending nor at the Complete step. -/
def NoLateBack (w : WizardState) : WizardEvent → Prop
  | .click .back => (∀ await ∈ w.awaits, await.isSaving = false) ∧ w.activeStep ≠ 4
  | _ => True

instance (w : WizardState) (e : WizardEvent) : Decidable (NoLateBack w e) :=
  match e with
  | .click .back => inferInstanceAs (Decidable (_ ∧ _))
  | .click .scan | .click .next | .click .commission | .configure _ | .respond _ _ => isTrue trivial

/-! ## The handlers and the buttons -/

/-- Where the wizard is while a handler waits: at the first step for a scan, not at the last
one for a create request, whose device is known -/
def WizardAwait.WaitsAt (w : WizardState) : WizardAwait → Prop
  | saving _ => w.activeStep ≤ 3 ∧ w.deviceInfo.isSome
  | _ => w.activeStep = 0

theorem WizardAwait.waitsAt_of_scan {await : WizardAwait} {w : WizardState}
    (h : await.isSaving = false) : await.WaitsAt w ↔ w.activeStep = 0 := by
  cases await with
  | saving request => cases h
  | _ => exact Iff.rfl

/-- What holds in all runs -/
structure WizardInv (w : WizardState) : Prop where
  /-- (1) The step is one of the five. -/
  range : 0 ≤ w.activeStep ∧ w.activeStep ≤ 4
  /-- (2) At most one handler waits, and the wizard is loading while it does. -/
  awaits : (w.loading = false ∧ w.awaits = []) ∨
    ∃ await, w.loading = true ∧ w.awaits = [await] ∧ await.WaitsAt w
  /-- (3) After the first step the device is known. -/
  known : w.activeStep ≠ 0 → w.deviceInfo.isSome

namespace WizardState

variable {mode bluetooth} {w v : WizardState}

theorem isEnabled_scan : w.isEnabled .scan = true ↔ w.activeStep = 0 ∧ w.loading = false := by
  simp [isEnabled]

theorem isEnabled_back : w.isEnabled .back = true ↔ w.activeStep ≠ 0 := by
  simp [isEnabled]

theorem isEnabled_next : w.isEnabled .next = true ↔
    w.activeStep < 4 ∧ w.activeStep ≠ 0 ∧ w.activeStep ≠ 3 ∧ w.loading = false := by
  simp [isEnabled, and_assoc]

theorem isEnabled_commission : w.isEnabled .commission = true ↔
    w.activeStep = 3 ∧ w.loading = false := by
  simp only [isEnabled, Bool.and_eq_true, decide_eq_true_eq, bne_iff_ne, beq_iff_eq,
    Bool.not_eq_true']
  constructor
  · rintro ⟨⟨-, hstep⟩, hloading⟩
    exact ⟨hstep, hloading⟩
  · rintro ⟨hstep, hloading⟩
    exact ⟨⟨⟨by omega, by omega⟩, hstep⟩, hloading⟩

/-- What a response does:
- the handler goes on to its next await;
- it ends, where it was;
- the scan is complete;
- the device is created. -/
inductive Outcome (w : WizardState) (i : Nat) :
    WizardAwait → WizardResponse → WizardState → Prop
  | goesOn {await response next device} (hawait : await.isSaving = false)
      (hnext : next.isSaving = false) (hresponse : response ≠ .created) :
      Outcome w i await response { w with device := device, awaits := w.awaits.set i next }
  | ends {await response error} (hresponse : response ≠ .created) :
      Outcome w i await response ({ w with error := error }.finish i)
  | scanned (device version) :
      Outcome w i (.reading device) (.firmware version)
        ({ w with deviceInfo := some ⟨device.name, device.id, version⟩ }.handleNext.finish i)
  | created (request) :
      Outcome w i (.saving request) .created
        ({ w.handleNext with
          exchanges :=
            w.exchanges ++ [Exchange.created request.deviceId (w.activeStep + 1)] }.finish i)

theorem outcome_of_onResponse {i : Nat} {await : WizardAwait} {response : WizardResponse}
    (h : w.onResponse mode i await response = some v) : w.Outcome i await response v := by
  cases await with
  | choosing =>
    cases response with
    | selected device =>
      obtain ⟨-, hv⟩ := Option.ite_none_right_eq_some.mp h
      cases hv
      exact .goesOn rfl rfl nofun
    | failed message =>
      cases h
      exact .ends nofun
    | _ => cases h
  | connecting device =>
    cases response with
    | connected server =>
      cases server with
      | true =>
        cases h
        exact .goesOn rfl rfl nofun
      -- a device without a GATT server ends the scan
      | false =>
        cases h
        exact .ends nofun
    | failed message =>
      cases h
      exact .ends nofun
    | _ => cases h
  | reading device =>
    cases response with
    | firmware version =>
      cases h
      exact .scanned device version
    | failed message =>
      cases h
      exact .ends nofun
    | _ => cases h
  | saving request =>
    cases response with
    | created =>
      cases h
      exact .created request
    | failed message =>
      cases h
      exact .ends nofun
    | _ => cases h

end WizardState

namespace WizardInv

variable {mode bluetooth} {w v : WizardState}

theorem awaits_of_idle (h : WizardInv w) (hloading : w.loading = false) : w.awaits = [] := by
  rcases h.awaits with ⟨-, hnone⟩ | ⟨_, hbusy, -⟩
  · exact hnone
  · rw [hloading] at hbusy
    cases hbusy

/-- The response is for the one handler that waits. -/
theorem of_respond {i : Nat} {response : WizardResponse} (h : WizardInv w)
    (hstep : wizardStep mode bluetooth w (.respond i response) = some v) :
    ∃ await, i = 0 ∧ w.awaits = [await] ∧ await.WaitsAt w ∧
      w.Outcome 0 await response v := by
  obtain ⟨await, hawait, hv⟩ := Option.bind_eq_some_iff.mp hstep
  rcases h.awaits with ⟨-, hnone⟩ | ⟨only, -, honly, hat⟩
  · rw [hnone] at hawait
    cases hawait
  · rw [honly, List.getElem?_singleton] at hawait
    obtain ⟨rfl, hsome⟩ := Option.ite_none_right_eq_some.mp hawait
    cases hsome
    exact ⟨_, rfl, honly, hat, WizardState.outcome_of_onResponse hv⟩

theorem scanForDevice (h : WizardInv w) (hstep : w.activeStep = 0) (hloading : w.loading = false) :
    WizardInv (w.scanForDevice bluetooth) := by
  have hnone := h.awaits_of_idle hloading
  cases bluetooth with
  | true =>
    refine ⟨h.range, .inr ⟨.choosing, rfl, ?_, hstep⟩, h.known⟩
    simp [WizardState.scanForDevice, hnone]
  | false => exact ⟨h.range, .inl ⟨rfl, hnone⟩, h.known⟩

theorem handleBack (h : WizardInv w) (hstep : w.activeStep ≠ 0) : WizardInv w.handleBack := by
  have hrange := h.range
  refine ⟨?_, ?_, fun _ => h.known hstep⟩
  · simp only [WizardState.handleBack]
    omega
  · refine h.awaits.imp_right ?_
    rintro ⟨await, hloading, honly, hat⟩
    refine ⟨await, hloading, honly, ?_⟩
    cases await with
    | saving request =>
      refine ⟨?_, hat.2⟩
      have hle := hat.1
      simp only [WizardState.handleBack]
      omega
    -- A scan does not wait after the first step.
    | _ => exact absurd hat hstep

theorem handleNext (h : WizardInv w) (hlt : w.activeStep < 4) (hstep : w.activeStep ≠ 0)
    (hloading : w.loading = false) : WizardInv w.handleNext := by
  have hrange := h.range
  refine ⟨?_, .inl ⟨hloading, h.awaits_of_idle hloading⟩, fun _ => h.known hstep⟩
  simp only [WizardState.handleNext]
  omega

/-- At the step with the Commission button the device is known: a request is sent. -/
theorem saveConfiguration_eq (mode : CommissioningMode) (h : WizardInv w)
    (hstep : w.activeStep = 3) :
    ∃ info, w.deviceInfo = some info ∧ w.saveConfiguration mode =
      { w with
        loading := true
        error := none
        awaits := w.awaits ++ [.saving (createRequest mode info w.config)]
        exchanges := w.exchanges ++ [.sent (createRequest mode info w.config)] } := by
  obtain ⟨info, hinfo⟩ := Option.isSome_iff_exists.mp (h.known (by omega))
  refine ⟨info, hinfo, ?_⟩
  simp only [WizardState.saveConfiguration, hinfo]

theorem saveConfiguration (mode : CommissioningMode) (h : WizardInv w) (hstep : w.activeStep = 3)
    (hloading : w.loading = false) : WizardInv (w.saveConfiguration mode) := by
  obtain ⟨info, -, heq⟩ := h.saveConfiguration_eq mode hstep
  rw [heq]
  refine ⟨h.range, .inr ⟨.saving (createRequest mode info w.config), rfl, ?_, ?_⟩, h.known⟩
  · simp only [h.awaits_of_idle hloading, List.nil_append]
  · exact ⟨by simp [hstep], h.known (by omega)⟩

theorem click {button : WizardButton} (h : WizardInv w) (henabled : w.isEnabled button = true) :
    WizardInv (w.onClick mode bluetooth button) := by
  cases button with
  | scan =>
    obtain ⟨hstep, hloading⟩ := WizardState.isEnabled_scan.mp henabled
    exact h.scanForDevice hstep hloading
  | back => exact h.handleBack (WizardState.isEnabled_back.mp henabled)
  | next =>
    obtain ⟨hlt, hstep, -, hloading⟩ := WizardState.isEnabled_next.mp henabled
    exact h.handleNext hlt hstep hloading
  | commission =>
    obtain ⟨hstep, hloading⟩ := WizardState.isEnabled_commission.mp henabled
    exact h.saveConfiguration mode hstep hloading

theorem respond {await : WizardAwait} {response : WizardResponse} (h : WizardInv w)
    (honly : w.awaits = [await]) (hat : await.WaitsAt w)
    (hout : w.Outcome 0 await response v) : WizardInv v := by
  have hnone : w.awaits.eraseIdx 0 = [] := by
    rw [honly]
    rfl
  have hrange := h.range
  cases hout with
  | @goesOn await response next device hawait hnext hresponse =>
    have hloading : w.loading = true := by
      rcases h.awaits with ⟨-, hempty⟩ | ⟨_, hbusy, -⟩
      · rw [honly] at hempty
        cases hempty
      · exact hbusy
    refine ⟨h.range, .inr ⟨next, hloading, ?_, ?_⟩, h.known⟩
    · simp only [honly, List.set_cons_zero]
    · rw [WizardAwait.waitsAt_of_scan hnext]
      exact (WizardAwait.waitsAt_of_scan hawait).mp hat
  | ends hresponse => exact ⟨h.range, .inl ⟨rfl, hnone⟩, h.known⟩
  | scanned device version =>
    have hzero : w.activeStep = 0 := hat
    refine ⟨?_, .inl ⟨rfl, hnone⟩, fun _ => rfl⟩
    simp only [WizardState.finish, WizardState.handleNext]
    omega
  | created request =>
    have hle := hat.1
    refine ⟨?_, .inl ⟨rfl, hnone⟩, fun _ => hat.2⟩
    simp only [WizardState.finish, WizardState.handleNext]
    omega

/-- **What holds in all runs is kept by each event.** -/
theorem step {e : WizardEvent} (h : WizardInv w)
    (hstep : wizardStep mode bluetooth w e = some v) : WizardInv v := by
  cases e with
  | click button =>
    obtain ⟨henabled, hv⟩ := Option.ite_none_right_eq_some.mp hstep
    cases hv
    exact h.click henabled
  | configure config =>
    obtain ⟨-, hv⟩ := Option.ite_none_right_eq_some.mp hstep
    cases hv
    exact ⟨h.range, h.awaits, h.known⟩
  | respond i response =>
    obtain ⟨await, rfl, honly, hat, hout⟩ := h.of_respond hstep
    exact h.respond honly hat hout

theorem initial : WizardInv {} := ⟨by decide, .inl ⟨rfl, rfl⟩, by decide⟩

end WizardInv

/-! ## One event -/

variable {mode bluetooth} {w v : WizardState}

theorem createRequest_deviceId (info : DeviceInfo) (config : WizardConfig) :
    (createRequest mode info config).deviceId = info.id := by
  cases mode <;> rfl

/-- Where nothing is exchanged, nothing changes. -/
theorem CommissionsOnce.of_exchanges (h : CommissionsOnce w) (hinv : WizardInv v)
    (heq : v.exchanges = w.exchanges) : CommissionsOnce v := by
  refine ⟨hinv.range, ?_, ?_⟩
  · rw [heq]
    exact h.complete
  · rw [heq]
    exact h.once

/-- A request more is for a device that was not created. -/
theorem commissionsOnce_sent {request : CreateRequest} (h : CommissionsOnce w)
    (hinv : WizardInv v) (heq : v.exchanges = w.exchanges ++ [.sent request]) :
    CommissionsOnce v ↔ ∀ shown, .created request.deviceId shown ∉ w.exchanges := by
  constructor
  · intro hv shown hmem
    have honce := hv.once
    rw [heq] at honce
    exact (List.pairwise_append.mp honce).2.2 _ hmem _ (List.mem_singleton_self _) _ _ _ rfl rfl rfl
  · intro hnew
    refine ⟨hinv.range, ?_, ?_⟩
    · intro deviceId shown hmem
      rw [heq] at hmem
      rcases List.mem_append.mp hmem with hmem | hmem
      · exact h.complete deviceId shown hmem
      · simp at hmem
    · rw [heq]
      refine List.pairwise_append.mpr ⟨h.once, List.pairwise_singleton _ _, ?_⟩
      rintro a ha b hb deviceId shown request' rfl rfl rfl
      cases List.mem_singleton.mp hb
      exact hnew shown ha

/-- A device more is created with the Complete step shown. -/
theorem commissionsOnce_created {deviceId : String} {shown : Int} (h : CommissionsOnce w)
    (hinv : WizardInv v) (heq : v.exchanges = w.exchanges ++ [.created deviceId shown]) :
    CommissionsOnce v ↔ shown = 4 := by
  constructor
  · intro hv
    refine hv.complete deviceId shown ?_
    rw [heq]
    exact List.mem_append_right _ (List.mem_singleton_self _)
  · rintro rfl
    refine ⟨hinv.range, ?_, ?_⟩
    · intro deviceId' shown' hmem
      rw [heq] at hmem
      rcases List.mem_append.mp hmem with hmem | hmem
      · exact h.complete deviceId' shown' hmem
      · cases List.mem_singleton.mp hmem
        rfl
    · rw [heq]
      refine List.pairwise_append.mpr ⟨h.once, List.pairwise_singleton _ _, ?_⟩
      rintro a - b hb deviceId' shown' request rfl rfl
      cases List.mem_singleton.mp hb

/-- Nothing is exchanged at a response that creates nothing. -/
theorem WizardState.Outcome.exchanges_eq {i : Nat} {await : WizardAwait}
    {response : WizardResponse} (h : w.Outcome i await response v)
    (hresponse : response ≠ .created) : v.exchanges = w.exchanges := by
  cases h with
  | created request => exact absurd rfl hresponse
  | _ => rfl

theorem scanForDevice_exchanges : (w.scanForDevice bluetooth).exchanges = w.exchanges := by
  cases bluetooth <;> rfl

/-- The Commission button keeps devices created once iff it is clicked for one that was not
created. -/
theorem commissionsOnce_commission (hinv : WizardInv w) (h : CommissionsOnce w)
    (henabled : w.isEnabled .commission = true) :
    CommissionsOnce (w.saveConfiguration mode) ↔ FirstTime w (.click .commission) := by
  obtain ⟨hstep, hloading⟩ := WizardState.isEnabled_commission.mp henabled
  obtain ⟨info, hinfo, heq⟩ := hinv.saveConfiguration_eq mode hstep
  have hsent := commissionsOnce_sent h (hinv.saveConfiguration mode hstep hloading)
    (congrArg WizardState.exchanges heq)
  rw [createRequest_deviceId] at hsent
  rw [hsent]
  constructor
  · intro hnew _ info' hinfo'
    rw [hinfo] at hinfo'
    cases hinfo'
    exact hnew
  · intro hfirst
    exact hfirst henabled info hinfo

/-- A response keeps devices created once iff, where a device is created, the wizard is at the
step at which its request was sent. -/
theorem commissionsOnce_respond {await : WizardAwait} {response : WizardResponse}
    (hinv' : WizardInv v) (h : CommissionsOnce w) (honly : w.awaits = [await])
    (hout : w.Outcome 0 await response v) :
    CommissionsOnce v ↔ FirstTime w (.respond 0 response) := by
  by_cases hresponse : response = .created
  · subst hresponse
    cases hout with
    | goesOn _ _ hne => exact absurd rfl hne
    | ends hne => exact absurd rfl hne
    | created request =>
      rw [commissionsOnce_created h hinv' rfl]
      have hawait : w.awaits[0]? = some (.saving request) := by
        rw [honly]
        rfl
      constructor
      · intro hshown _
        omega
      · intro hfirst
        have hthree := hfirst ⟨request, hawait⟩
        omega
  · -- nothing is created
    refine iff_of_true (h.of_exchanges hinv' (hout.exchanges_eq hresponse)) ?_
    cases response with
    | created => exact absurd rfl hresponse
    | _ => trivial

/-- **An event keeps devices created once iff what it does is done for the first time.** -/
theorem commissionsOnce_step {e : WizardEvent} (hinv : WizardInv w) (h : CommissionsOnce w)
    (hstep : wizardStep mode bluetooth w e = some v) : CommissionsOnce v ↔ FirstTime w e := by
  have hinv' := hinv.step hstep
  cases e with
  | click button =>
    obtain ⟨henabled, hv⟩ := Option.ite_none_right_eq_some.mp hstep
    cases hv
    cases button with
    | scan => exact iff_of_true (h.of_exchanges hinv' scanForDevice_exchanges) trivial
    | back => exact iff_of_true (h.of_exchanges hinv' rfl) trivial
    | next => exact iff_of_true (h.of_exchanges hinv' rfl) trivial
    | commission => exact commissionsOnce_commission hinv h henabled
  | configure config =>
    obtain ⟨-, hv⟩ := Option.ite_none_right_eq_some.mp hstep
    cases hv
    exact iff_of_true (h.of_exchanges hinv' rfl) trivial
  | respond i response =>
    obtain ⟨await, rfl, honly, -, hout⟩ := hinv.of_respond hstep
    exact commissionsOnce_respond hinv' h honly hout

theorem commissionsOnce_initial : CommissionsOnce {} :=
  ⟨by decide, fun _ _ hmem => absurd hmem List.not_mem_nil, List.Pairwise.nil⟩

/-! ## Runs -/

variable {events : List WizardEvent}

/-- **The step is one of the five in all runs.** -/
theorem activeStep_range (hrun : run (wizardStep mode bluetooth) {} events = some w) :
    0 ≤ w.activeStep ∧ w.activeStep ≤ 4 :=
  (run_inv WizardInv.initial (fun _ _ _ h hstep => h.step hstep) hrun).range

/-- **Each device is created once, in all states of a run, iff everything in it is done for
the first time.** -/
theorem commissionsOnce_iff (hrun : run (wizardStep mode bluetooth) {} events = some w) :
    (∀ k v, run (wizardStep mode bluetooth) {} (events.take k) = some v → CommissionsOnce v) ↔
      Along (wizardStep mode bluetooth) FirstTime {} events :=
  prefixes_iff_along (J := WizardInv) commissionsOnce_initial WizardInv.initial
    (fun _ _ _ h hstep => h.step hstep)
    (fun _ _ _ hinv h hstep => commissionsOnce_step hinv h hstep) hrun

/-! ## Runs without a late Back -/

/-- What holds as long as Back is not clicked too late -/
structure Orderly (w : WizardState) : Prop extends WizardInv w where
  /-- (4) A create request waits at the step at which it was sent. -/
  saving : ∀ request, .saving request ∈ w.awaits → w.activeStep = 3
  /-- (5) After the first one that succeeded the wizard stays at the Complete step. -/
  done : ∀ deviceId shown, .created deviceId shown ∈ w.exchanges →
    w.activeStep = 4 ∧ w.awaits = []

namespace Orderly

/-- Nothing was created before the Complete step. -/
theorem not_created (h : Orderly w) (hstep : w.activeStep ≠ 4) (deviceId : String) (shown : Int) :
    .created deviceId shown ∉ w.exchanges :=
  fun hmem => hstep (h.done deviceId shown hmem).1

theorem not_created_of_awaits {await : WizardAwait} (h : Orderly w) (honly : w.awaits = [await])
    (deviceId : String) (shown : Int) : .created deviceId shown ∉ w.exchanges := by
  intro hmem
  have hnone := (h.done deviceId shown hmem).2
  rw [honly] at hnone
  cases hnone

/-- No handler waits, and nothing new was created. -/
theorem of_idle (hinv : WizardInv v) (hidle : v.awaits = [])
    (hnew : ∀ deviceId shown, .created deviceId shown ∉ v.exchanges) : Orderly v := by
  refine ⟨hinv, ?_, fun deviceId shown hmem => absurd hmem (hnew deviceId shown)⟩
  intro request hmem
  rw [hidle] at hmem
  cases hmem

theorem scanForDevice (h : Orderly w) (hstep : w.activeStep = 0) (hloading : w.loading = false) :
    Orderly (w.scanForDevice bluetooth) := by
  have hnone := h.awaits_of_idle hloading
  refine ⟨h.toWizardInv.scanForDevice hstep hloading, ?_, ?_⟩
  · intro request hmem
    cases bluetooth <;> simp [WizardState.scanForDevice, hnone] at hmem
  · intro deviceId shown hmem
    rw [scanForDevice_exchanges] at hmem
    exact absurd hmem (h.not_created (by omega) deviceId shown)

theorem handleBack (h : Orderly w) (hstep : w.activeStep ≠ 0)
    (hback : NoLateBack w (.click .back)) : Orderly w.handleBack := by
  refine ⟨h.toWizardInv.handleBack hstep, ?_, ?_⟩
  · intro request hmem
    exact absurd (hback.1 _ hmem) (by simp [WizardAwait.isSaving])
  · intro deviceId shown hmem
    exact absurd hmem (h.not_created hback.2 deviceId shown)

theorem saveConfiguration (mode : CommissioningMode) (h : Orderly w) (hstep : w.activeStep = 3)
    (hloading : w.loading = false) : Orderly (w.saveConfiguration mode) := by
  have hinv := h.toWizardInv.saveConfiguration mode hstep hloading
  obtain ⟨info, -, heq⟩ := h.saveConfiguration_eq mode hstep
  rw [heq] at hinv ⊢
  refine ⟨hinv, fun _ _ => hstep, ?_⟩
  intro deviceId shown hmem
  rcases List.mem_append.mp hmem with hmem | hmem
  · exact absurd hmem (h.not_created (by omega) deviceId shown)
  · simp at hmem

theorem click {button : WizardButton} (h : Orderly w) (henabled : w.isEnabled button = true)
    (hback : NoLateBack w (.click button)) : Orderly (w.onClick mode bluetooth button) := by
  cases button with
  | scan =>
    obtain ⟨hstep, hloading⟩ := WizardState.isEnabled_scan.mp henabled
    exact h.scanForDevice hstep hloading
  | back => exact h.handleBack (WizardState.isEnabled_back.mp henabled) hback
  | next =>
    obtain ⟨hlt, hstep, -, hloading⟩ := WizardState.isEnabled_next.mp henabled
    exact of_idle (h.toWizardInv.handleNext hlt hstep hloading) (h.awaits_of_idle hloading)
      (h.not_created (by omega))
  | commission =>
    obtain ⟨hstep, hloading⟩ := WizardState.isEnabled_commission.mp henabled
    exact h.saveConfiguration mode hstep hloading

theorem respond {await : WizardAwait} {response : WizardResponse} (h : Orderly w)
    (honly : w.awaits = [await]) (hinv : WizardInv v) (hout : w.Outcome 0 await response v) :
    Orderly v := by
  have hnone : w.awaits.eraseIdx 0 = [] := by
    rw [honly]
    rfl
  have hnew := h.not_created_of_awaits honly
  cases hout with
  | @goesOn _ _ next _ hawait hnext hresponse =>
    refine ⟨hinv, ?_, fun deviceId shown hmem => absurd hmem (hnew deviceId shown)⟩
    intro request hmem
    simp only [honly, List.set_cons_zero, List.mem_singleton] at hmem
    subst hmem
    cases hnext
  | ends hresponse => exact of_idle hinv hnone hnew
  | scanned device version => exact of_idle hinv hnone hnew
  | created request =>
    have hthree := h.saving request (by simp [honly])
    have hfour : w.activeStep + 1 = 4 := by omega
    refine ⟨hinv, ?_, fun _ _ _ => ⟨hfour, hnone⟩⟩
    intro request' hmem
    have hmem' : .saving request' ∈ w.awaits.eraseIdx 0 := hmem
    rw [hnone] at hmem'
    cases hmem'

theorem step {e : WizardEvent} (h : Orderly w) (hback : NoLateBack w e)
    (hstep : wizardStep mode bluetooth w e = some v) : Orderly v := by
  have hinv := h.toWizardInv.step hstep
  cases e with
  | click button =>
    obtain ⟨henabled, hv⟩ := Option.ite_none_right_eq_some.mp hstep
    cases hv
    exact h.click henabled hback
  | configure config =>
    obtain ⟨-, hv⟩ := Option.ite_none_right_eq_some.mp hstep
    cases hv
    exact ⟨hinv, h.saving, h.done⟩
  | respond i response =>
    obtain ⟨await, rfl, honly, -, hout⟩ := h.toWizardInv.of_respond hstep
    exact h.respond honly hinv hout

/-- Everything that can be done then is done for the first time. -/
theorem firstTime {e : WizardEvent} (h : Orderly w) : FirstTime w e := by
  cases e with
  | click button =>
    cases button with
    | commission =>
      intro henabled info _
      have hstep := (WizardState.isEnabled_commission.mp henabled).1
      exact h.not_created (by omega) info.id
    | _ => trivial
  | configure config => trivial
  | respond i response =>
    cases response with
    | created =>
      rintro ⟨request, hawait⟩
      exact h.saving request (List.mem_of_getElem? hawait)
    | _ => trivial

end Orderly

theorem orderly_initial : Orderly {} :=
  Orderly.of_idle WizardInv.initial rfl fun _ _ => List.not_mem_nil

/-- **Where Back is not clicked while a create request is pending nor at the Complete step,
everything is done for the first time.** -/
theorem firstTime_of_noLateBack (hback : Along (wizardStep mode bluetooth) NoLateBack {} events) :
    Along (wizardStep mode bluetooth) FirstTime {} events :=
  along_of_inv orderly_initial (fun _ _ _ h hC hstep => h.step hC hstep)
    (fun _ _ h _ => h.firstTime) hback

/-- **The commissioning wizard, in all runs**: the step is one of the five; each device is
created once iff everything is done for the first time; and that is so in the runs without a
late Back. -/
theorem commissioningWizard_runs (hrun : run (wizardStep mode bluetooth) {} events = some w) :
    (∀ k v, run (wizardStep mode bluetooth) {} (events.take k) = some v →
      0 ≤ v.activeStep ∧ v.activeStep ≤ 4) ∧
    ((∀ k v, run (wizardStep mode bluetooth) {} (events.take k) = some v →
      CommissionsOnce v) ↔ Along (wizardStep mode bluetooth) FirstTime {} events) ∧
    (Along (wizardStep mode bluetooth) NoLateBack {} events →
      Along (wizardStep mode bluetooth) FirstTime {} events) :=
  ⟨fun _ _ hv => activeStep_range hv, commissionsOnce_iff hrun, firstTime_of_noLateBack⟩

/-! ## A hub -/

def scannedHub : BluetoothDevice := ⟨"hub-id", "HUB-7", []⟩

/-- The hub is connected, and the Commission button is clicked. -/
def commissionHub : List WizardEvent :=
  [.click .scan, .respond 0 (.selected scannedHub), .respond 0 (.connected true),
    .respond 0 (.firmware "1.0.0"), .click .next, .configure { siteId := "site-1" },
    .click .next, .click .commission]

/-- The wizard with this hub at a step, after these exchanges -/
def hubWizard (step : Int) (loading : Bool) (awaits : List WizardAwait)
    (exchanges : List Exchange) : WizardState where
  activeStep := step
  loading := loading
  device := some scannedHub
  deviceInfo := some ⟨"HUB-7", "hub-id", "1.0.0"⟩
  config := { siteId := "site-1" }
  awaits := awaits
  exchanges := exchanges

def hubRequest : CreateRequest := .hub "hub-id" "site-1" "commissioned"

theorem commissionHub_run :
    run (wizardStep .hub true) {} (commissionHub ++ [.respond 0 .created]) =
      some (hubWizard 4 false [] [.sent hubRequest, .created "hub-id" 4]) := by
  decide +kernel

/-- Without a Back at all the hub is created once. -/
theorem commissionHub_once :
    CommissionsOnce (hubWizard 4 false [] [.sent hubRequest, .created "hub-id" 4]) := by
  have hruns := commissioningWizard_runs commissionHub_run
  exact hruns.2.1.mpr (hruns.2.2 (by decide +kernel)) 9 _ commissionHub_run

/-- Back is clicked while the create request is pending: the hub is created, and the wizard
shows the step with the Commission button. Back is clicked at the Complete step: the hub is
created again. -/
theorem back_breaks_commissionsOnce :
    (∃ w, run (wizardStep .hub true) {}
        (commissionHub ++ [.click .back, .respond 0 .created]) = some w ∧
      w.activeStep = 3 ∧ ¬ CommissionsOnce w) ∧
    ∃ w, run (wizardStep .hub true) {}
        (commissionHub ++ [.respond 0 .created, .click .back, .click .commission]) = some w ∧
      ¬ CommissionsOnce w := by
  constructor
  · refine ⟨hubWizard 3 false [] [.sent hubRequest, .created "hub-id" 3],
      by decide +kernel, rfl, ?_⟩
    intro h
    have hshown := h.complete "hub-id" 3 (by simp [hubWizard])
    omega
  · refine ⟨hubWizard 3 true [.saving hubRequest]
      [.sent hubRequest, .created "hub-id" 4, .sent hubRequest], by decide +kernel, ?_⟩
    intro h
    have honce := (List.pairwise_cons.mp (List.pairwise_cons.mp h.once).2).1
    exact honce (.sent hubRequest) (by simp) "hub-id" 4 hubRequest rfl rfl rfl

end SensorNet.Web
