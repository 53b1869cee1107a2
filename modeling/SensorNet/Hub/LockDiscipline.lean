import SensorNet.Hub.JobExecutor
import SensorNet.Hub.NodeManager
import SensorNet.Hub.ConnectionManager
import SensorNet.Hub.GattClient
import SensorNet.Lib.Run

/-!
# Lock discipline on the hub

The four modules of the hub, their public operations and the stack's callbacks,
run one after another by one thread. Every operation should give back the
mutexes it takes and unlock nothing it does not hold, so that it leaves the
kernel as it was (`Balanced`).

- `afterJobOp_kernel`, `afterNodeOp_kernel`, `afterConnOp_kernel`,
  `afterGattOp_kernel`: what each operation does to the kernel, in any state. All
  leave it alone, but for the initialisations and for a `job_executor_process`
  that finds a queued job.
- `lockDiscipline_iff`: a run is balanced at every call and ends with no mutex
  held iff no `job_executor_process` call of it found a queued job.
-/

namespace SensorNet.Hub

open Fw

/-- All static data of the hub firmware, and the kernel. -/
structure HubState where
  jobs : JobExecutor
  nodes : NodeManager
  conns : ConnectionManager
  gatt : GattClient
  kernel : Kernel

/-! ## The public operations -/

/-- The operations of `job_executor.h`. -/
inductive JobOp where
  | init
  | queue (type : JobType) (addr : BtAddrLe) (payload : Option (List UInt8))
      (len : UInt16) (uptime : UInt32) (malloc : Bool)
  | process (startUptime endUptime : UInt32)
  | getPendingCount
  | cancel (jobId : UInt32)
  | get (jobId : UInt32)

/-- The operations of `node_manager.h`. -/
inductive NodeOp where
  | init
  | addNode (addr : BtAddrLe) (rssi : Int8) (advData : Option (List UInt8))
      (len : UInt8) (uptime : UInt32)
  | getByAddr (addr : BtAddrLe)
  | getByIndex (index : Int)
  | updateConnection (addr : BtAddrLe) (conn : Option BtConn)
  | updateReading (addr : BtAddrLe) (reading uptime : UInt32)
  | updateBattery (addr : BtAddrLe) (batteryLevel : UInt8)
  | bindNode (addr : BtAddrLe)
  | getCount
  | getConnectedCount
  | getById (nodeId : List UInt8)
  | updateFaults (addr : BtAddrLe) (faultFlags : UInt32)
  | unbindNode (addr : BtAddrLe)
  | clearStale (timeoutMs : UInt32)

/-- The operations of `connection_manager.h`, and its callbacks. -/
inductive ConnOp where
  | init
  | connect (addr : BtAddrLe) (timeoutSec : UInt32) (create : Except Int BtConn)
  | disconnect (conn : Option BtConn) (err : Int)
  | getCount
  | connected (conn : BtConn) (err : UInt8)
  | disconnected (conn : BtConn) (reason : UInt8)

/-- A call into the hub firmware. -/
inductive HubOp where
  | job (op : JobOp)
  | node (op : NodeOp)
  | conn (op : ConnOp)
  | gatt (op : GattOp)

/-- The state after a call of the job executor. -/
def afterJobOp (s : Fw.State JobExecutor) : JobOp → Fw.State JobExecutor
  | .init => (jobExecutorInit.run s).2
  | .queue type addr payload len uptime malloc =>
    ((jobExecutorQueue type addr payload len uptime malloc).run s).2
  | .process startUptime endUptime => ((jobExecutorProcess startUptime endUptime).run s).2
  | .getPendingCount => (jobExecutorGetPendingCount.run s).2
  | .cancel jobId => ((jobExecutorCancel jobId).run s).2
  | .get jobId => ((jobExecutorGet jobId).run s).2

/-- The state after a call of the node manager. -/
def afterNodeOp (s : Fw.State NodeManager) : NodeOp → Fw.State NodeManager
  | .init => (nodeManagerInit.run s).2
  | .addNode addr rssi advData len uptime =>
    ((nodeManagerAddNode addr rssi advData len uptime).run s).2
  | .getByAddr addr => ((nodeManagerGetByAddr addr).run s).2
  | .getByIndex index => ((nodeManagerGetByIndex index).run s).2
  | .updateConnection addr conn => ((nodeManagerUpdateConnection addr conn).run s).2
  | .updateReading addr reading uptime =>
    ((nodeManagerUpdateReading addr reading uptime).run s).2
  | .updateBattery addr batteryLevel =>
    ((nodeManagerUpdateBattery addr batteryLevel).run s).2
  | .bindNode addr => ((nodeManagerBindNode addr).run s).2
  | .getCount => (nodeManagerGetCount.run s).2
  | .getConnectedCount => (nodeManagerGetConnectedCount.run s).2
  | .getById nodeId => ((nodeManagerGetById nodeId).run s).2
  | .updateFaults addr faultFlags => ((nodeManagerUpdateFaults addr faultFlags).run s).2
  | .unbindNode addr => ((nodeManagerUnbindNode addr).run s).2
  | .clearStale timeoutMs => ((nodeManagerClearStale timeoutMs).run s).2

/-- The state after a call of the connection manager. -/
def afterConnOp (s : Fw.State ConnectionManager) : ConnOp → Fw.State ConnectionManager
  | .init => (connectionManagerInit.run s).2
  | .connect addr timeoutSec create =>
    ((connectionManagerConnect addr timeoutSec create).run s).2
  | .disconnect conn err => ((connectionManagerDisconnect conn err).run s).2
  | .getCount => (connectionManagerGetCount.run s).2
  | .connected conn err => ((connectedCb conn err).run s).2
  | .disconnected conn reason => ((disconnectedCb conn reason).run s).2

/-- The state after a call of the GATT client. -/
def afterGattOp (s : Fw.State GattClient) (op : GattOp) : Fw.State GattClient :=
  (op.op.run s).2

namespace HubState

/-- The state after a call. -/
def after (h : HubState) : HubOp → HubState
  | .job op => let s := afterJobOp ⟨h.jobs, h.kernel⟩ op
    { h with jobs := s.data, kernel := s.kernel }
  | .node op => let s := afterNodeOp ⟨h.nodes, h.kernel⟩ op
    { h with nodes := s.data, kernel := s.kernel }
  | .conn op => let s := afterConnOp ⟨h.conns, h.kernel⟩ op
    { h with conns := s.data, kernel := s.kernel }
  | .gatt op => let s := afterGattOp ⟨h.gatt, h.kernel⟩ op
    { h with gatt := s.data, kernel := s.kernel }

/-- Static data at power-up. -/
def boot : HubState :=
  ⟨⟨fun _ => {}, 1⟩, ⟨fun _ => {}⟩, ⟨fun _ => {}, []⟩, ⟨fun _ => {}, [], []⟩, .boot⟩

/-- The state after a run of calls. -/
def afterAll (calls : List HubOp) : HubState := calls.foldl after boot

/-- No mutex is held. -/
def NoneHeld (h : HubState) : Prop := ∀ m, h.kernel.lockCount m = 0

end HubState

/-! ## The discipline -/

/-- The call returns with the lock count of every mutex as it was at entry, and
unlocks no mutex it does not hold. -/
structure Balanced (h : HubState) (op : HubOp) : Prop where
  lockCount : ∀ m, (h.after op).kernel.lockCount m = h.kernel.lockCount m
  refused : (h.after op).kernel.refused = h.kernel.refused

/-- The call is no `job_executor_process` that finds a queued job. -/
def RunsNoJob (h : HubState) (op : HubOp) : Prop :=
  ∀ startUptime endUptime, op = .job (.process startUptime endUptime) →
    ∀ i, (h.jobs.jobs i).isQueued = false

/-- The mutex an initialisation resets. -/
def HubOp.initialises : HubOp → Option Mutex
  | .job .init => some .jobMutex
  | .node .init => some .nodeMutex
  | .conn .init => some .connMutex
  | .gatt .init => some .gattMutex
  | _ => none

theorem balanced_iff_kernel {h : HubState} {op : HubOp} :
    Balanced h op ↔ (h.after op).kernel = h.kernel := by
  constructor
  · intro hb
    exact Kernel.ext (funext hb.lockCount) hb.refused
  · intro he
    exact ⟨fun m => by rw [he], by rw [he]⟩

/-! ## What each operation does to the kernel -/

/-- An initialisation resets its mutex, a `job_executor_process` that finds a
queued job keeps `job_mutex` and unlocks `node_mutex`; every other operation of
the job executor leaves the kernel as it was. -/
theorem afterJobOp_kernel (d : JobExecutor) (k : Kernel) (op : JobOp) :
    (afterJobOp ⟨d, k⟩ op).kernel =
      match op with
      | .init => k.initMutex .jobMutex
      | .process _ _ =>
        if (firstSlot Job.isQueued d.jobs).isSome then
          (k.lock .jobMutex).unlock .nodeMutex
        else k
      | _ => k := by
  cases op with
  | init => rw [afterJobOp, jobExecutorInit_run]
  | queue type addr payload len uptime malloc =>
    rw [afterJobOp, jobExecutorQueue_run]
    cases firstSlot (fun j : Job => !j.valid) d.jobs <;> rfl
  | process startUptime endUptime =>
    rw [afterJobOp, jobExecutorProcess_run]
    cases firstSlot Job.isQueued d.jobs <;> rfl
  | getPendingCount => rw [afterJobOp, jobExecutorGetPendingCount_run]
  | cancel jobId => rfl
  | get jobId => rfl

theorem afterNodeOp_kernel (d : NodeManager) (k : Kernel) (op : NodeOp) :
    (afterNodeOp ⟨d, k⟩ op).kernel =
      match op with
      | .init => k.initMutex .nodeMutex
      | _ => k := by
  -- the four updates lock once and unlock once, found or not
  have hupdate : ∀ addr f, ((updateByAddr addr f).run ⟨d, k⟩).2.kernel = k := by
    intro addr f
    rw [updateByAddr_run]
    cases d.find addr <;> rfl
  cases op with
  | init => rw [afterNodeOp, nodeManagerInit_run]
  | addNode addr rssi advData len uptime =>
    rw [afterNodeOp, nodeManagerAddNode_run]
    cases d.find addr with
    | some i => rfl
    | none => cases firstSlot (fun n : NodeInfo => !n.valid) d.nodes <;> rfl
  | getByAddr addr => rw [afterNodeOp, nodeManagerGetByAddr_run]
  | getByIndex index =>
    rw [afterNodeOp, nodeManagerGetByIndex]
    by_cases h : 0 ≤ index ∧ index.toNat < maxNodes
    · rw [dif_pos h]
      simp
    · rw [dif_neg h]
      simp
  | updateConnection addr conn => exact hupdate addr _
  | updateReading addr reading uptime => exact hupdate addr _
  | updateBattery addr batteryLevel => exact hupdate addr _
  | bindNode addr => exact hupdate addr _
  | getCount => rw [afterNodeOp, nodeManagerGetCount, countNodes_run]
  | getConnectedCount => rw [afterNodeOp, nodeManagerGetConnectedCount, countNodes_run]
  | getById nodeId => rfl
  | updateFaults addr faultFlags => rfl
  | unbindNode addr => rfl
  | clearStale timeoutMs => rfl

theorem afterConnOp_kernel (d : ConnectionManager) (k : Kernel) (op : ConnOp) :
    (afterConnOp ⟨d, k⟩ op).kernel =
      match op with
      | .init => k.initMutex .connMutex
      | _ => k := by
  cases op with
  | init => rw [afterConnOp, connectionManagerInit_run]
  | connect addr timeoutSec create =>
    exact connectionManagerConnect_kernel addr timeoutSec create d k
  | disconnect conn err => rfl
  | getCount => rw [afterConnOp, connectionManagerGetCount_run]
  | connected conn err => rfl
  | disconnected conn reason =>
    rw [afterConnOp, disconnectedCb_run]
    cases firstSlot (fun e : ConnectionEntry => e.conn == some conn) d.connections <;> rfl

theorem afterGattOp_kernel (d : GattClient) (k : Kernel) (op : GattOp) :
    (afterGattOp ⟨d, k⟩ op).kernel =
      match op with
      | .init => k.initMutex .gattMutex
      | _ => k := by
  cases op with
  | init =>
    show (gattClientInit.run ⟨d, k⟩).2.kernel = _
    rw [gattClientInit_run]
  | discover conn cb err =>
    show ((gattClientDiscover conn cb err).run ⟨d, k⟩).2.kernel = k
    rw [gattClientDiscover_run]
    cases d.slotOf conn <;> rfl
  | read conn uuid cb err =>
    show ((gattClientRead conn uuid cb err).run ⟨d, k⟩).2.kernel = k
    rw [gattClientRead_run]
    cases d.slotOf conn with
    | none => rfl
    | some i => by_cases h : (d.contexts i).readHandle uuid = 0 <;> simp [h]
  | write conn uuid data length cb err =>
    show ((gattClientWrite conn uuid data length cb err).run ⟨d, k⟩).2.kernel = k
    rw [gattClientWrite_run]
    cases d.slotOf conn with
    | none => rfl
    | some i => by_cases h : (d.contexts i).writeHandle uuid = 0 <;> simp [h]
  | subscribe conn uuid cb err =>
    show ((gattClientSubscribe conn uuid cb err).run ⟨d, k⟩).2.kernel = k
    rw [gattClientSubscribe_run]
    cases d.slotOf conn with
    | none => rfl
    | some i => by_cases h : (d.contexts i).subscribeHandle uuid = 0 <;> simp [h]
  | unsubscribe conn uuid err =>
    show ((gattClientUnsubscribe conn uuid err).run ⟨d, k⟩).2.kernel = k
    rw [gattClientUnsubscribe_run]
    cases d.slotOf conn with
    | none => rfl
    | some i =>
      -- `release_context` locks and unlocks too
      by_cases herr : err = 0
      · simp only [herr, if_true, releaseContext_run]
        split <;> rfl
      · simp only [herr, if_false]
  | discoverFunc conn attr =>
    show ((discoverFunc conn attr).run ⟨d, k⟩).2.kernel = k
    cases attr with
    | none =>
      rw [discoverFunc_done_run]
      cases d.slotOf conn <;> rfl
    | some chrc =>
      rw [discoverFunc_attr_run]
      cases d.slotOf conn <;> rfl
  | readFunc conn err data length =>
    obtain ⟨calls, h⟩ := readFunc_run conn err data length d k
    show ((readFunc conn err data length).run ⟨d, k⟩).2.kernel = k
    rw [h]
    cases d.slotOf conn <;> rfl
  | notifyFunc conn params data length =>
    show ((notifyFunc conn params data length).run ⟨d, k⟩).2.kernel = k
    rw [notifyFunc_run]
    cases d.slotOf conn <;> cases data <;> rfl

/-- A call that finds no queued job to run, and does not initialise a mutex that
is held, leaves the kernel as it was. -/
theorem after_kernel {h : HubState} {op : HubOp} (hrun : RunsNoJob h op)
    (hinit : ∀ m, op.initialises = some m → h.kernel.lockCount m = 0) :
    (h.after op).kernel = h.kernel := by
  cases op with
  | job op =>
    show (afterJobOp ⟨h.jobs, h.kernel⟩ op).kernel = h.kernel
    rw [afterJobOp_kernel]
    cases op with
    | init => exact Kernel.initMutex_eq_self (hinit _ rfl)
    | process startUptime endUptime =>
      -- without a queued job, `job_executor_process` unlocks what it has locked
      have hnone : firstSlot Job.isQueued h.jobs.jobs = none :=
        firstSlot_eq_none_iff.mpr (hrun startUptime endUptime rfl)
      show (if (firstSlot Job.isQueued h.jobs.jobs).isSome then _ else _) = h.kernel
      rw [hnone]
      rfl
    | _ => rfl
  | node op =>
    show (afterNodeOp ⟨h.nodes, h.kernel⟩ op).kernel = h.kernel
    rw [afterNodeOp_kernel]
    cases op with
    | init => exact Kernel.initMutex_eq_self (hinit _ rfl)
    | _ => rfl
  | conn op =>
    show (afterConnOp ⟨h.conns, h.kernel⟩ op).kernel = h.kernel
    rw [afterConnOp_kernel]
    cases op with
    | init => exact Kernel.initMutex_eq_self (hinit _ rfl)
    | _ => rfl
  | gatt op =>
    show (afterGattOp ⟨h.gatt, h.kernel⟩ op).kernel = h.kernel
    rw [afterGattOp_kernel]
    cases op with
    | init => exact Kernel.initMutex_eq_self (hinit _ rfl)
    | _ => rfl

/-- A `job_executor_process` call that finds a queued job leaves `job_mutex` held
once more than before. -/
theorem after_process_lockCount {h : HubState} {i : Fin maxJobs}
    (hi : (h.jobs.jobs i).isQueued = true) (startUptime endUptime : UInt32) :
    (h.after (.job (.process startUptime endUptime))).kernel.lockCount .jobMutex =
      h.kernel.lockCount .jobMutex + 1 := by
  obtain ⟨j, hj⟩ := exists_firstSlot (p := Job.isQueued) (t := h.jobs.jobs) hi
  show (afterJobOp ⟨h.jobs, h.kernel⟩ (.process startUptime endUptime)).kernel.lockCount
    .jobMutex = _
  rw [afterJobOp_kernel]
  show (if (firstSlot Job.isQueued h.jobs.jobs).isSome then _ else _ : Kernel).lockCount
    .jobMutex = _
  rw [hj]
  exact Kernel.unlock_lock_ne h.kernel (by decide)

/-! ## The discipline over runs -/

/-- With nothing held, a call is balanced iff it finds no queued job to run. -/
theorem balanced_iff {h : HubState} (hfree : h.NoneHeld) (op : HubOp) :
    Balanced h op ↔ RunsNoJob h op := by
  constructor
  · rintro hb startUptime endUptime rfl i
    by_contra hi
    have hcount := hb.lockCount .jobMutex
    rw [after_process_lockCount (by simpa using hi)] at hcount
    omega
  · intro hrun
    exact balanced_iff_kernel.mpr (after_kernel hrun fun m _ => hfree m)

theorem noneHeld_boot : HubState.boot.NoneHeld := fun _ => rfl

/-- A balanced call leaves nothing held where nothing was. -/
theorem noneHeld_step {h h' : HubState} {op : HubOp} (hfree : h.NoneHeld)
    (hb : Balanced h op) (hstep : always HubState.after h op = some h') :
    h'.NoneHeld := by
  cases hstep
  intro m
  rw [hb.lockCount, hfree]

/-- **Lock discipline**: in a run of calls each is balanced, and at the end no
mutex is held, iff no `job_executor_process` call of the run found a queued
job. -/
theorem lockDiscipline_iff (calls : List HubOp) :
    (Along (always HubState.after) Balanced .boot calls ∧
        (HubState.afterAll calls).NoneHeld) ↔
      Along (always HubState.after) RunsNoJob .boot calls := by
  constructor
  · rintro ⟨hbal, -⟩
    exact along_of_inv noneHeld_boot (fun h op h' => noneHeld_step)
      (fun h op hfree => (balanced_iff hfree op).mp) hbal
  · intro hrun
    have hbal : Along (always HubState.after) Balanced .boot calls :=
      along_of_inv noneHeld_boot
        (fun h op h' hfree hno => noneHeld_step hfree ((balanced_iff hfree op).mpr hno))
        (fun h op hfree => (balanced_iff hfree op).mpr) hrun
    have hend : run (always HubState.after) .boot calls = some (.afterAll calls) :=
      run_always ..
    exact ⟨hbal, run_inv_along noneHeld_boot (fun h op h' => noneHeld_step) hbal hend⟩

/-- One job queued and then processed leaves `job_mutex` held. -/
theorem lock_kept_by_process :
    ¬ ∀ calls : List HubOp, Along (always HubState.after) Balanced .boot calls ∧
      (HubState.afterAll calls).NoneHeld := by
  intro h
  have hfree := (h [.job .init, .job (.queue .pushConfig ⟨0, 0⟩ none 0 0 true),
    .job (.process 0 0)]).2 .jobMutex
  revert hfree
  decide

end SensorNet.Hub
