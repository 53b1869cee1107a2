import SensorNet.Hub.Kernel
import SensorNet.Lib.Slots

/-!
# The hub's job executor (`job_executor.c`)

A table of `MAX_JOBS` job records. `job_executor_queue` claims the first slot
that is not valid, `job_executor_process` runs the first job in state `QUEUED`
to completion. No operation ever clears `valid`: `job_executor_cancel` and
`job_executor_get` are stubs.

Each operation has one equation, `jobExecutorQueue_run` and so on, that says
what it returns, what it does to the table and what it leaves locked. Note the
last one for `job_executor_process`: on the path that runs a job the source
unlocks `node_mutex`, which is not the mutex it locked.
-/

namespace SensorNet.Hub

open Fw

/-- `MAX_JOBS` -/
def maxJobs : Nat := 16

/-- `enum job_type` -/
inductive JobType where
  | pushConfig
  | pullDiagnostics
  | updateFirmware
  | rebootNode
  deriving DecidableEq, Repr

/-- `enum job_state` -/
inductive JobState where
  | queued
  | running
  | completed
  | failed
  deriving DecidableEq, Repr

/-- `struct job`; the defaults are the record after `memset(.., 0, ..)`. -/
structure Job where
  valid : Bool := false
  jobId : UInt32 := 0
  type : JobType := .pushConfig
  state : JobState := .queued
  targetAddr : BtAddrLe := ⟨0, 0⟩
  payload : Option (List UInt8) := none
  payloadLen : UInt16 := 0
  queuedTime : UInt32 := 0
  startTime : UInt32 := 0
  endTime : UInt32 := 0
  retryCount : UInt8 := 0
  resultCode : Int := 0
  deriving DecidableEq, Repr

/-- The job is waiting to be run. -/
def Job.isQueued (j : Job) : Bool := j.valid && j.state == .queued

/-- The job is waiting or being run. -/
def Job.isUnfinished (j : Job) : Bool :=
  j.valid && (j.state == .queued || j.state == .running)

/-- Static data of `job_executor.c`. -/
structure JobExecutor where
  jobs : Fin maxJobs → Job
  nextJobId : UInt32

/-! ## Operations -/

/-- Write one job record. -/
def setJob (i : Fin maxJobs) (f : Job → Job) : Fw JobExecutor Unit :=
  setStatics fun d => { d with jobs := Function.update d.jobs i (f (d.jobs i)) }

@[simp] theorem run_setJob (i : Fin maxJobs) (f : Job → Job)
    (s : Fw.State JobExecutor) :
    (setJob i f).run s =
      ((), ⟨⟨Function.update s.data.jobs i (f (s.data.jobs i)), s.data.nextJobId⟩,
        s.kernel⟩) := (rfl)

/-- `job_executor_init` -/
def jobExecutorInit : Fw JobExecutor Int := do
  kMutexInit .jobMutex
  setStatics fun d => { d with jobs := fun _ => {} }
  return 0

/-- `job_executor_queue`; `malloc` says whether `k_malloc(len)` succeeds. -/
def jobExecutorQueue (type : JobType) (addr : BtAddrLe)
    (payload : Option (List UInt8)) (len : UInt16) (uptime : UInt32)
    (malloc : Bool) : Fw JobExecutor Int := do
  kMutexLock .jobMutex
  match firstSlot (fun j => !j.valid) (← statics).jobs with
  | none =>
    kMutexUnlock .jobMutex
    return -eNOMEM
  | some index =>
    let jobId := (← statics).nextJobId
    setStatics fun d => { d with nextJobId := d.nextJobId + 1 }
    setJob index fun _ =>
      { valid := true, jobId, type, state := .queued, targetAddr := addr,
        queuedTime := uptime }
    match payload with
    | none => pure ()
    | some bytes =>
      if 0 < len ∧ malloc then
        setJob index fun j =>
          { j with payload := some (bytes.take len.toNat), payloadLen := len }
    kMutexUnlock .jobMutex
    return intOfUInt32 ((← statics).jobs index).jobId

/-- `job_executor_process`, with the two readings of the uptime clock. -/
def jobExecutorProcess (startUptime endUptime : UInt32) : Fw JobExecutor Int := do
  kMutexLock .jobMutex
  match firstSlot Job.isQueued (← statics).jobs with
  | some i =>
    setJob i fun j => { j with state := .running, startTime := startUptime }
    setJob i fun j =>
      { j with state := .completed, endTime := endUptime, resultCode := 0 }
    -- the source unlocks `node_mutex` here
    kMutexUnlock .nodeMutex
    return intOfUInt32 ((← statics).jobs i).jobId
  | none =>
    kMutexUnlock .jobMutex
    return 0

/-- `job_executor_get_pending_count` -/
def jobExecutorGetPendingCount : Fw JobExecutor Int := do
  kMutexLock .jobMutex
  let count := countSlots Job.isQueued (← statics).jobs
  kMutexUnlock .jobMutex
  return count

/-- `job_executor_cancel` is a stub. -/
def jobExecutorCancel (_jobId : UInt32) : Fw JobExecutor Int := return 0

/-- `job_executor_get` is a stub that returns `NULL`. -/
def jobExecutorGet (_jobId : UInt32) : Fw JobExecutor (Option (Fin maxJobs)) :=
  return none

/-! ## One equation for each operation -/

/-- The record `job_executor_queue` leaves in the slot it claims. -/
def queuedJob (jobId : UInt32) (type : JobType) (addr : BtAddrLe)
    (payload : Option (List UInt8)) (len : UInt16) (uptime : UInt32)
    (malloc : Bool) : Job :=
  { valid := true, jobId, type, state := .queued, targetAddr := addr,
    payload := if 0 < len ∧ malloc then payload.map (·.take len.toNat) else none
    payloadLen := if (0 < len ∧ malloc) ∧ payload.isSome then len else 0
    queuedTime := uptime }

/-- The record `job_executor_process` leaves in the slot it runs. -/
def Job.finished (j : Job) (startUptime endUptime : UInt32) : Job :=
  { j with state := .completed, startTime := startUptime, endTime := endUptime,
           resultCode := 0 }

theorem jobExecutorQueue_run (type : JobType) (addr : BtAddrLe)
    (payload : Option (List UInt8)) (len : UInt16) (uptime : UInt32)
    (malloc : Bool) (d : JobExecutor) (k : Kernel) :
    (jobExecutorQueue type addr payload len uptime malloc).run ⟨d, k⟩ =
      match firstSlot (fun j => !j.valid) d.jobs with
      | none => (-eNOMEM, ⟨d, k⟩)
      | some i => (intOfUInt32 d.nextJobId,
          ⟨⟨Function.update d.jobs i
              (queuedJob d.nextJobId type addr payload len uptime malloc),
            d.nextJobId + 1⟩, k⟩) := by
  unfold jobExecutorQueue
  cases h : firstSlot (fun j => !j.valid) d.jobs with
  | none => simp [h]
  | some i =>
    cases payload with
    | none => simp [h, queuedJob]
    | some bytes =>
      by_cases hstored : 0 < len ∧ malloc = true
      · simp [h, queuedJob, hstored]
      · simp [h, queuedJob, hstored]

theorem jobExecutorProcess_run (startUptime endUptime : UInt32) (d : JobExecutor)
    (k : Kernel) :
    (jobExecutorProcess startUptime endUptime).run ⟨d, k⟩ =
      match firstSlot Job.isQueued d.jobs with
      | none => (0, ⟨d, k⟩)
      | some i => (intOfUInt32 (d.jobs i).jobId,
          ⟨⟨Function.update d.jobs i ((d.jobs i).finished startUptime endUptime),
            d.nextJobId⟩, (k.lock .jobMutex).unlock .nodeMutex⟩) := by
  unfold jobExecutorProcess
  cases h : firstSlot Job.isQueued d.jobs with
  | none => simp [h]
  | some i => simp [h, Job.finished]

@[simp] theorem jobExecutorGetPendingCount_run (d : JobExecutor) (k : Kernel) :
    jobExecutorGetPendingCount.run ⟨d, k⟩ =
      ((countSlots Job.isQueued d.jobs : Int), ⟨d, k⟩) := by
  simp [jobExecutorGetPendingCount]

@[simp] theorem jobExecutorInit_run (d : JobExecutor) (k : Kernel) :
    jobExecutorInit.run ⟨d, k⟩ =
      (0, ⟨⟨fun _ => {}, d.nextJobId⟩, k.initMutex .jobMutex⟩) := by
  simp [jobExecutorInit]

/-! ## Runs of the executor -/

/-- A call of `job_executor_queue` or `job_executor_process`. -/
inductive JobExecutorCall where
  | queue (type : JobType) (addr : BtAddrLe) (payload : Option (List UInt8))
      (len : UInt16) (uptime : UInt32) (malloc : Bool)
  | process (startUptime endUptime : UInt32)
  deriving DecidableEq, Repr

namespace JobExecutorCall

/-- The operation a call makes. -/
def op : JobExecutorCall → Fw JobExecutor Int
  | queue type addr payload len uptime malloc =>
    jobExecutorQueue type addr payload len uptime malloc
  | process startUptime endUptime => jobExecutorProcess startUptime endUptime

def isQueue : JobExecutorCall → Bool
  | queue .. => true
  | process .. => false

end JobExecutorCall

namespace JobExecutor

/-- Static data at power-up, after `job_executor_init`. -/
def boot : JobExecutor := (exec jobExecutorInit ⟨fun _ => {}, 1⟩).2

/-- The table after a run of calls. -/
def after (calls : List JobExecutorCall) : JobExecutor :=
  calls.foldl (fun d c => (exec c.op d).2) boot

end JobExecutor

end SensorNet.Hub
