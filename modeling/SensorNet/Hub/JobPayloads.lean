import SensorNet.Hub.JobOrder

/-!
# Payloads of the hub's jobs

`job_executor_queue` copies the payload into memory from `k_malloc` after it has claimed and
numbered a slot. When there is no memory it goes on: the caller gets an id, and the job has
no payload.

A job that has its payload keeps it, since nothing writes to it again
(`HoldsPayload.step`). So all accepted jobs of a run hold their payloads iff no `k_malloc`
of the run fails (`keepsPayloads_iff`).
-/

namespace SensorNet.Hub

open Fw

namespace JobExecutor

/-- The job with the id is in the table, with the first `len` bytes of the payload. -/
def HoldsPayload (d : JobExecutor) (id : Int) (payload : List UInt8) (len : UInt16) : Prop :=
  ∃ i, (d.jobs i).valid = true ∧ intOfUInt32 (d.jobs i).jobId = id ∧
    (d.jobs i).payload = some (payload.take len.toNat) ∧ (d.jobs i).payloadLen = len

end JobExecutor

/-- What is asked of the call of `job_executor_queue` that comes after `pre` and before `post`:
1. if it returns a positive id then, until the job with that id has been processed, that job
   holds the payload;
2. if the payload cannot be stored, for want of memory or of a free slot, it returns an error
   and leaves the table. -/
structure KeepsPayload (pre : List JobExecutorCall) (type : JobType) (addr : BtAddrLe)
    (payload : List UInt8) (len : UInt16) (uptime : UInt32) (malloc : Bool)
    (post : List JobExecutorCall) : Prop where
  held : ∀ id, 0 < id →
    (exec (jobExecutorQueue type addr (some payload) len uptime malloc)
      (JobExecutor.after pre)).1 = id →
    ∀ mid, mid <+: post →
      id ∉ (JobLog.after
        (pre ++ .queue type addr (some payload) len uptime malloc :: mid)).processed →
      (JobExecutor.after
        (pre ++ .queue type addr (some payload) len uptime malloc :: mid)).HoldsPayload
          id payload len
  refused : malloc = false ∨
      firstSlot (fun j => !j.valid) (JobExecutor.after pre).jobs = none →
    (exec (jobExecutorQueue type addr (some payload) len uptime malloc)
        (JobExecutor.after pre)).1 < 0 ∧
      (exec (jobExecutorQueue type addr (some payload) len uptime malloc)
        (JobExecutor.after pre)).2.jobs = (JobExecutor.after pre).jobs

/-- Every call of the run with a payload that is not empty keeps it. -/
def KeepsPayloads (calls : List JobExecutorCall) : Prop :=
  ∀ pre type addr payload len uptime malloc post,
    calls = pre ++ .queue type addr (some payload) len uptime malloc :: post → 0 < len →
      KeepsPayload pre type addr payload len uptime malloc post

/-- Every `k_malloc` of the run succeeds; a queue call that finds the table full makes
none. -/
def AllocationsSucceed (calls : List JobExecutorCall) : Prop :=
  ∀ pre type addr payload len uptime malloc post,
    calls = pre ++ .queue type addr (some payload) len uptime malloc :: post → 0 < len →
      queueCalls pre < maxJobs → malloc = true

/-! ## A payload stays -/

variable {calls pre post : List JobExecutorCall} {d : JobExecutor} {id : Int}
  {type : JobType} {addr : BtAddrLe} {payload : List UInt8} {len : UInt16} {uptime : UInt32}

/-- No call takes a payload from a job that has it. -/
theorem JobExecutor.HoldsPayload.step (h : d.HoldsPayload id payload len) (c : JobExecutorCall) :
    (exec c.op d).2.HoldsPayload id payload len := by
  obtain ⟨i, hvalid, hid, hpayload, hlen⟩ := h
  refine ⟨i, ?_⟩
  cases c with
  | queue type addr given givenLen uptime malloc =>
    simp only [exec, JobExecutorCall.op, jobExecutorQueue_run]
    cases hfree : firstSlot (fun j => !j.valid) d.jobs with
    | none => exact ⟨hvalid, hid, hpayload, hlen⟩
    | some k =>
      -- a free slot is taken, so not that of the job
      have hne : i ≠ k := by
        rintro rfl
        have hk := firstSlot_spec hfree
        rw [hvalid] at hk
        cases hk
      simp only [Function.update_of_ne hne]
      exact ⟨hvalid, hid, hpayload, hlen⟩
  | process startUptime endUptime =>
    simp only [exec, JobExecutorCall.op, jobExecutorProcess_run]
    cases hqueued : firstSlot Job.isQueued d.jobs with
    | none => exact ⟨hvalid, hid, hpayload, hlen⟩
    | some k =>
      by_cases hk : i = k
      · subst hk
        simp only [Function.update_self]
        exact ⟨hvalid, hid, hpayload, hlen⟩
      · simp only [Function.update_of_ne hk]
        exact ⟨hvalid, hid, hpayload, hlen⟩

/-- Nor does any run of calls. -/
theorem JobExecutor.HoldsPayload.later (h : d.HoldsPayload id payload len)
    (calls : List JobExecutorCall) :
    (calls.foldl (fun d c => (exec c.op d).2) d).HoldsPayload id payload len := by
  have hrun : SensorNet.run (always fun d (c : JobExecutorCall) => (exec c.op d).2) d calls =
      some (calls.foldl (fun d c => (exec c.op d).2) d) := run_always ..
  refine run_inv (P := fun d : JobExecutor => d.HoldsPayload id payload len) h ?_ hrun
  rintro d c _ hd ⟨⟩
  exact hd.step c

theorem after_append_cons (pre mid : List JobExecutorCall) (c : JobExecutorCall) :
    JobExecutor.after (pre ++ c :: mid) =
      mid.foldl (fun d c => (exec c.op d).2) (exec c.op (JobExecutor.after pre)).2 := by
  rw [JobExecutor.after, List.foldl_append, List.foldl_cons]
  rfl

/-! ## Which jobs get one -/

/-- The id of the next job is positive. -/
theorem CapacityInv.jobId_pos (h : CapacityInv calls d) : 0 < intOfUInt32 d.nextJobId := by
  have hid := h.nextJobId
  have hle : d.nextJobId.toNat ≤ 17 := by
    simp only [maxJobs] at hid
    omega
  rw [intOfUInt32_eq (by omega)]
  omega

/-- What a queue call that finds a free slot makes of the table -/
theorem queue_run_of_lt {malloc : Bool} (h : CapacityInv pre d) (hlt : queueCalls pre < maxJobs) :
    exec (jobExecutorQueue type addr (some payload) len uptime malloc) d =
      (intOfUInt32 d.nextJobId, ⟨Function.update d.jobs ⟨queueCalls pre, hlt⟩
        (queuedJob d.nextJobId type addr (some payload) len uptime malloc),
          d.nextJobId + 1⟩) := by
  simp only [exec, jobExecutorQueue_run, firstFree_of_valid h.valid hlt]

/-- A job for which there is memory is accepted with its payload. -/
theorem holdsPayload_of_queue (h : CapacityInv pre d) (hlt : queueCalls pre < maxJobs)
    (hlen : 0 < len) :
    (exec (jobExecutorQueue type addr (some payload) len uptime true) d).2.HoldsPayload
      (intOfUInt32 d.nextJobId) payload len := by
  refine ⟨⟨queueCalls pre, hlt⟩, ?_⟩
  rw [queue_run_of_lt h hlt]
  simp only [Function.update_self, queuedJob, hlen, if_true, Option.map_some,
    Option.isSome_some, and_self]

/-- A call that finds no free slot returns an error and leaves the table. -/
theorem queue_run_of_full {malloc : Bool}
    (h : firstSlot (fun j => !j.valid) d.jobs = none) :
    exec (jobExecutorQueue type addr (some payload) len uptime malloc) d = (-eNOMEM, d) := by
  simp only [exec, jobExecutorQueue_run, h]

/-- **Accepted jobs keep their payload**: in a run of queue and process calls from
`job_executor_init`, every job that is accepted with a payload holds it until it is processed,
and every payload that cannot be stored is refused without a trace, iff every `k_malloc` of the
run succeeds. -/
theorem keepsPayloads_iff (calls : List JobExecutorCall) :
    KeepsPayloads calls ↔ AllocationsSucceed calls := by
  constructor
  · intro hkeeps pre type addr payload len uptime malloc post hcalls hlen hlt
    by_contra hfails
    have hmalloc : malloc = false := Bool.eq_false_iff.mpr hfails
    have h := capacityInv_after pre
    -- the id is returned although the memory is missing
    have herror := ((hkeeps pre type addr payload len uptime malloc post hcalls hlen).refused
      (.inl hmalloc)).1
    rw [queue_run_of_lt h hlt] at herror
    exact Int.lt_asymm h.jobId_pos herror
  · intro hsucceed pre type addr payload len uptime malloc post hcalls hlen
    have h := capacityInv_after pre
    by_cases hlt : queueCalls pre < maxJobs
    · have hmalloc := hsucceed pre type addr payload len uptime malloc post hcalls hlen hlt
      subst hmalloc
      refine { held := fun id _ hid mid _ _ => ?_, refused := fun hrefused => ?_ }
      · rw [queue_run_of_lt h hlt] at hid
        rw [after_append_cons, ← hid]
        exact (holdsPayload_of_queue h hlt hlen).later mid
      · rw [firstFree_of_valid h.valid hlt] at hrefused
        rcases hrefused with hrefused | hrefused <;> cases hrefused
    · have hfull := noneFree_of_valid h.valid (Nat.le_of_not_lt hlt)
      have herror : -eNOMEM < 0 := by decide
      refine { held := fun id hpos hid => ?_, refused := fun _ => ?_ }
      · rw [queue_run_of_full hfull] at hid
        rw [← hid] at hpos
        exact absurd hpos (Int.lt_asymm herror)
      · rw [queue_run_of_full hfull]
        exact ⟨herror, rfl⟩

/-- A configuration of one byte is queued while there is no memory. -/
def queuedWithoutMemory : List JobExecutorCall :=
  [.queue .pushConfig ⟨0, 0⟩ (some [7]) 1 0 false]

/-- The job is accepted, with an id, and has no payload. -/
theorem payload_lost : ¬ ∀ calls, KeepsPayloads calls := by
  intro h
  have hkeeps := h queuedWithoutMemory [] .pushConfig ⟨0, 0⟩ [7] 1 0 false [] rfl (by decide)
  obtain ⟨i, -, -, hpayload, -⟩ := hkeeps.held 1 (by decide) (by decide) [] List.nil_prefix
    (by decide)
  have hnone : ∀ i, ((JobExecutor.after queuedWithoutMemory).jobs i).payload = none := by
    decide
  exact Option.some_ne_none _ (hpayload.symm.trans (hnone i))

end SensorNet.Hub
