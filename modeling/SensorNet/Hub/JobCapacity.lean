import SensorNet.Hub.JobExecutor
import SensorNet.Lib.Run
import Mathlib.Tactic.FinCases

/-!
# Capacity of the hub's job table

`job_executor_queue` is meant to refuse a job only while the table is full of
unfinished work. Since no operation clears `valid`, a finished job keeps its
slot for good: slot `i` is taken by the `i`-th accepted job and never freed
(`CapacityInv`), so the table refuses every job after the sixteenth, however
many of the first sixteen are finished.

`neverExhausted_iff` is the exact account: after a run of calls the promise
holds iff the table has seen fewer than `MAX_JOBS` queue calls, or no process
call came after a queue call (so nothing is finished yet).
-/

namespace SensorNet.Hub

open Fw

namespace JobExecutor

/-- The number of jobs in state `QUEUED` or `RUNNING`. -/
def unfinished (d : JobExecutor) : Nat := countSlots Job.isUnfinished d.jobs

/-- The promise of the job table in one state: whatever job is queued next, it
is refused with `-ENOMEM` only if `MAX_JOBS` jobs are unfinished. -/
def NeverExhausted (d : JobExecutor) : Prop :=
  ∀ type addr payload len uptime malloc,
    (exec (jobExecutorQueue type addr payload len uptime malloc) d).1 = -eNOMEM →
      d.unfinished = maxJobs

end JobExecutor

/-- The number of queue calls in a run. -/
def queueCalls (calls : List JobExecutorCall) : Nat :=
  calls.countP JobExecutorCall.isQueue

/-- Some process call of the run comes after a queue call. -/
def ProcessAfterQueue (calls : List JobExecutorCall) : Prop :=
  ∃ pre c post, calls = pre ++ c :: post ∧ c.isQueue = false ∧ 0 < queueCalls pre

theorem queueCalls_snoc (calls : List JobExecutorCall) (c : JobExecutorCall) :
    queueCalls (calls ++ [c]) = queueCalls calls + if c.isQueue then 1 else 0 := by
  simp [queueCalls, List.countP_append, List.countP_singleton]

theorem processAfterQueue_snoc {calls : List JobExecutorCall} {c : JobExecutorCall} :
    ProcessAfterQueue (calls ++ [c]) ↔
      ProcessAfterQueue calls ∨ (c.isQueue = false ∧ 0 < queueCalls calls) := by
  constructor
  · rintro ⟨pre, c', post, heq, hc', hpre⟩
    rcases List.eq_nil_or_concat post with rfl | ⟨post, last, rfl⟩
    · obtain ⟨rfl, hcc⟩ := List.append_inj' heq rfl
      cases hcc
      exact .inr ⟨hc', hpre⟩
    · have hsplit : calls ++ [c] = (pre ++ c' :: post) ++ [last] := by
        simpa using heq
      obtain ⟨rfl, -⟩ := List.append_inj' hsplit rfl
      exact .inl ⟨pre, c', post, rfl, hc', hpre⟩
  · rintro (⟨pre, c', post, rfl, hc', hpre⟩ | ⟨hc, hpos⟩)
    · exact ⟨pre, c', post ++ [c], by simp, hc', hpre⟩
    · exact ⟨calls, c, [], rfl, hc, hpos⟩

/-! ## The capacity invariant -/

/-- The table after a run of calls:
1. slot `i` is taken iff more than `i` jobs were offered (slots fill from 0 and
   are never freed);
2. a taken slot is `QUEUED` or `COMPLETED`;
3. a completed job exists iff a process call came after a queue call;
4. ids are handed out from 1, one for each accepted job. -/
structure CapacityInv (calls : List JobExecutorCall) (d : JobExecutor) : Prop where
  valid : ∀ i, (d.jobs i).valid = true ↔ i.val < queueCalls calls
  state : ∀ i, (d.jobs i).valid = true →
    (d.jobs i).state = .queued ∨ (d.jobs i).state = .completed
  completed : (∃ i, (d.jobs i).valid = true ∧ (d.jobs i).state = .completed) ↔
    ProcessAfterQueue calls
  nextJobId : d.nextJobId.toNat = 1 + min (queueCalls calls) maxJobs

theorem capacityInv_boot : CapacityInv [] JobExecutor.boot where
  valid i := by simp [JobExecutor.boot, exec, queueCalls]
  state i h := by simp [JobExecutor.boot, exec] at h
  completed := by
    constructor
    · rintro ⟨i, h, -⟩
      simp [JobExecutor.boot, exec] at h
    · rintro ⟨pre, c, post, h, -, -⟩
      simp at h
  nextJobId := by simp [JobExecutor.boot, exec, queueCalls]

variable {calls : List JobExecutorCall} {d : JobExecutor}

/-- Where the first `n` slots are taken, the scan for a free slot finds the next one. -/
theorem firstFree_of_valid {jobs : Fin maxJobs → Job} {n : Nat}
    (h : ∀ i, (jobs i).valid = true ↔ i.val < n) (hlt : n < maxJobs) :
    firstSlot (fun j : Job => !j.valid) jobs = some ⟨n, hlt⟩ := by
  refine firstSlot_eq_some_iff.mpr ⟨?_, fun j hj => ?_⟩
  · simpa using fun hv => Nat.lt_irrefl _ ((h _).mp hv)
  · simpa using (h j).mpr hj

/-- Where all slots are taken, it finds none. -/
theorem noneFree_of_valid {jobs : Fin maxJobs → Job} {n : Nat}
    (h : ∀ i, (jobs i).valid = true ↔ i.val < n) (hge : maxJobs ≤ n) :
    firstSlot (fun j : Job => !j.valid) jobs = none := by
  refine firstSlot_eq_none_iff.mpr fun i => ?_
  simpa using (h i).mpr (Nat.lt_of_lt_of_le i.isLt hge)

/-- Writing a taken record to it leaves one more slot taken. -/
theorem valid_update_free {jobs : Fin maxJobs → Job} {n : Nat}
    (h : ∀ i, (jobs i).valid = true ↔ i.val < n) (hlt : n < maxJobs) {job : Job}
    (hjob : job.valid = true) (i : Fin maxJobs) :
    (Function.update jobs ⟨n, hlt⟩ job i).valid = true ↔ i.val < n + 1 := by
  rw [Function.update_apply]
  split
  next heq =>
    subst heq
    exact iff_of_true hjob (Nat.lt_succ_self n)
  next hne =>
    have hval : i.val ≠ n := fun heq => hne (Fin.ext heq)
    rw [h i]
    omega

/-- Writing a job that is as valid as the old one takes or frees no slot. -/
theorem valid_update {jobs : Fin maxJobs → Job} {k : Fin maxJobs} {job : Job}
    (hjob : job.valid = (jobs k).valid) (i : Fin maxJobs) :
    (Function.update jobs k job i).valid = (jobs i).valid := by
  rw [Function.update_apply]
  split
  next heq => rw [hjob, heq]
  next => rfl

/-- A queue call preserves the capacity invariant. -/
theorem CapacityInv.queue (h : CapacityInv calls d) (type : JobType)
    (addr : BtAddrLe) (payload : Option (List UInt8)) (len : UInt16)
    (uptime : UInt32) (malloc : Bool) :
    CapacityInv (calls ++ [.queue type addr payload len uptime malloc])
      (exec (jobExecutorQueue type addr payload len uptime malloc) d).2 := by
  have hcount : queueCalls (calls ++ [.queue type addr payload len uptime malloc])
      = queueCalls calls + 1 := by
    rw [queueCalls_snoc]
    rfl
  have hproc : ProcessAfterQueue (calls ++ [.queue type addr payload len uptime malloc])
      ↔ ProcessAfterQueue calls := by
    rw [processAfterQueue_snoc]
    simp [JobExecutorCall.isQueue]
  by_cases hlt : queueCalls calls < maxJobs
  · -- the job takes the first slot that was never taken
    simp only [exec, jobExecutorQueue_run, firstFree_of_valid h.valid hlt]
    have hnew : ¬ (d.jobs ⟨queueCalls calls, hlt⟩).valid = true :=
      fun hv => Nat.lt_irrefl _ ((h.valid _).mp hv)
    refine { valid := fun i => ?_, state := fun i hi => ?_, completed := ?_,
             nextJobId := ?_ }
    · rw [hcount]
      exact valid_update_free h.valid hlt rfl i
    · by_cases hi' : i = ⟨queueCalls calls, hlt⟩
      · subst hi'
        exact .inl (by simp [queuedJob])
      · simp only [Function.update_of_ne hi'] at hi ⊢
        exact h.state i hi
    · rw [hproc, ← h.completed]
      constructor
      · -- the completed job was there before: the new one is queued
        rintro ⟨i, hv, hs⟩
        by_cases hi : i = ⟨queueCalls calls, hlt⟩
        · subst hi
          simp [queuedJob] at hs
        · simp only [Function.update_of_ne hi] at hv hs
          exact ⟨i, hv, hs⟩
      · rintro ⟨i, hv, hs⟩
        have hi : i ≠ ⟨queueCalls calls, hlt⟩ := fun he => hnew (he ▸ hv)
        refine ⟨i, ?_⟩
        simp only [Function.update_of_ne hi]
        exact ⟨hv, hs⟩
    · rw [UInt32.toNat_add, h.nextJobId, hcount]
      simp only [maxJobs, UInt32.toNat_one] at hlt ⊢
      omega
  · -- the table is full and stays as it is
    have hge : maxJobs ≤ queueCalls calls := Nat.le_of_not_lt hlt
    simp only [exec, jobExecutorQueue_run, noneFree_of_valid h.valid hge]
    refine { valid := fun i => ?_, state := h.state, completed := ?_,
             nextJobId := ?_ }
    · rw [h.valid i, hcount]
      have := i.isLt
      omega
    · rw [hproc, ← h.completed]
    · rw [h.nextJobId, hcount]
      omega

/-- A process call preserves the capacity invariant. -/
theorem CapacityInv.process (h : CapacityInv calls d)
    (startUptime endUptime : UInt32) :
    CapacityInv (calls ++ [.process startUptime endUptime])
      (exec (jobExecutorProcess startUptime endUptime) d).2 := by
  have hcount : queueCalls (calls ++ [.process startUptime endUptime])
      = queueCalls calls := by
    rw [queueCalls_snoc]
    simp [JobExecutorCall.isQueue]
  have hproc : ProcessAfterQueue (calls ++ [.process startUptime endUptime])
      ↔ ProcessAfterQueue calls ∨ 0 < queueCalls calls := by
    rw [processAfterQueue_snoc]
    simp [JobExecutorCall.isQueue]
  cases hf : firstSlot Job.isQueued d.jobs with
  | some i =>
    have hq := firstSlot_spec hf
    simp only [Job.isQueued, Bool.and_eq_true, beq_iff_eq] at hq
    simp only [exec, jobExecutorProcess_run, hf]
    refine { valid := fun j => ?_, state := fun j hj => ?_, completed := ?_,
             nextJobId := ?_ }
    · have hkept : ((d.jobs i).finished startUptime endUptime).valid = (d.jobs i).valid := rfl
      rw [hcount, ← h.valid j, valid_update hkept]
    · by_cases hji : j = i
      · subst hji
        exact .inr (by simp [Job.finished])
      · simp only [Function.update_of_ne hji] at hj ⊢
        exact h.state j hj
    · rw [hproc]
      -- slot `i` was taken, so a queue call came before
      have hpos : 0 < queueCalls calls :=
        Nat.lt_of_le_of_lt (Nat.zero_le _) ((h.valid i).mp hq.1)
      exact iff_of_true ⟨i, by simp [Job.finished, hq.1]⟩ (.inr hpos)
    · rw [hcount, h.nextJobId]
  | none =>
    simp only [exec, jobExecutorProcess_run, hf]
    refine { valid := fun j => by rw [hcount, h.valid j], state := h.state,
             completed := ?_, nextJobId := by rw [hcount, h.nextJobId] }
    rw [hproc, ← h.completed]
    constructor
    · exact .inl
    · rintro (hdone | hpos)
      · exact hdone
      · -- slot 0 was taken and is not queued any more
        have hv : (d.jobs ⟨0, by decide⟩).valid = true := (h.valid _).mpr hpos
        refine ⟨_, hv, (h.state _ hv).resolve_left fun hs => ?_⟩
        have hno := firstSlot_eq_none_iff.mp hf ⟨0, by decide⟩
        simp [Job.isQueued, hv, hs] at hno

/-- The capacity invariant holds after every run. -/
theorem capacityInv_after (calls : List JobExecutorCall) :
    CapacityInv calls (JobExecutor.after calls) := by
  have hrun : run (always fun d (c : JobExecutorCall) => (exec c.op d).2)
      JobExecutor.boot calls = some (JobExecutor.after calls) := run_always ..
  refine run_inv_history (P := CapacityInv) capacityInv_boot ?_ hrun
  intro es t e v h hstep
  cases hstep
  cases e with
  | queue type addr payload len uptime malloc =>
    exact h.queue type addr payload len uptime malloc
  | process startUptime endUptime => exact h.process startUptime endUptime

/-! ## When the promise holds -/

/-- The id of an accepted job is not an error number. -/
theorem CapacityInv.jobId_ne (h : CapacityInv calls d) :
    intOfUInt32 d.nextJobId ≠ -eNOMEM := by
  have hid := h.nextJobId
  have hle : d.nextJobId.toNat ≤ 17 := by
    simp only [maxJobs] at hid
    omega
  rw [intOfUInt32_eq (by omega)]
  simp only [eNOMEM]
  omega

/-- The table refuses a job exactly from the sixteenth queue call on. -/
theorem CapacityInv.refused_iff (h : CapacityInv calls d) (type : JobType)
    (addr : BtAddrLe) (payload : Option (List UInt8)) (len : UInt16)
    (uptime : UInt32) (malloc : Bool) :
    (exec (jobExecutorQueue type addr payload len uptime malloc) d).1 = -eNOMEM ↔
      maxJobs ≤ queueCalls calls := by
  by_cases hlt : queueCalls calls < maxJobs
  · simp only [exec, jobExecutorQueue_run, firstFree_of_valid h.valid hlt]
    exact iff_of_false h.jobId_ne (Nat.not_le.mpr hlt)
  · have hge := Nat.le_of_not_lt hlt
    simp only [exec, jobExecutorQueue_run, noneFree_of_valid h.valid hge]
    exact iff_of_true trivial hge

/-- A full table holds only unfinished jobs iff none was processed. -/
theorem CapacityInv.unfinished_full_iff (h : CapacityInv calls d)
    (hge : maxJobs ≤ queueCalls calls) :
    d.unfinished = maxJobs ↔ ¬ ProcessAfterQueue calls := by
  rw [JobExecutor.unfinished, countSlots_eq_size_iff, ← h.completed]
  constructor
  · rintro hall ⟨i, -, hs⟩
    have := hall i
    simp [Job.isUnfinished, hs] at this
  · intro hnone i
    have hv : (d.jobs i).valid = true :=
      (h.valid i).mpr (Nat.lt_of_lt_of_le i.isLt hge)
    have hs := (h.state i hv).resolve_right fun hs => hnone ⟨i, hv, hs⟩
    simp [Job.isUnfinished, hv, hs]

/-- **Exact capacity of the job table**: after a run of calls the table refuses a
job only while `MAX_JOBS` jobs are unfinished, iff fewer than `MAX_JOBS` queue
calls were made or no process call came after a queue call. -/
theorem neverExhausted_iff (calls : List JobExecutorCall) :
    (JobExecutor.after calls).NeverExhausted ↔
      queueCalls calls < maxJobs ∨ ¬ ProcessAfterQueue calls := by
  have h := capacityInv_after calls
  constructor
  · intro hpromise
    by_cases hlt : queueCalls calls < maxJobs
    · exact .inl hlt
    · have hge := Nat.le_of_not_lt hlt
      refine .inr ((h.unfinished_full_iff hge).mp ?_)
      exact hpromise .pushConfig ⟨0, 0⟩ none 0 0 true
        ((h.refused_iff ..).mpr hge)
  · rintro (hlt | hnone) type addr payload len uptime malloc href
    · exact absurd ((h.refused_iff ..).mp href) (Nat.not_le.mpr hlt)
    · exact (h.unfinished_full_iff ((h.refused_iff ..).mp href)).mpr hnone

/-- Sixteen jobs queued and all of them processed. -/
def sixteenFinished : List JobExecutorCall :=
  List.replicate 16 (.queue .pushConfig ⟨0, 0⟩ none 0 0 true) ++
    List.replicate 16 (.process 0 0)

/-- After sixteen finished jobs nothing is unfinished and yet the next job is
refused. -/
theorem exhausted_by_finished_work :
    ¬ ∀ calls, (JobExecutor.after calls).NeverExhausted := by
  intro h
  have hinv := capacityInv_after sixteenFinished
  have hfull := h sixteenFinished .pushConfig ⟨0, 0⟩ none 0 0 true
    ((hinv.refused_iff ..).mpr (by decide))
  refine (hinv.unfinished_full_iff (by decide)).mp hfull ?_
  exact ⟨List.replicate 16 (.queue .pushConfig ⟨0, 0⟩ none 0 0 true),
    .process 0 0, List.replicate 15 (.process 0 0), by decide, rfl, by decide⟩

end SensorNet.Hub
