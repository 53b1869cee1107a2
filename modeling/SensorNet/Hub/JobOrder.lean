import SensorNet.Hub.JobCapacity

/-!
# Order of execution of the hub's jobs

`job_executor_process` runs the first queued job in the order of the slots, which
is the order of acceptance only because slots are filled from the first one and
never given back: after `a` accepted and `p` processed jobs the slots below `p`
are completed, those below `a` queued, and slot `i` holds the job with id `i + 1`
(`OrderInv`). `jobs_in_order` is what the caller sees of it.
-/

namespace SensorNet.Hub

open Fw

/-- What a caller sees of a run: the table, and the ids that `job_executor_queue` and
`job_executor_process` returned. -/
structure JobLog where
  table : JobExecutor
  accepted : List Int
  processed : List Int

namespace JobLog

/-- Book one call: a queue call that did not fail returned the id of its job, a process
call that did not return 0 the id of the job it ran. -/
def step (l : JobLog) (c : JobExecutorCall) : JobLog :=
  let r := exec c.op l.table
  match c with
  | .queue .. =>
    if r.1 = -eNOMEM then { l with table := r.2 }
    else { l with table := r.2, accepted := l.accepted ++ [r.1] }
  | .process .. =>
    if r.1 = 0 then { l with table := r.2 }
    else { l with table := r.2, processed := l.processed ++ [r.1] }

/-- The log of a run from `job_executor_init`. -/
def after (calls : List JobExecutorCall) : JobLog := calls.foldl step ⟨.boot, [], []⟩

theorem table_step (l : JobLog) (c : JobExecutorCall) :
    (l.step c).table = (exec c.op l.table).2 := by
  unfold step
  cases c <;> dsimp only <;> split <;> rfl

theorem table_after (calls : List JobExecutorCall) :
    (after calls).table = JobExecutor.after calls := by
  induction calls using List.reverseRecOn with
  | nil => rfl
  | append_singleton calls c ih =>
    unfold after JobExecutor.after at ih ⊢
    rw [List.foldl_append, List.foldl_append, List.foldl_cons, List.foldl_nil, table_step, ih]
    rfl

end JobLog

/-- The ids of the first `n` jobs. -/
def firstIds (n : Nat) : List Int := (List.range n).map fun i : Nat => (i : Int) + 1

theorem firstIds_succ (n : Nat) : firstIds (n + 1) = firstIds n ++ [(n : Int) + 1] := by
  rw [firstIds, List.range_succ, List.map_append]
  rfl

@[simp] theorem length_firstIds (n : Nat) : (firstIds n).length = n := by
  rw [firstIds, List.length_map, List.length_range]

theorem firstIds_prefix {p a : Nat} (h : p ≤ a) : firstIds p <+: firstIds a := by
  have htake : firstIds p = (firstIds a).take p := by
    rw [firstIds, firstIds, ← List.map_take, List.take_range, Nat.min_eq_left h]
  rw [htake]
  exact List.take_prefix ..

/-! ## The order invariant -/

/-- After `a` accepted and `p` processed jobs:
1. slot `i` is taken iff `i < a`;
2. the jobs in the slots below `p` are completed, those in the others queued;
3. slot `i` holds the job with id `i + 1`;
4. the ids returned so far are those of the first `a` and the first `p` jobs. -/
structure OrderInv (l : JobLog) (a p : Nat) : Prop where
  le : p ≤ a
  room : a ≤ maxJobs
  valid : ∀ i, (l.table.jobs i).valid = true ↔ i.val < a
  state : ∀ i, i.val < a →
    (l.table.jobs i).state = if i.val < p then .completed else .queued
  jobId : ∀ i, i.val < a → (l.table.jobs i).jobId.toNat = i.val + 1
  nextJobId : l.table.nextJobId.toNat = a + 1
  accepted : l.accepted = firstIds a
  processed : l.processed = firstIds p

theorem orderInv_boot : OrderInv ⟨.boot, [], []⟩ 0 0 where
  le := Nat.le_refl 0
  room := Nat.zero_le _
  valid i := by simp [JobExecutor.boot, exec]
  state i h := absurd h (Nat.not_lt_zero _)
  jobId i h := absurd h (Nat.not_lt_zero _)
  nextJobId := by simp [JobExecutor.boot, exec]
  accepted := rfl
  processed := rfl

namespace OrderInv

variable {l : JobLog} {a p : Nat} (h : OrderInv l a p)
include h

theorem isQueued_iff (i : Fin maxJobs) :
    (l.table.jobs i).isQueued = true ↔ p ≤ i.val ∧ i.val < a := by
  rw [Job.isQueued, Bool.and_eq_true, h.valid i, beq_iff_eq]
  constructor
  · rintro ⟨hi, hstate⟩
    rw [h.state i hi] at hstate
    by_cases hp : i.val < p
    · rw [if_pos hp] at hstate
      cases hstate
    · exact ⟨Nat.le_of_not_lt hp, hi⟩
  · rintro ⟨hp, hi⟩
    exact ⟨hi, by rw [h.state i hi, if_neg (Nat.not_lt.mpr hp)]⟩

/-- The next job to run is in slot `p`. -/
theorem firstQueued (hlt : p < a) :
    firstSlot Job.isQueued l.table.jobs = some ⟨p, Nat.lt_of_lt_of_le hlt h.room⟩ := by
  refine firstSlot_eq_some_iff.mpr ⟨(h.isQueued_iff _).mpr ⟨Nat.le_refl p, hlt⟩, fun j hj => ?_⟩
  have hnot := mt (h.isQueued_iff j).mp (fun hq => absurd hj (Nat.not_lt.mpr hq.1))
  exact Bool.eq_false_iff.mpr hnot

theorem noneQueued (heq : p = a) : firstSlot Job.isQueued l.table.jobs = none := by
  refine firstSlot_eq_none_iff.mpr fun i => Bool.eq_false_iff.mpr fun hq => ?_
  have := (h.isQueued_iff i).mp hq
  omega

theorem queue (type : JobType) (addr : BtAddrLe) (payload : Option (List UInt8))
    (len : UInt16) (uptime : UInt32) (malloc : Bool) :
    ∃ a', OrderInv (l.step (.queue type addr payload len uptime malloc)) a' p := by
  have hroom := h.room
  have hid : intOfUInt32 l.table.nextJobId = (a : Int) + 1 := by
    rw [intOfUInt32_eq (by rw [h.nextJobId]; simp only [maxJobs] at hroom; omega), h.nextJobId]
    rfl
  -- no slot is ever given back, so the next one is free until all are taken
  by_cases hlt : a < maxJobs
  · have hexec : exec (jobExecutorQueue type addr payload len uptime malloc) l.table =
        ((a : Int) + 1, ⟨Function.update l.table.jobs ⟨a, hlt⟩
          (queuedJob l.table.nextJobId type addr payload len uptime malloc),
            l.table.nextJobId + 1⟩) := by
      simp only [exec, jobExecutorQueue_run, firstFree_of_valid h.valid hlt, hid]
    have hok : (a : Int) + 1 ≠ -eNOMEM := by
      unfold eNOMEM
      omega
    have hstep : l.step (.queue type addr payload len uptime malloc) =
        ⟨⟨Function.update l.table.jobs ⟨a, hlt⟩
          (queuedJob l.table.nextJobId type addr payload len uptime malloc),
            l.table.nextJobId + 1⟩, l.accepted ++ [(a : Int) + 1], l.processed⟩ := by
      simp only [JobLog.step, JobExecutorCall.op, hexec, hok, if_false]
    rw [hstep]
    refine ⟨a + 1, ?_⟩
    refine { le := Nat.le_succ_of_le h.le, room := hlt, valid := fun i => ?_,
             state := fun i hi => ?_, jobId := fun i hi => ?_, nextJobId := ?_,
             accepted := ?_, processed := h.processed }
    · exact valid_update_free h.valid hlt rfl i
    · by_cases hia : i = ⟨a, hlt⟩
      · subst hia
        simp [queuedJob, Nat.not_lt.mpr h.le]
      · have hne : i.val ≠ a := fun heq => hia (Fin.ext heq)
        simp only [Function.update_of_ne hia]
        exact h.state i (by omega)
    · by_cases hia : i = ⟨a, hlt⟩
      · subst hia
        simp only [Function.update_self, queuedJob]
        exact h.nextJobId
      · have hne : i.val ≠ a := fun heq => hia (Fin.ext heq)
        simp only [Function.update_of_ne hia]
        exact h.jobId i (by omega)
    · show (l.table.nextJobId + 1).toNat = a + 1 + 1
      rw [UInt32.toNat_add, h.nextJobId]
      simp only [maxJobs, UInt32.toNat_one] at hlt ⊢
      omega
    · rw [firstIds_succ, h.accepted]
  · have hexec : exec (jobExecutorQueue type addr payload len uptime malloc) l.table =
        (-eNOMEM, l.table) := by
      simp only [exec, jobExecutorQueue_run, noneFree_of_valid h.valid (Nat.le_of_not_lt hlt)]
    -- the table is full
    have hstep : l.step (.queue type addr payload len uptime malloc) = l := by
      simp only [JobLog.step, JobExecutorCall.op, hexec, if_true]
    rw [hstep]
    exact ⟨a, h⟩

theorem process_run (hlt : p < a) (startUptime endUptime : UInt32) :
    exec (jobExecutorProcess startUptime endUptime) l.table =
      ((p : Int) + 1, ⟨Function.update l.table.jobs ⟨p, Nat.lt_of_lt_of_le hlt h.room⟩
        ((l.table.jobs ⟨p, Nat.lt_of_lt_of_le hlt h.room⟩).finished startUptime endUptime),
          l.table.nextJobId⟩) := by
  have hroom := h.room
  have hid : (l.table.jobs ⟨p, Nat.lt_of_lt_of_le hlt h.room⟩).jobId.toNat = p + 1 :=
    h.jobId ⟨p, Nat.lt_of_lt_of_le hlt h.room⟩ hlt
  have hint : intOfUInt32 (l.table.jobs ⟨p, Nat.lt_of_lt_of_le hlt h.room⟩).jobId =
      (p : Int) + 1 := by
    rw [intOfUInt32_eq (by rw [hid]; simp only [maxJobs] at hroom; omega), hid]
    rfl
  simp only [exec, jobExecutorProcess_run, h.firstQueued hlt, hint]

theorem process_idle (heq : p = a) (startUptime endUptime : UInt32) :
    exec (jobExecutorProcess startUptime endUptime) l.table = (0, l.table) := by
  simp only [exec, jobExecutorProcess_run, h.noneQueued heq]

theorem process (startUptime endUptime : UInt32) :
    ∃ p', OrderInv (l.step (.process startUptime endUptime)) a p' := by
  rcases Nat.lt_or_eq_of_le h.le with hlt | heq
  · -- the first queued slot is behind those processed
    have hsome : (p : Int) + 1 ≠ 0 := by omega
    have hslot : p < maxJobs := Nat.lt_of_lt_of_le hlt h.room
    have hstep : l.step (.process startUptime endUptime) =
        ⟨⟨Function.update l.table.jobs ⟨p, hslot⟩
          ((l.table.jobs ⟨p, hslot⟩).finished startUptime endUptime),
            l.table.nextJobId⟩, l.accepted, l.processed ++ [(p : Int) + 1]⟩ := by
      simp only [JobLog.step, JobExecutorCall.op, h.process_run hlt, hsome, if_false]
    rw [hstep]
    refine ⟨p + 1, ?_⟩
    refine { le := hlt, room := h.room, valid := fun i => ?_, state := fun i hi => ?_,
             jobId := fun i hi => ?_, nextJobId := h.nextJobId, accepted := h.accepted,
             processed := ?_ }
    · have hkept : ((l.table.jobs ⟨p, hslot⟩).finished startUptime endUptime).valid =
          (l.table.jobs ⟨p, hslot⟩).valid := rfl
      rw [valid_update hkept]
      exact h.valid i
    · by_cases hip : i = ⟨p, hslot⟩
      · subst hip
        simp [Job.finished]
      · have hne : i.val ≠ p := fun heq => hip (Fin.ext heq)
        have hiff : i.val < p + 1 ↔ i.val < p := by omega
        simp only [Function.update_of_ne hip, hiff]
        exact h.state i hi
    · by_cases hip : i = ⟨p, hslot⟩
      · subst hip
        simp only [Function.update_self, Job.finished]
        exact h.jobId _ hi
      · simp only [Function.update_of_ne hip]
        exact h.jobId i hi
    · rw [firstIds_succ, h.processed]
  · -- nothing is queued
    have hstep : l.step (.process startUptime endUptime) = l := by
      simp only [JobLog.step, JobExecutorCall.op, h.process_idle heq, if_true]
    rw [hstep]
    exact ⟨p, h⟩

/-- The pending count. -/
theorem countSlots_isQueued : countSlots Job.isQueued l.table.jobs = a - p := by
  have hroom := h.room
  have hcount := countSlots_eq_length (p := Job.isQueued) (t := l.table.jobs)
    (fun j => some j.jobId.toNat) (l := List.range' (p + 1) (a - p)) (List.nodup_range' ..)
  rw [List.length_range'] at hcount
  refine hcount ?_ ?_ ?_
  · intro i hi
    obtain ⟨hp, ha⟩ := (h.isQueued_iff i).mp hi
    refine ⟨i.val + 1, List.mem_range'_1.mpr (by omega), ?_⟩
    rw [h.jobId i ha]
  · intro i j hi hj hij
    have hids := Option.some.inj hij
    rw [h.jobId i ((h.isQueued_iff i).mp hi).2, h.jobId j ((h.isQueued_iff j).mp hj).2] at hids
    exact Fin.ext (Nat.succ.inj hids)
  · intro b hb
    have hb := List.mem_range'_1.mp hb
    have hslot : b - 1 < maxJobs := by omega
    refine ⟨⟨b - 1, hslot⟩, (h.isQueued_iff _).mpr ⟨by show p ≤ b - 1; omega,
      by show b - 1 < a; omega⟩, ?_⟩
    rw [h.jobId ⟨b - 1, hslot⟩ (by show b - 1 < a; omega)]
    exact congrArg some (by show b - 1 + 1 = b; omega)

end OrderInv

/-- The order invariant holds after every run. -/
theorem orderInv_after (calls : List JobExecutorCall) :
    ∃ a p, OrderInv (JobLog.after calls) a p := by
  have hrun : run (always JobLog.step) ⟨.boot, [], []⟩ calls = some (JobLog.after calls) :=
    run_always ..
  refine run_inv (P := fun l => ∃ a p, OrderInv l a p) ⟨0, 0, orderInv_boot⟩ ?_ hrun
  rintro l c _ ⟨a, p, h⟩ ⟨⟩
  cases c with
  | queue type addr payload len uptime malloc =>
    obtain ⟨a', h'⟩ := h.queue type addr payload len uptime malloc
    exact ⟨a', p, h'⟩
  | process startUptime endUptime =>
    obtain ⟨p', h'⟩ := h.process startUptime endUptime
    exact ⟨a, p', h'⟩

/-- **Jobs are executed exactly once, in order**: after every run of queue and process
calls from `job_executor_init`,
1. the ids returned by the process calls are the first ones of those returned by the
   queue calls;
2. the next process call returns 0 iff all accepted jobs have been processed;
3. the valid slots have different ids, none of them 0;
4. the pending count is the number of accepted jobs less those processed. -/
theorem jobs_in_order (calls : List JobExecutorCall) :
    (JobLog.after calls).table = JobExecutor.after calls ∧
    (JobLog.after calls).processed <+: (JobLog.after calls).accepted ∧
    (∀ startUptime endUptime,
      (exec (jobExecutorProcess startUptime endUptime) (JobExecutor.after calls)).1 = 0 ↔
        (JobLog.after calls).processed = (JobLog.after calls).accepted) ∧
    (∀ i, ((JobExecutor.after calls).jobs i).valid = true →
      ((JobExecutor.after calls).jobs i).jobId ≠ 0) ∧
    (∀ i j, ((JobExecutor.after calls).jobs i).valid = true →
      ((JobExecutor.after calls).jobs j).valid = true →
      ((JobExecutor.after calls).jobs i).jobId = ((JobExecutor.after calls).jobs j).jobId →
      i = j) ∧
    (exec jobExecutorGetPendingCount (JobExecutor.after calls)).1 =
      (JobLog.after calls).accepted.length - (JobLog.after calls).processed.length := by
  obtain ⟨a, p, h⟩ := orderInv_after calls
  rw [← JobLog.table_after]
  refine ⟨rfl, ?_, ?_, ?_, ?_, ?_⟩
  · rw [h.processed, h.accepted]
    exact firstIds_prefix h.le
  · intro startUptime endUptime
    rw [h.processed, h.accepted]
    -- there is a job to process, or all have been
    rcases Nat.lt_or_eq_of_le h.le with hlt | heq
    · rw [h.process_run hlt]
      refine iff_of_false (by show (p : Int) + 1 ≠ 0; omega) fun hall => ?_
      have hlen := congrArg List.length hall
      rw [length_firstIds, length_firstIds] at hlen
      omega
    · rw [h.process_idle heq, heq]
      exact iff_of_true rfl rfl
  · intro i hi hzero
    have hid := h.jobId i ((h.valid i).mp hi)
    rw [hzero] at hid
    exact absurd hid.symm (Nat.succ_ne_zero _)
  · intro i j hi hj hij
    have hids := congrArg UInt32.toNat hij
    rw [h.jobId i ((h.valid i).mp hi), h.jobId j ((h.valid j).mp hj)] at hids
    exact Fin.ext (Nat.succ.inj hids)
  · have hpending : (exec jobExecutorGetPendingCount (JobLog.after calls).table).1 =
        (countSlots Job.isQueued (JobLog.after calls).table.jobs : Int) := by
      simp [exec]
    have hle := h.le
    rw [hpending, h.countSlots_isQueued, h.accepted, h.processed, length_firstIds,
      length_firstIds]
    omega

end SensorNet.Hub
