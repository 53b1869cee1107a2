import SensorNet.Backend.JobService
import SensorNet.Lib.Census

/-!
# Job statistics while jobs change (`getJobStatistics`)

The statistics are five counts of the table of jobs, one after another, each awaited before the
next one is asked for: other requests, and parts of other requests, write to the table in
between. So the counts need not be those of any one moment.

`statistics_bounds` says by how much: the total and what the four states add up to, with the
jobs that had timed out or were cancelled at the beginning, differ at most by the rows that were
written meanwhile (and without any, they agree). `serveStep_writes` says which rows a call of
the service writes.
-/

namespace SensorNet.Backend

open SensorNet.Js Census

/-- What `getJobStatistics` returns -/
structure JobStatistics where
  total : Nat
  queued : Nat
  running : Nat
  succeeded : Nat
  failed : Nat
  deriving DecidableEq, Repr

/-- `jobRepository.count({ where: { status } })` -/
def countStatus (jobs : JobTable) (status : JobStatus) : Nat :=
  jobs.rows.countP fun job => job.status == status

/-- What is written to the table between the counts: after that of all jobs, of the queued, of
the running and of the succeeded ones -/
structure Meanwhile where
  total : List (TableWrite Job) := []
  queued : List (TableWrite Job) := []
  running : List (TableWrite Job) := []
  succeeded : List (TableWrite Job) := []

/-- `getJobStatistics` -/
def getJobStatistics (w : Meanwhile) (jobs : JobTable) : JobStatistics :=
  let total := jobs.rows.length
  let jobs := TableWrite.applyAll jobs w.total
  let queued := countStatus jobs .queued
  let jobs := TableWrite.applyAll jobs w.queued
  let running := countStatus jobs .running
  let jobs := TableWrite.applyAll jobs w.running
  let succeeded := countStatus jobs .succeeded
  let jobs := TableWrite.applyAll jobs w.succeeded
  let failed := countStatus jobs .failed
  { total, queued, running, succeeded, failed }

/-! ## What other requests write -/

/-- The writes of a call of the service to the table: none, a row, a row twice, or those that a
cleanup deletes. -/
theorem serveStep_writes (s : Store) (e : Answers × ServiceCall) :
    ∃ writes : List (TableWrite Job),
      (serveStep s e).jobs = TableWrite.applyAll s.jobs writes ∧
        TableWrite.savedAll writes ≤ 2 := by
  obtain ⟨a, call⟩ := e
  cases hdata : call.jobData with
  | some jobData =>
    rw [serveStep, exec_of_jobData hdata]
    cases hsave : save a.saveFails a (newJob a.now jobData) s.jobs with
    | error e =>
      rw [createJob_refused hsave]
      exact ⟨[], rfl, Nat.zero_le _⟩
    | ok stored =>
      obtain ⟨savedJob, jobs⟩ := stored
      obtain ⟨row, hrow, rfl, rfl, -⟩ := save_ok hsave
      -- `createJob` saves once, or twice where it stores the failure
      rcases (createJob_store hrow hsave).2 with ⟨-, hjobs⟩ | ⟨-, message, hjobs⟩
      · exact ⟨[.save row], hjobs, Nat.le_succ 1⟩
      · exact ⟨[.save row, .save ((newJob a.now jobData).failedRow row message)], hjobs,
          Nat.le_refl 2⟩
  | none =>
    cases call with
    | setStatus call =>
      show ∃ writes, (call.exec a s).jobs = _ ∧ _
      -- all calls that set a status save one row at most
      rw [StatusCall.exec_eq, updateJobStatus_store]
      cases statusUpdate a call.args s with
      | none => exact ⟨[], rfl, Nat.zero_le _⟩
      | some found =>
        exact ⟨[.save (found.1.withStatus a.now call.args found.2)], rfl, Nat.le_succ 1⟩
    | cleanupOldJobs cutoffDate daysOld =>
      exact ⟨[.delete (deletedBefore (cutoffDate daysOld))], rfl, Nat.zero_le _⟩
    | createJob | createPushNodeConfigJob | createPullNodeDiagnosticsJob
    | createFirmwareUpdateJob => cases hdata

/-! ## The statistics are a census -/

/-- The counts of the four states, and what is written after each -/
def statePlan (w : Meanwhile) : Plan Job := [
  ((fun job => job.status == .queued), w.queued),
  ((fun job => job.status == .running), w.running),
  ((fun job => job.status == .succeeded), w.succeeded),
  ((fun job => job.status == .failed), [])]

theorem statePlan_exclusive (w : Meanwhile) : Exclusive (statePlan w) := by
  have hne : ∀ a b : JobStatus, a ≠ b → ∀ job : Job,
      (job.status == a) = true → (job.status == b) = false := by
    intro a b hab job ha
    rw [beq_iff_eq] at ha
    rw [ha, beq_eq_false_iff_ne]
    exact hab
  simp only [Exclusive, statePlan, List.pairwise_cons, List.mem_cons, List.not_mem_nil, or_false,
    forall_eq_or_imp, forall_eq, IsEmpty.forall_iff, implies_true, List.Pairwise.nil, and_true]
  exact ⟨⟨hne _ _ (by decide), hne _ _ (by decide), hne _ _ (by decide)⟩,
    ⟨hne _ _ (by decide), hne _ _ (by decide)⟩, hne _ _ (by decide)⟩

/-- The jobs that are in none of the four states -/
def uncounted (jobs : JobTable) : Nat :=
  countStatus jobs .timeout + countStatus jobs .cancelled

/-- A job is in one of the four states, has timed out, or is cancelled. -/
theorem length_eq_counted (w : Meanwhile) (jobs : JobTable) :
    jobs.rows.length = jobs.rows.countP (some? (statePlan w)) + uncounted jobs := by
  have hone : ∀ status : JobStatus,
      (if (status == .queued || (status == .running || (status == .succeeded ||
        (status == .failed || false)))) = true then 1 else 0) +
      ((if (status == .timeout) = true then 1 else 0) +
        if (status == .cancelled) = true then 1 else 0) = 1 := by
    intro status
    cases status <;> rfl
  unfold uncounted countStatus
  induction jobs.rows with
  | nil => rfl
  | cons job rows ih =>
    have hjob := hone job.status
    have hcons : (job :: rows).countP (some? (statePlan w)) =
        rows.countP (some? (statePlan w)) +
          if (job.status == .queued || (job.status == .running || (job.status == .succeeded ||
            (job.status == .failed || false)))) = true then 1 else 0 := List.countP_cons
    rw [List.length_cons, ih, hcons, List.countP_cons, List.countP_cons]
    omega

/-- The rows that are stored between the first count and the last one -/
def Meanwhile.saved (w : Meanwhile) : Nat :=
  TableWrite.savedAll w.total + TableWrite.savedAll w.queued + TableWrite.savedAll w.running +
    TableWrite.savedAll w.succeeded

/-- The rows that are stored or deleted between the first count and the last one -/
def Meanwhile.touched (w : Meanwhile) (jobs : JobTable) : Nat :=
  TableWrite.touchedAll jobs w.total +
    Census.touched (TableWrite.applyAll jobs w.total) (statePlan w)

/-- What the four states add up to -/
def JobStatistics.counted (st : JobStatistics) : Nat :=
  st.queued + st.running + st.succeeded + st.failed

/-- The statistics are true of the jobs at the first count, but for what is written meanwhile:
1. the total is that of the first count;
2. what the four states add up to, with the jobs in no such state, is too much at most by the
rows stored meanwhile,
3. and too little at most by the rows stored or deleted meanwhile. -/
structure NearlyTrue (w : Meanwhile) (jobs : JobTable) (st : JobStatistics) : Prop where
  total : st.total = jobs.rows.length
  upper : st.counted + uncounted jobs ≤ st.total + w.saved
  lower : st.total ≤ st.counted + uncounted jobs + w.touched jobs

/-- **The statistics are off by the rows written meanwhile**, whatever these are. -/
theorem statistics_bounds (w : Meanwhile) (jobs : JobTable) :
    NearlyTrue w jobs (getJobStatistics w jobs) := by
  have hcounted : (getJobStatistics w jobs).counted =
      tally (TableWrite.applyAll jobs w.total) (statePlan w) := by
    simp only [getJobStatistics, JobStatistics.counted, tally, statePlan, countStatus]
    omega
  have htotal := length_eq_counted w jobs
  obtain ⟨hless, hmore⟩ := countP_applyAll jobs w.total (some? (statePlan w))
  have hle := tally_le (TableWrite.applyAll jobs w.total) (statePlan_exclusive w)
  have hge := le_tally (TableWrite.applyAll jobs w.total) (statePlan_exclusive w)
  have hsaved : Census.saved (statePlan w) = TableWrite.savedAll w.queued +
      TableWrite.savedAll w.running + TableWrite.savedAll w.succeeded := by
    simp only [Census.saved, statePlan, TableWrite.savedAll]
    omega
  have hfirst : (getJobStatistics w jobs).total = jobs.rows.length := rfl
  refine ⟨hfirst, ?_, ?_⟩
  · rw [hcounted, hfirst, Meanwhile.saved]
    omega
  · rw [hcounted, hfirst, Meanwhile.touched]
    omega

end SensorNet.Backend
