import SensorNet.Backend.JobLifecycle

/-!
# What a hub can do to the jobs of other hubs

`processJobResult` gets the hub that reports, and does not look at it: any hub can report
on any job. `isolation_iff`: the jobs of other hubs stay as they are iff the job the report
names, if it is stored, is one of the hub that reports, or the report says nothing new
of it.
-/

namespace SensorNet.Backend

open SensorNet.Js

/-- The report leaves every job of another hub, and of no hub, as it is. -/
def Isolated (a : Answers) (hubId : String) (r : JobResult) (s : Store) : Prop :=
  ∀ job ∈ s.jobs.rows, job.hubId ≠ some hubId →
    (processJobResult a hubId r s).jobs.find job.id = some job

/-- Setting the status says nothing new of a job:
1. it has the status;
2. it was last updated at the same time;
3. it was started, if it runs;
4. it was completed at the same time, if it is completed;
5. an error code that is given is the job's;
6. an error message that is given is the job's;
7. a result that is given is the job's. -/
structure NothingNew (now : Date) (args : StatusArgs) (status : JobStatus) (job : Job) :
    Prop where
  status : job.status = status
  updatedAt : job.updatedAt = now
  startedAt : args.status = .value "running" → job.startedAt.isSome
  completedAt : args.Completes → job.completedAt = some now
  errorCode : ∀ code, args.errorCode.ifTruthy truthyString = some code →
    job.errorCode = some code
  errorMessage : ∀ message, args.errorMessage.ifTruthy truthyString = some message →
    job.errorMessage = some message
  result : ∀ result, args.result.ifTruthy Json.truthy = some result →
    job.result = some result

theorem or_eq_self_iff {α : Type} {given old : Option α} :
    given.or old = old ↔ ∀ x, given = some x → old = some x := by
  cases given with
  | none => simp
  | some x => simp [eq_comm]

/-- A row stays as it is iff nothing new is said of it. -/
theorem withStatus_eq_self_iff {now : Date} {args : StatusArgs} {status : JobStatus}
    {job : Job} : job.withStatus now args status = job ↔ NothingNew now args status job := by
  have hstarted : (if args.status = .value "running" then some (job.startedAt.getD now)
      else job.startedAt) = job.startedAt ↔
        (args.status = .value "running" → job.startedAt.isSome) := by
    by_cases hrun : args.status = .value "running"
    · rcases Option.eq_none_or_eq_some job.startedAt with h | ⟨date, h⟩ <;> simp [hrun, h]
    · simp [hrun]
  have hcompleted : (if args.Completes then some now else job.completedAt) = job.completedAt ↔
      (args.Completes → job.completedAt = some now) := by
    by_cases hcomp : args.Completes
    · simp only [hcomp, if_true, forall_const]
      exact eq_comm
    · simp only [hcomp, if_false, false_imp_iff]
  -- column by column; those not named are never written
  constructor
  · intro h
    exact
      { status := (congrArg Job.status h).symm
        updatedAt := (congrArg Job.updatedAt h).symm
        startedAt := hstarted.mp (congrArg Job.startedAt h)
        completedAt := hcompleted.mp (congrArg Job.completedAt h)
        errorCode := or_eq_self_iff.mp (congrArg Job.errorCode h)
        errorMessage := or_eq_self_iff.mp (congrArg Job.errorMessage h)
        result := or_eq_self_iff.mp (congrArg Job.result h) }
  · intro h
    unfold Job.withStatus
    rw [hstarted.mpr h.startedAt, hcompleted.mpr h.completedAt, or_eq_self_iff.mpr h.errorCode,
      or_eq_self_iff.mpr h.errorMessage, or_eq_self_iff.mpr h.result, ← h.status, ← h.updatedAt]

/-- **Isolation of hubs**: a report leaves the jobs of other hubs as they are iff the job that
it sets the status of, if any, is a job of the hub, or the report says nothing new of it. -/
theorem isolation_iff (a : Answers) (hubId : String) (r : JobResult) (s : Store) :
    Isolated a hubId r s ↔
      ∀ job status, statusUpdate a r.args s = some (job, status) →
        job.hubId = some hubId ∨ NothingNew a.now r.args status job := by
  unfold Isolated processJobResult
  rw [updateJobStatus_store]
  cases hupdate : statusUpdate a r.args s with
  | none =>
    -- nothing is stored
    exact iff_of_true (fun job hjob _ => Table.find_eq_some_iff.mpr ⟨hjob, rfl⟩)
      fun _ _ h => nomatch h
  | some found =>
    obtain ⟨job, status⟩ := found
    have hfind := (findOne_ok (statusUpdate_eq_some hupdate).1).2
    have hself : (s.jobs.put (job.withStatus a.now r.args status)).find job.id =
        some (job.withStatus a.now r.args status) := Table.find_put_self _ _
    have hrest : ∀ id, id ≠ job.id →
        (s.jobs.put (job.withStatus a.now r.args status)).find id = s.jobs.find id :=
      fun id hne => Table.find_put_of_ne hne
    constructor
    · intro h other given heq
      cases heq
      refine or_iff_not_imp_left.mpr fun hother => ?_
      have hkept := h job (Table.find_eq_some_iff.mp hfind).1 hother
      rw [hself] at hkept
      exact withStatus_eq_self_iff.mp (Option.some.inj hkept)
    · intro h other hmem hother
      have hold : s.jobs.find other.id = some other := Table.find_eq_some_iff.mpr ⟨hmem, rfl⟩
      -- only the row of the job is written
      by_cases hid : other.id = job.id
      · rw [hid, hfind] at hold
        cases hold
        rw [hself, withStatus_eq_self_iff.mpr ((h job status rfl).resolve_left hother)]
      · exact (hrest other.id hid).trans hold

/-- A store with a job of the hub `hub-001` -/
def oneRunning : Store where
  jobs := Table.empty.put (sampleJob "1" .running)
  twins := fun _ _ => .undefined

/-- Another hub reports that the job of `hub-001` has succeeded, and it has. -/
theorem foreign_job_completed :
    ¬ ∀ (a : Answers) (hubId : String) (r : JobResult) (s : Store), Isolated a hubId r s := by
  intro h
  have hkept := h goodAnswers "hub-002" { jobId := .value "1", status := .value "succeeded" }
    oneRunning (sampleJob "1" .running) (List.mem_singleton_self _) (by decide)
  have hstatus := congrArg (Option.map Job.status) hkept
  exact absurd hstatus (by decide)

end SensorNet.Backend
