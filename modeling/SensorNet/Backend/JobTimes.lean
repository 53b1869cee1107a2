import SensorNet.Backend.JobDelivery

/-!
# When a job started and when it was completed

`updateJobStatus` sets `startedAt` when a job first runs and `completedAt` when it has
succeeded, failed or timed out. It knows nothing of cancellation, so a job that is
cancelled is never completed, and the two saves of `createJob` know nothing of either: a
job that cannot be sent has failed without being completed.

`times_iff`: in a run the times of all jobs fit their states after every call iff every
call meets `KeepsTimes`.
-/

namespace SensorNet.Backend

open SensorNet.Js

/-! ## Times that fit the states -/

/-- The times in a row fit its status, and the time `ran` at which the job is known to have
run first:
1. it is completed iff it is finished;
2. it is started if it runs;
3. it was started when it ran first;
4. it was not completed before it started. -/
structure RowTimes (ran : Option Date) (job : Job) : Prop where
  completed : job.completedAt.isSome = job.status.finished
  running : job.status = .running → job.startedAt.isSome
  started : ∀ date, ran = some date → job.startedAt = some date
  ordered : ∀ started completed, job.startedAt = some started →
    job.completedAt = some completed → started ≤ completed

/-- The store, and for each job that has ever been seen running its `startedAt` at that
time. -/
structure Observed where
  store : Store
  ran : String → Option Date

/-- `startedAt` of the job with the id, if it runs -/
def runningSince (s : Store) (id : String) : Option Date :=
  (s.jobs.find id).bind fun job => if job.status = .running then job.startedAt else none

/-- One call, with what is seen of the jobs after it -/
def timesStep (o : Observed) (e : Answers × JobCall) : Observed :=
  { store := e.2.exec e.1 o.store
    ran := fun id => (o.ran id).or (runningSince (e.2.exec e.1 o.store) id) }

/-- The times of all jobs fit. -/
def TimesFit (o : Observed) : Prop := ∀ job ∈ o.store.jobs.rows, RowTimes (o.ran job.id) job

variable {a : Answers} {o : Observed} {ran : Option Date} {job : Job}

/-- That a job is now seen running says nothing new of its row. -/
theorem rowTimes_or_iff :
    RowTimes (ran.or (if job.status = .running then job.startedAt else none)) job ↔
      RowTimes ran job := by
  constructor
  · intro h
    refine ⟨h.completed, h.running, fun date hdate => h.started date ?_, h.ordered⟩
    rw [hdate, Option.some_or]
  · intro h
    refine ⟨h.completed, h.running, fun date hdate => ?_, h.ordered⟩
    cases hran : ran with
    | some first =>
      rw [hran, Option.some_or] at hdate
      exact h.started date (hran.trans hdate)
    | none =>
      rw [hran, Option.none_or] at hdate
      exact (Option.ite_none_right_eq_some.mp hdate).2

theorem timesFit_timesStep {e : Answers × JobCall} :
    TimesFit (timesStep o e) ↔
      ∀ job ∈ (e.2.exec e.1 o.store).jobs.rows, RowTimes (o.ran job.id) job := by
  refine forall_congr' fun job => forall_congr' fun hjob => ?_
  have hfind : (e.2.exec e.1 o.store).jobs.find job.id = some job :=
    Table.find_eq_some_iff.mpr ⟨hjob, rfl⟩
  have hsince : runningSince (e.2.exec e.1 o.store) job.id =
      if job.status = .running then job.startedAt else none := by
    unfold runningSince
    rw [hfind, Option.bind_some]
  show RowTimes ((o.ran job.id).or (runningSince (e.2.exec e.1 o.store) job.id)) job ↔ _
  rw [hsince]
  exact rowTimes_or_iff

/-- After a row is stored the times of all jobs fit iff those of the row do. -/
theorem rowTimes_put_iff {jobs : JobTable} {row : Job} (hfit : TimesFit o)
    (hjobs : ∀ r, r ∈ jobs.rows ↔ r = row ∨ (r ∈ o.store.jobs.rows ∧ r.id ≠ row.id)) :
    (∀ job ∈ jobs.rows, RowTimes (o.ran job.id) job) ↔ RowTimes (o.ran row.id) row := by
  constructor
  · intro h
    exact h row ((hjobs row).mpr (.inl rfl))
  · intro h job hjob
    rcases (hjobs job).mp hjob with rfl | ⟨hold, -⟩
    · exact h
    · exact hfit job hold

/-! ## Setting a status -/

/-- A status that is stored was given, or was there. -/
theorem given_of_stored {given : Field String} {old new : JobStatus}
    (h : given.writeRequired JobStatus.ofText? (some old) = some new) :
    given = .value new.text ∨ new = old := by
  cases given with
  | undefined => exact .inr (Option.some.inj h).symm
  | null => cases h
  | value text => exact .inl (by rw [JobStatus.text_of_ofText? h])

theorem finished_of_completes {args : StatusArgs} {old status : JobStatus}
    (h : args.Completes)
    (hstatus : args.status.writeRequired JobStatus.ofText? (some old) = some status) :
    status.finished = true := by
  rcases h with h | h | h
  · rw [stored_of_given .succeeded h hstatus]
    rfl
  · rw [stored_of_given .failed h hstatus]
    rfl
  · rw [stored_of_given .timeout h hstatus]
    rfl

section
variable {args : StatusArgs} {status : JobStatus} (h : RowTimes ran job)
  (hstatus : args.status.writeRequired JobStatus.ofText? (some job.status) = some status)
include h hstatus

/-- A status that completes the job fits iff the job does not complete before it started. -/
theorem rowTimes_completes_iff (hcomp : args.Completes) :
    RowTimes ran (job.withStatus a.now args status) ↔
      ∀ started, job.startedAt = some started → started ≤ a.now := by
  have hfin := finished_of_completes hcomp hstatus
  have hnot : args.status ≠ .value "running" := by
    rcases hcomp with hgiven | hgiven | hgiven <;> simp [hgiven]
  have hstarted : (job.withStatus a.now args status).startedAt = job.startedAt := if_neg hnot
  have hcompleted : (job.withStatus a.now args status).completedAt = some a.now := if_pos hcomp
  constructor
  · intro hrow started hst
    exact hrow.ordered started a.now (hstarted.trans hst) hcompleted
  · intro hbefore
    refine ⟨?_, fun hrun => ?_, fun date hdate => ?_, fun started completed hst hco => ?_⟩
    · rw [hcompleted]
      exact hfin.symm
    · rw [show status = .running from hrun] at hfin
      cases hfin
    · rw [hstarted]
      exact h.started date hdate
    · rw [hstarted] at hst
      rw [hcompleted] at hco
      cases hco
      exact hbefore started hst

/-- When the job is said to run, it was not completed, and its first start stays. -/
theorem rowTimes_running (hgiven : args.status = .value "running")
    (hcomp : ¬ args.Completes) (hsame : job.status.finished = status.finished) :
    RowTimes ran (job.withStatus a.now args status) := by
  have hnow : status = .running := stored_of_given .running hgiven hstatus
  have hstarted : (job.withStatus a.now args status).startedAt =
      some (job.startedAt.getD a.now) := if_pos hgiven
  have hcompleted : (job.withStatus a.now args status).completedAt = job.completedAt :=
    if_neg hcomp
  have hnone : job.completedAt = none := by
    rw [← Option.isSome_eq_false_iff.trans Option.isNone_iff_eq_none, h.completed, hsame, hnow]
    rfl
  -- the start is the one there was, or now
  refine ⟨?_, fun _ => ?_, fun date hdate => ?_, fun started completed _ hco => ?_⟩
  · rw [hcompleted, h.completed]
    exact hsame
  · rw [hstarted]
    rfl
  · rw [hstarted, h.started date hdate]
    rfl
  · rw [hcompleted, hnone] at hco
    cases hco

/-- A status that does not complete the job fits iff it leaves it as finished or unfinished as
it was. -/
theorem rowTimes_keeps_iff (hcomp : ¬ args.Completes) :
    RowTimes ran (job.withStatus a.now args status) ↔
      job.status.finished = status.finished := by
  have hcompleted : (job.withStatus a.now args status).completedAt = job.completedAt :=
    if_neg hcomp
  constructor
  · -- `completedAt` is kept, so the two statuses agree on whether the job is finished
    intro hrow
    rw [← h.completed, ← hcompleted]
    exact hrow.completed
  · intro hsame
    by_cases hgiven : args.status = .value "running"
    · exact rowTimes_running h hstatus hgiven hcomp hsame
    · -- neither time is set
      have hstarted : (job.withStatus a.now args status).startedAt = job.startedAt :=
        if_neg hgiven
      refine ⟨?_, fun hrun => ?_, fun date hdate => ?_, fun started completed hst hco => ?_⟩
      · rw [hcompleted, h.completed]
        exact hsame
      · have hrun' : status = .running := hrun
        rw [hstarted]
        rcases given_of_stored hstatus with htext | hold
        · rw [hrun'] at htext
          exact absurd htext hgiven
        · -- the status was running before, and has been kept
          exact h.running (hold.symm.trans hrun')
      · rw [hstarted]
        exact h.started date hdate
      · rw [hstarted] at hst
        rw [hcompleted] at hco
        exact h.ordered started completed hst hco

/-- A status that is set fits iff it completes the job or leaves it as finished or unfinished
as it was, and the job does not complete before it started. -/
theorem rowTimes_withStatus_iff :
    RowTimes ran (job.withStatus a.now args status) ↔
      (args.Completes ∨ job.status.finished = status.finished) ∧
        (args.Completes → ∀ started, job.startedAt = some started → started ≤ a.now) := by
  by_cases hcomp : args.Completes
  · rw [rowTimes_completes_iff h hstatus hcomp]
    exact ⟨fun hbefore => ⟨.inl hcomp, fun _ => hbefore⟩, fun hfit => hfit.2 hcomp⟩
  · rw [rowTimes_keeps_iff h hstatus hcomp]
    exact ⟨fun hsame => ⟨.inr hsame, fun hthen => absurd hthen hcomp⟩,
      fun hfit => hfit.1.resolve_left hcomp⟩

end

/-! ## Creating a job -/

/-- A job that is created fits in two cases. Where its failure is stored, the call gives a
time of completion, and not one before the start that it gives; else, the call gives none,
and the row it overwrites, if any, is not completed. And a job that has run keeps its start. -/
def CreationFits (failed : Bool) (ran : Option Date) (old : Option Job) (jobData : JobEntity) :
    Prop :=
  if failed then
    (∃ completed, jobData.completedAt = .value completed ∧
      ∀ started, jobData.startedAt = .value started → started ≤ completed) ∧
    ∀ date, ran = some date → jobData.startedAt = .value date
  else
    (jobData.completedAt = .null ∨
      jobData.completedAt = .undefined ∧ old.bind Job.completedAt = none) ∧
    ∀ date, ran = some date → jobData.startedAt = .value date ∨
      jobData.startedAt = .undefined ∧ old.bind Job.startedAt = some date

theorem rowTimes_failed_iff {jobData : JobEntity} {failed : Job} (old : Option Job)
    (hstatus : failed.status = .failed)
    (hstarted : failed.startedAt = jobData.startedAt.write none)
    (hcompleted : failed.completedAt = jobData.completedAt.write none) :
    RowTimes ran failed ↔ CreationFits true ran old jobData := by
  have hwrite : ∀ {given : Field Date} {date}, given.write none = some date ↔
      given = .value date := by
    intro given date
    rw [write_eq_some_iff]
    simp
  constructor
  · intro h
    refine ⟨?_, fun date hdate => ?_⟩
    · -- a failed job has a time of completion, which only the data can give
      obtain ⟨completed, hdone⟩ : ∃ completed, failed.completedAt = some completed := by
        rw [← Option.isSome_iff_exists, h.completed, hstatus]
        rfl
      refine ⟨completed, hwrite.mp (hcompleted.symm.trans hdone), fun started hgiven => ?_⟩
      exact h.ordered started completed (hstarted.trans (hwrite.mpr hgiven)) hdone
    · exact hwrite.mp (hstarted.symm.trans (h.started date hdate))
  · rintro ⟨⟨completed, hdone, hbefore⟩, hran⟩
    have hnow : failed.completedAt = some completed := hcompleted.trans (hwrite.mpr hdone)
    refine ⟨?_, fun hrun => ?_, fun date hdate => ?_, fun started other hst hother => ?_⟩
    · rw [hnow, hstatus]
      rfl
    · rw [hstatus] at hrun
      cases hrun
    · exact hstarted.trans (hwrite.mpr (hran date hdate))
    · rw [hnow] at hother
      cases hother
      exact hbefore started (hwrite.mp (hstarted.symm.trans hst))

theorem rowTimes_queued_iff {jobData : JobEntity} {row : Job} {old : Option Job}
    (hstatus : row.status = .queued)
    (hstarted : row.startedAt = jobData.startedAt.write (old.bind Job.startedAt))
    (hcompleted : row.completedAt = jobData.completedAt.write (old.bind Job.completedAt)) :
    RowTimes ran row ↔ CreationFits false ran old jobData := by
  constructor
  · intro h
    refine ⟨?_, fun date hdate => ?_⟩
    · rw [← write_eq_none_iff, ← hcompleted, ← Option.isNone_iff_eq_none,
        ← Option.isSome_eq_false_iff, h.completed, hstatus]
      rfl
    · rw [← write_eq_some_iff, ← hstarted]
      exact h.started date hdate
  · rintro ⟨hnone, hran⟩
    -- a queued job has no time of completion, from the data or the row before
    rw [← write_eq_none_iff, ← hcompleted] at hnone
    refine ⟨?_, fun hrun => ?_, fun date hdate => ?_, fun started completed _ hdone => ?_⟩
    · rw [hnone, hstatus]
      rfl
    · rw [hstatus] at hrun
      cases hrun
    · rw [hstarted, write_eq_some_iff]
      exact hran date hdate
    · rw [hnone] at hdone
      cases hdone

/-! ## Runs -/

/-- The condition under which a call keeps the times of the jobs right: a status that it
stores completes the job, not before its start, or leaves it as finished or unfinished as it
was; and a job that it creates fits. -/
def KeepsTimes (o : Observed) (e : Answers × JobCall) : Prop :=
  match e.2 with
  | .setStatus call => ∀ job status, statusUpdate e.1 call.args o.store = some (job, status) →
      (call.args.Completes ∨ job.status.finished = status.finished) ∧
      (call.args.Completes → ∀ started, job.startedAt = some started → started ≤ e.1.now)
  | .createJob jobData =>
      (save e.1.saveFails e.1 (newJob e.1.now jobData) o.store.jobs).toBool = true →
      CreationFits (failureStored e.1 jobData o.store) (o.ran (newId e.1 jobData))
        (o.store.jobs.find (newId e.1 jobData)) jobData

theorem timesFit_setStatus (hfit : TimesFit o) (a : Answers) (call : StatusCall) :
    TimesFit (timesStep o (a, .setStatus call)) ↔ KeepsTimes o (a, .setStatus call) := by
  rw [timesFit_timesStep]
  show (∀ job ∈ (call.exec a o.store).jobs.rows, _) ↔
    ∀ job status, statusUpdate a call.args o.store = some (job, status) → _
  rw [StatusCall.exec_eq, updateJobStatus_store]
  cases hupdate : statusUpdate a call.args o.store with
  | none => exact iff_of_true hfit fun _ _ h => nomatch h
  | some found =>
    obtain ⟨job, status⟩ := found
    obtain ⟨hfound, -, hstatus⟩ := statusUpdate_eq_some hupdate
    have hmem := (Table.find_eq_some_iff.mp (findOne_ok hfound).2).1
    have hrow : RowTimes (o.ran job.id) (job.withStatus a.now call.args status) ↔ _ :=
      rowTimes_withStatus_iff (hfit job hmem) hstatus
    rw [rowTimes_put_iff hfit fun r => Table.mem_put]
    refine hrow.trans ?_
    constructor
    · intro h other given heq
      cases heq
      exact h
    · exact fun h => h job status rfl

theorem timesFit_createJob (hfit : TimesFit o) (a : Answers) (jobData : JobEntity) :
    TimesFit (timesStep o (a, .createJob jobData)) ↔ KeepsTimes o (a, .createJob jobData) := by
  rw [timesFit_timesStep]
  show (∀ job ∈ (createJob a jobData o.store).2.jobs.rows, _) ↔
    ((save a.saveFails a (newJob a.now jobData) o.store.jobs).toBool = true →
      CreationFits (failureStored a jobData o.store) (o.ran (newId a jobData))
        (o.store.jobs.find (newId a jobData)) jobData)
  cases hsave : save a.saveFails a (newJob a.now jobData) o.store.jobs with
  | error e =>
    rw [createJob_refused hsave]
    exact iff_of_true hfit fun h => nomatch h
  | ok stored =>
    obtain ⟨savedJob, jobs⟩ := stored
    have hnewId := save_newId hsave
    obtain ⟨row, hrow, rfl, rfl, -⟩ := save_ok hsave
    have hid : row.id = newId a jobData := Field.value.inj hnewId
    rw [← hid]
    rcases (createJob_store hrow hsave).2 with ⟨hno, hjobs⟩ | ⟨hyes, message, hjobs⟩
    · -- the row that was stored first is there
      have hstored := JobEntity.row_spec hrow
      rw [hjobs, hno, rowTimes_put_iff hfit fun r => Table.mem_put,
        rowTimes_queued_iff (newJob_queued hrow) hstored.startedAt hstored.completedAt]
      exact ⟨fun h _ => h, fun h => h rfl⟩
    · -- the failed job is in its place
      have hkey : ((newJob a.now jobData).failedRow row message).id = row.id := rfl
      rw [hjobs, hyes, rowTimes_put_iff hfit fun r => Table.mem_put_put hkey]
      have hfits : RowTimes (o.ran row.id) ((newJob a.now jobData).failedRow row message) ↔ _ :=
        rowTimes_failed_iff (o.store.jobs.find row.id) rfl rfl rfl
      refine hfits.trans ?_
      exact ⟨fun h _ => h, fun h => h rfl⟩

theorem timesFit_step {e : Answers × JobCall} (hfit : TimesFit o) :
    TimesFit (timesStep o e) ↔ KeepsTimes o e := by
  obtain ⟨a, call⟩ := e
  cases call with
  | setStatus call => exact timesFit_setStatus hfit a call
  | createJob jobData => exact timesFit_createJob hfit a jobData

/-- **Times of jobs**: from a store in which they do, the times of all jobs fit after every
call of a run iff every call keeps them right. -/
theorem times_iff {first : Observed} {calls : List (Answers × JobCall)}
    (hfirst : TimesFit first) :
    (∀ k, TimesFit ((calls.take k).foldl timesStep first)) ↔
      Along (always timesStep) KeepsTimes first calls := by
  rw [← prefixes_iff_along (J := fun _ => True) hfirst trivial (fun _ _ _ _ _ => trivial)
    (fun t e v _ hfit hstep => by cases hstep; exact timesFit_step hfit)
    (run_always timesStep first calls)]
  simp

/-- No jobs, and none seen running -/
def nothingYet : Observed := ⟨noJobs, fun _ => none⟩

theorem timesFit_nothingYet : TimesFit nothingYet :=
  fun _ hjob => absurd hjob List.not_mem_nil

/-- A job that is created and then cancelled -/
theorem times_of_createdAndCancelled :
    (∀ k, TimesFit ((createdAndCancelled.take k).foldl timesStep nothingYet)) ↔
      Along (always timesStep) KeepsTimes nothingYet createdAndCancelled :=
  times_iff timesFit_nothingYet

/-- A job that is cancelled is never completed. -/
theorem cancelled_not_completed :
    ¬ ∀ (calls : List (Answers × JobCall)) (k : Nat),
      TimesFit ((calls.take k).foldl timesStep nothingYet) := by
  intro h
  have hfit := h createdAndCancelled 2
  obtain ⟨job, hjob, hstatus, hcompleted⟩ : ∃ job,
      ((createdAndCancelled.take 2).foldl timesStep nothingYet).store.jobs.find "2" = some job ∧
        job.status = .cancelled ∧ job.completedAt = none := ⟨_, rfl, rfl, rfl⟩
  have hrow := (hfit job (Table.find_eq_some_iff.mp hjob).1).completed
  rw [hstatus, hcompleted] at hrow
  cases hrow

end SensorNet.Backend
