import SensorNet.Backend.JobDelivery

/-!
# Deleting old jobs

`cleanupOldJobs` deletes the finished jobs that were completed before a date: it looks at
`completedAt`. That is the time since which a job is finished only as far as the other methods
keep it: they do not set it when a job is cancelled, or when a new job cannot be sent, and set
it once more when a finished job is reported finished again. (With `NULL` there, a job is never
deleted.)

`retention_iff`: after every call of a run `cleanupOldJobs`, with any date, deletes exactly the
jobs that have been finished since before the date iff every call meets `KeepsCompletion`.
-/

namespace SensorNet.Backend

open SensorNet.Js

/-! ## The method -/

/-- `where('status IN (:...statuses)', …).andWhere('completedAt < :cutoffDate', …)` -/
def deletedBefore (cutoffDate : Date) (job : Job) : Bool :=
  [JobStatus.succeeded, .failed, .timeout, .cancelled].contains job.status &&
    job.completedAt.any fun completedAt => completedAt < cutoffDate

/-- `cleanupOldJobs`: the number of jobs deleted, and what is left. `cutoffDate` is the date
that many days ago, in local time. -/
def cleanupOldJobs (cutoffDate : Nat → Date) (s : Store) (daysOld : Nat := 30) : Nat × Store :=
  (s.jobs.rows.countP (deletedBefore (cutoffDate daysOld)),
    { s with jobs := s.jobs.filter fun job => !deletedBefore (cutoffDate daysOld) job })

theorem deletedBefore_eq_true_iff {cutoffDate : Date} {job : Job} :
    deletedBefore cutoffDate job = true ↔ job.status.finished = true ∧
      ∃ completedAt, job.completedAt = some completedAt ∧ completedAt < cutoffDate := by
  have hstatus : [JobStatus.succeeded, .failed, .timeout, .cancelled].contains job.status =
      job.status.finished := by
    cases job.status <;> rfl
  rw [deletedBefore, hstatus, Bool.and_eq_true, Option.any_eq_true]
  simp

/-! ## Since when a job is finished -/

/-- The store, and for each job that is finished the time since which it is -/
structure Dated where
  store : Store
  since : String → Option Date

/-- Since when jobs are finished, once a store has been seen -/
def finishedSince (now : Date) (s : Store) (since : String → Option Date) (id : String) :
    Option Date :=
  (s.jobs.find id).bind fun job =>
    if job.status.finished then some ((since id).getD now) else none

/-- What `createJob` has stored before it sends the job to its hub -/
def storedFirst (a : Answers) (s : Store) : JobCall → Store
  | .createJob jobData =>
    match save a.saveFails a (newJob a.now jobData) s.jobs with
    | .ok (_, jobs) => { s with jobs }
    | .error _ => s
  | .setStatus _ => s

/-- What is known of the jobs, once a store has been seen -/
def Dated.see (o : Dated) (now : Date) (s : Store) : Dated := ⟨s, finishedSince now s o.since⟩

/-- One call, with what is seen of the jobs during it and after it -/
def datedStep (o : Dated) (e : Answers × JobCall) : Dated :=
  (o.see e.1.now (storedFirst e.1 o.store e.2)).see e.1.now (e.2.exec e.1 o.store)

/-- The times are those of the finished jobs. -/
def Tracks (o : Dated) : Prop :=
  ∀ id, (o.since id).isSome ↔ ∃ job, o.store.jobs.find id = some job ∧ job.status.finished = true

/-- What is to hold of a call of `cleanupOldJobs`:
1. it deletes a job iff it has been finished since before the date;
2. it adds none;
3. it returns the number of jobs that it deletes;
4. it leaves the twins. -/
structure DeletesOld (o : Dated) (cutoffDate : Date) (result : Nat × Store) : Prop where
  deletes : ∀ job ∈ o.store.jobs.rows,
    job ∉ result.2.jobs.rows ↔ ∃ date, o.since job.id = some date ∧ date < cutoffDate
  keeps : result.2.jobs.Keeps o.store.jobs
  counts : result.1 + result.2.jobs.rows.length = o.store.jobs.rows.length
  twins : result.2.twins = o.store.twins

/-- Whenever `cleanupOldJobs` is called now, it deletes the old jobs. -/
def Retains (o : Dated) : Prop :=
  ∀ (cutoffDate : Nat → Date) (daysOld : Nat),
    DeletesOld o (cutoffDate daysOld) (cleanupOldJobs cutoffDate o.store daysOld)

/-- Finished jobs were completed when they were finished. -/
def CompletedSince (o : Dated) : Prop :=
  ∀ job ∈ o.store.jobs.rows, job.status.finished = true → job.completedAt = o.since job.id

variable {o : Dated}

theorem Tracks.since_eq_none (h : Tracks o) {job : Job} (hjob : job ∈ o.store.jobs.rows)
    (hunfinished : job.status.finished = false) : o.since job.id = none := by
  rw [← Option.isNone_iff_eq_none, ← Option.not_isSome_iff_eq_none.trans
    Option.isNone_iff_eq_none.symm, h]
  rintro ⟨other, hother, hfinished⟩
  obtain ⟨hmem, hkey⟩ := Table.find_eq_some_iff.mp hother
  rw [o.store.jobs.eq_of_key_eq hmem hjob hkey, hunfinished] at hfinished
  cases hfinished

/-- `cleanupOldJobs` deletes the old jobs iff the finished ones were completed when they were
finished. -/
theorem retains_iff (h : Tracks o) : Retains o ↔ CompletedSince o := by
  have hdeleted : ∀ (cutoffDate : Nat → Date) (daysOld : Nat) {job : Job},
      job ∈ o.store.jobs.rows →
      (job ∉ (cleanupOldJobs cutoffDate o.store daysOld).2.jobs.rows ↔
        deletedBefore (cutoffDate daysOld) job = true) := by
    intro cutoffDate daysOld job hjob
    simp [cleanupOldJobs, hjob]
  constructor
  · intro hretains job hjob hfinished
    obtain ⟨date, hdate⟩ := Option.isSome_iff_exists.mp
      ((h job.id).mpr ⟨job, Table.find_eq_some_iff.mpr ⟨hjob, rfl⟩, hfinished⟩)
    have hat : ∀ cutoffDate, deletedBefore cutoffDate job = true ↔ date < cutoffDate := by
      intro cutoffDate
      rw [← hdeleted (fun _ => cutoffDate) 1 hjob,
        (hretains (fun _ => cutoffDate) 1).deletes job hjob, hdate]
      simp
    -- it is deleted with the next date, and not with this one
    obtain ⟨-, completed, hcompleted, hbefore⟩ :=
      deletedBefore_eq_true_iff.mp ((hat (date + 1)).mpr (Nat.lt_succ_self date))
    have hnot : ¬ completed < date := fun hlt => Nat.lt_irrefl date
      ((hat date).mp (deletedBefore_eq_true_iff.mpr ⟨hfinished, completed, hcompleted, hlt⟩))
    rw [hcompleted, hdate, Nat.le_antisymm (Nat.lt_succ_iff.mp hbefore) (Nat.not_lt.mp hnot)]
  · intro hcompleted cutoffDate daysOld
    refine ⟨fun job hjob => ?_, fun job hjob => ?_, ?_, rfl⟩
    · rw [hdeleted cutoffDate daysOld hjob, deletedBefore_eq_true_iff]
      cases hfinished : job.status.finished with
      | true =>
        rw [hcompleted job hjob hfinished]
        simp
      | false =>
        rw [h.since_eq_none hjob hfinished]
        simp
    · exact (Table.mem_filter.mp hjob).1
    · simpa [cleanupOldJobs, Table.filter, List.countP_eq_length_filter] using
        (List.length_eq_countP_add_countP (deletedBefore (cutoffDate daysOld))
          (l := o.store.jobs.rows)).symm

/-! ## When a call keeps jobs completed -/

/-- The condition under which a call keeps finished jobs completed since they are finished: a
status that it stores in an unfinished job completes it, if it finishes it at all, and one that
it stores in a finished job does not complete it anew; and it stores no failure of a job that it
creates. It does not matter if the job is completed at the time of the call anyway. -/
def KeepsCompletion (o : Dated) (e : Answers × JobCall) : Prop :=
  match e.2 with
  | .setStatus call => ∀ job status, statusUpdate e.1 call.args o.store = some (job, status) →
      status.finished = true →
        (call.args.Completes ↔ job.status.finished = false) ∨ job.completedAt = some e.1.now
  | .createJob jobData =>
      (save e.1.saveFails e.1 (newJob e.1.now jobData) o.store.jobs).toBool = true →
      failureStored e.1 jobData o.store = true → jobData.completedAt = .value e.1.now

/-! ## What a store that is seen changes -/

/-- What has been seen once more says nothing new, for a job that is as it was. -/
theorem finishedSince_of_find_eq (h : Tracks o) {now : Date} {s : Store} {id : String}
    (hfind : s.jobs.find id = o.store.jobs.find id) :
    finishedSince now s o.since id = o.since id := by
  have htracks := h id
  rw [finishedSince, hfind]
  cases hold : o.since id with
  | none =>
    rw [hold] at htracks
    cases hjob : o.store.jobs.find id with
    | none => rfl
    | some job =>
      have hunfinished : ¬ job.status.finished = true := fun hfinished =>
        Bool.false_ne_true (htracks.mpr ⟨job, hjob, hfinished⟩)
      rw [Option.bind_some, if_neg hunfinished]
  | some date =>
    rw [hold] at htracks
    obtain ⟨job, hjob, hfinished⟩ := htracks.mp rfl
    rw [hjob, Option.bind_some, if_pos hfinished, Option.getD_some]

@[simp] theorem see_self (h : Tracks o) (now : Date) : o.see now o.store = o := by
  have hsince : finishedSince now o.store o.since = o.since :=
    funext fun _ => finishedSince_of_find_eq h rfl
  rw [Dated.see, hsince]

theorem tracks_see (o : Dated) (now : Date) (s : Store) : Tracks (o.see now s) := by
  intro id
  show (finishedSince now s o.since id).isSome ↔ ∃ job, s.jobs.find id = some job ∧ _
  rw [finishedSince]
  cases hjob : s.jobs.find id with
  | none => simp
  | some job => cases hfinished : job.status.finished <;> simp [hfinished]

theorem completedSince_see (h : Tracks o) (hcompleted : CompletedSince o) (now : Date) {s : Store}
    (hjobs : s.jobs = o.store.jobs) : CompletedSince (o.see now s) := by
  intro job hjob hfinished
  have hold : job ∈ o.store.jobs.rows := hjobs ▸ hjob
  exact (hcompleted job hold hfinished).trans
    (finishedSince_of_find_eq h (by rw [hjobs])).symm

/-- After a row is stored all finished jobs were completed when they were finished iff that is
so of the row. -/
theorem completedSince_put_iff (h : Tracks o) (hcompleted : CompletedSince o) (now : Date)
    {s : Store} {row : Job} (hjobs : s.jobs = o.store.jobs.put row) :
    CompletedSince (o.see now s) ↔
      (row.status.finished = true →
        row.completedAt = some ((o.since row.id).getD now)) := by
  have hself : row.status.finished = true →
      finishedSince now s o.since row.id = some ((o.since row.id).getD now) := by
    intro hfinished
    rw [finishedSince, hjobs, Table.find_put_self, Option.bind_some, if_pos hfinished]
  have hothers : ∀ id, id ≠ row.id → finishedSince now s o.since id = o.since id := by
    intro id hne
    exact finishedSince_of_find_eq h (by rw [hjobs, Table.find_put_of_ne hne])
  constructor
  · intro hall hfinished
    have hmem : row ∈ s.jobs.rows := by
      rw [hjobs]
      exact Table.mem_put.mpr (.inl rfl)
    exact (hall row hmem hfinished).trans (hself hfinished)
  · intro hrow job hjob hfinished
    have hjob' : job ∈ (o.store.jobs.put row).rows := hjobs ▸ hjob
    rcases Table.mem_put.mp hjob' with rfl | ⟨hold, hne⟩
    · exact (hrow hfinished).trans (hself hfinished).symm
    · exact (hcompleted job hold hfinished).trans (hothers job.id hne).symm

/-! ## Setting a status -/

section
variable {a : Answers} {job : Job}

/-- A status that is set leaves the row completed when it was finished iff it completes a job
that was not finished, or is set in a job that was, unless the job was completed at this time
anyway. -/
theorem completedSince_withStatus_iff (h : Tracks o) (hcompleted : CompletedSince o)
    (hfound : o.store.jobs.find job.id = some job) (args : StatusArgs) (status : JobStatus) :
    (status.finished = true → (job.withStatus a.now args status).completedAt =
        some ((o.since job.id).getD a.now)) ↔
      (status.finished = true → (args.Completes ↔ job.status.finished = false) ∨
        job.completedAt = some a.now) := by
  refine imp_congr_right fun hfinished => ?_
  obtain ⟨hmem, -⟩ := Table.find_eq_some_iff.mp hfound
  show (if args.Completes then some a.now else job.completedAt) = _ ↔ _
  cases hbefore : job.status.finished with
  | false =>
    rw [h.since_eq_none hmem hbefore, Option.getD_none]
    by_cases hcomp : args.Completes
    · simp [hcomp]
    · simp [hcomp]
  | true =>
    -- it was completed when it was finished, and is to stay so
    obtain ⟨date, hdate⟩ := Option.isSome_iff_exists.mp
      ((h job.id).mpr ⟨job, hfound, hbefore⟩)
    have hwas : job.completedAt = some date := (hcompleted job hmem hbefore).trans hdate
    rw [hdate, hwas, Option.getD_some]
    by_cases hcomp : args.Completes
    · simp [hcomp, eq_comm]
    · simp [hcomp]

end

theorem completedSince_setStatus (h : Tracks o) (hcompleted : CompletedSince o) (a : Answers)
    (call : StatusCall) :
    CompletedSince (datedStep o (a, .setStatus call)) ↔
      KeepsCompletion o (a, .setStatus call) := by
  have hafter : (JobCall.setStatus call).exec a o.store =
      (updateJobStatus a call.args o.store).2 := StatusCall.exec_eq a o.store call
  unfold datedStep
  rw [show storedFirst a o.store (.setStatus call) = o.store from rfl, see_self h, hafter,
    updateJobStatus_store]
  show _ ↔ ∀ job status, statusUpdate a call.args o.store = some (job, status) → _
  cases hupdate : statusUpdate a call.args o.store with
  | none =>
    dsimp only
    rw [see_self h]
    exact iff_of_true hcompleted fun _ _ hnone => nomatch hnone
  | some found =>
    obtain ⟨job, status⟩ := found
    obtain ⟨hfound, -, -⟩ := statusUpdate_eq_some hupdate
    have hjob : o.store.jobs.find job.id = some job := (findOne_ok hfound).2
    -- the one row that is stored decides
    have hrow := completedSince_put_iff h hcompleted a.now
      (s := { o.store with jobs := o.store.jobs.put (job.withStatus a.now call.args status) }) rfl
    refine (hrow.trans
      (completedSince_withStatus_iff h hcompleted hjob call.args status)).trans ?_
    constructor
    · intro hkeeps other given heq
      cases heq
      exact hkeeps
    · exact fun hkeeps => hkeeps job status rfl

/-! ## Creating a job -/

/-- A job that is queued is not finished. -/
theorem completedSince_queued (h : Tracks o) (hcompleted : CompletedSince o) (now : Date)
    {s : Store} {row : Job} (hqueued : row.status = .queued)
    (hjobs : s.jobs = o.store.jobs.put row) :
    CompletedSince (o.see now s) ∧ (o.see now s).since row.id = none := by
  have hunfinished : row.status.finished = false := by
    rw [hqueued]
    rfl
  constructor
  · refine (completedSince_put_iff h hcompleted now hjobs).mpr fun hfinished => ?_
    rw [hunfinished] at hfinished
    cases hfinished
  · refine (tracks_see o now s).since_eq_none ?_ hunfinished
    show row ∈ s.jobs.rows
    rw [hjobs]
    exact Table.mem_put.mpr (.inl rfl)

theorem completedSince_createJob (h : Tracks o) (hcompleted : CompletedSince o) (a : Answers)
    (jobData : JobEntity) :
    CompletedSince (datedStep o (a, .createJob jobData)) ↔
      KeepsCompletion o (a, .createJob jobData) := by
  show CompletedSince ((o.see a.now (storedFirst a o.store (.createJob jobData))).see a.now
      (createJob a jobData o.store).2) ↔
    ((save a.saveFails a (newJob a.now jobData) o.store.jobs).toBool = true →
      failureStored a jobData o.store = true → jobData.completedAt = .value a.now)
  cases hsave : save a.saveFails a (newJob a.now jobData) o.store.jobs with
  | error e =>
    simp only [storedFirst, hsave]
    rw [createJob_refused hsave, see_self h, see_self h]
    exact iff_of_true hcompleted fun hok => nomatch hok
  | ok stored =>
    obtain ⟨savedJob, jobs⟩ := stored
    obtain ⟨row, hrow, rfl, rfl, -⟩ := save_ok hsave
    have htracks := tracks_see o a.now { o.store with jobs := o.store.jobs.put row }
    obtain ⟨hseen, hunfinished⟩ := completedSince_queued h hcompleted a.now
      (s := { o.store with jobs := o.store.jobs.put row }) (newJob_queued hrow) rfl
    simp only [storedFirst, hsave]
    rcases (createJob_store hrow hsave).2 with ⟨hno, hjobs⟩ | ⟨hyes, message, hjobs⟩
    · -- the job stays as it is
      rw [hno]
      exact iff_of_true (completedSince_see htracks hseen a.now hjobs) fun _ hyes => nomatch hyes
    · -- the job fails now
      rw [hyes]
      refine (completedSince_put_iff htracks hseen a.now hjobs).trans ?_
      show (_ → jobData.completedAt.write none = some ((Dated.since _ row.id).getD a.now)) ↔ _
      rw [hunfinished, Option.getD_none, write_eq_some_iff]
      constructor
      · exact fun hfits _ _ => (hfits rfl).resolve_right fun hnone => nomatch hnone.2
      · exact fun hgiven _ => .inl (hgiven rfl rfl)

/-! ## Runs -/

theorem tracks_datedStep (o : Dated) (e : Answers × JobCall) : Tracks (datedStep o e) :=
  tracks_see _ _ _

theorem completedSince_step {e : Answers × JobCall} (h : Tracks o)
    (hcompleted : CompletedSince o) :
    CompletedSince (datedStep o e) ↔ KeepsCompletion o e := by
  obtain ⟨a, call⟩ := e
  cases call with
  | createJob jobData => exact completedSince_createJob h hcompleted a jobData
  | setStatus call => exact completedSince_setStatus h hcompleted a call

/-- No jobs, and any twins -/
def noneFinished (twins : String → Desired) : Dated :=
  ⟨{ noJobs with twins }, fun _ => none⟩

theorem tracks_noneFinished (twins : String → Desired) : Tracks (noneFinished twins) := by
  intro id
  refine iff_of_false Bool.false_ne_true ?_
  rintro ⟨job, hjob, -⟩
  exact absurd (Table.find_eq_some_iff.mp hjob).1 List.not_mem_nil

theorem completedSince_noneFinished (twins : String → Desired) :
    CompletedSince (noneFinished twins) :=
  fun _ hjob => absurd hjob List.not_mem_nil

/-- **Retention**: after every call of a run from no jobs, `cleanupOldJobs` deletes exactly the
jobs that have been finished since before the date, whichever it is, iff every call keeps
finished jobs completed since they are finished. -/
theorem retention_iff (twins : String → Desired) (calls : List (Answers × JobCall)) :
    (∀ k, Retains ((calls.take k).foldl datedStep (noneFinished twins))) ↔
      Along (always datedStep) KeepsCompletion (noneFinished twins) calls := by
  have htracks := tracks_noneFinished twins
  rw [← prefixes_iff_along (P := Retains) (J := Tracks)
    ((retains_iff htracks).mpr (completedSince_noneFinished twins)) htracks
    (fun o e o' _ hstep => by cases hstep; exact tracks_datedStep o e)
    (fun o e o' h hretains hstep => by
      cases hstep
      rw [retains_iff (tracks_datedStep o e)]
      exact completedSince_step h ((retains_iff h).mp hretains))
    (run_always datedStep (noneFinished twins) calls)]
  simp

/-- A job that was cancelled long ago is never deleted. -/
theorem cancelled_job_kept :
    ¬ ∀ (twins : String → Desired) (calls : List (Answers × JobCall)),
      (calls.map fun e => e.1.now).Pairwise (· ≤ ·) →
      ∀ (cutoffDate : Nat → Date) (daysOld : Nat), 1 ≤ daysOld →
        ∀ job ∈ (calls.foldl datedStep (noneFinished twins)).store.jobs.rows, ∀ date,
          (calls.foldl datedStep (noneFinished twins)).since job.id = some date →
          date < cutoffDate daysOld →
            job ∉ (cleanupOldJobs cutoffDate
              (calls.foldl datedStep (noneFinished twins)).store daysOld).2.jobs.rows := by
  intro h
  obtain ⟨job, hrows, hid, hkept⟩ : ∃ job : Job,
      (createdAndCancelled.foldl datedStep (noneFinished noJobs.twins)).store.jobs.rows = [job] ∧
      job.id = "2" ∧
      (cleanupOldJobs (fun _ => 100)
        (createdAndCancelled.foldl datedStep (noneFinished noJobs.twins)).store 1).2.jobs.rows =
          [job] := ⟨_, rfl, rfl, rfl⟩
  have hsince : (createdAndCancelled.foldl datedStep (noneFinished noJobs.twins)).since job.id =
      some 7 := by
    rw [hid]
    rfl
  -- it is finished since 7 and older than the cutoff, but has no `completedAt`
  refine h noJobs.twins createdAndCancelled (by decide) (fun _ => 100) 1 (Nat.le_refl 1) job
    (by rw [hrows]; exact List.mem_singleton_self job) 7 hsince (by decide) ?_
  rw [hkept]
  exact List.mem_singleton_self job

end SensorNet.Backend
