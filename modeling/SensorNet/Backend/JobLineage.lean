import SensorNet.Backend.JobConcurrency
import SensorNet.Backend.Retention
import SensorNet.Lib.Lineage

/-!
# What becomes of a job under concurrent writers

Three methods write rows of jobs long after they have read them: `updateJobStatus`, for all
that call it, between its `findOne` and its `save`; and `createJob`, which saves the job once
more if it could not send it (`recordFailure`). Both save an entity in which no property is
`undefined`, so what they store is what they have read, whatever the row has become
(`row_of_whole`); if the row was deleted, it is inserted again. `cleanupOldJobs` deletes rows in
place.

`job_lineage`: after every interleaving of such calls, on any jobs, a job is what the calls of
its lineage (`SensorNet.Lib.Lineage`) leave one after another, and the other calls have left no
trace in it. `deleted_iff`: a job that was deleted is not stored again iff no call that has
read it before writes.
-/

namespace SensorNet.Backend

open SensorNet.Js SensorNet.Snapshot

/-! ## Entities that are saved as a whole -/

/-- No property but the id is `undefined`. -/
structure JobEntity.Whole (e : JobEntity) : Prop where
  type : e.type ≠ .undefined
  hubId : e.hubId ≠ .undefined
  nodeId : e.nodeId ≠ .undefined
  payload : e.payload ≠ .undefined
  status : e.status ≠ .undefined
  startedAt : e.startedAt ≠ .undefined
  completedAt : e.completedAt ≠ .undefined
  timeoutSeconds : e.timeoutSeconds ≠ .undefined
  errorCode : e.errorCode ≠ .undefined
  errorMessage : e.errorMessage ≠ .undefined
  result : e.result ≠ .undefined
  createdBy : e.createdBy ≠ .undefined
  createdAt : e.createdAt ≠ .undefined
  updatedAt : e.updatedAt ≠ .undefined

theorem Field.write_congr {α : Type} {f : Field α} (h : f ≠ .undefined) (old old' : Option α) :
    f.write old = f.write old' := by
  cases f with
  | undefined => exact absurd rfl h
  | null => rfl
  | value a => rfl

theorem Field.writeRequired_congr {α β : Type} {f : Field α} (h : f ≠ .undefined)
    (admits : α → Option β) (old old' : Option β) :
    f.writeRequired admits old = f.writeRequired admits old' := by
  cases f with
  | undefined => exact absurd rfl h
  | null => rfl
  | value a => rfl

/-- An entity that is saved as a whole leaves nothing of the row that was there. -/
theorem row_of_whole {e : JobEntity} (h : e.Whole) (now : Date) (id : String)
    (old old' : Option Job) : e.row now id old = e.row now id old' := by
  unfold JobEntity.row
  rw [Field.writeRequired_congr h.type _ _ (old'.map Job.type),
    Field.writeRequired_congr h.status _ _ (some (old'.elim .queued Job.status)),
    Field.writeRequired_congr h.createdAt _ _ (some (old'.elim now Job.createdAt)),
    Field.write_congr h.hubId _ (old'.bind Job.hubId),
    Field.write_congr h.nodeId _ (old'.bind Job.nodeId),
    Field.write_congr h.payload _ (old'.bind Job.payload),
    Field.write_congr h.startedAt _ (old'.bind Job.startedAt),
    Field.write_congr h.completedAt _ (old'.bind Job.completedAt),
    Field.write_congr h.timeoutSeconds _ (old'.bind Job.timeoutSeconds),
    Field.write_congr h.errorCode _ (old'.bind Job.errorCode),
    Field.write_congr h.errorMessage _ (old'.bind Job.errorMessage),
    Field.write_congr h.result _ (old'.bind Job.result),
    Field.write_congr h.createdBy _ (old'.bind Job.createdBy)]

theorem Field.ofOption_ne_undefined {α : Type} (o : Option α) :
    (Field.ofOption o) ≠ .undefined := by
  cases o <;> exact nofun

theorem Field.setIfTruthy_ne_undefined {α : Type} {truthy : α → Bool} {given property : Field α}
    (h : property ≠ .undefined) : given.setIfTruthy truthy property ≠ .undefined := by
  unfold setIfTruthy
  cases given.ifTruthy truthy with
  | none => exact h
  | some a => exact nofun

/-- A job that was found, with its status set -/
theorem setStatus_whole (job : Job) (now : Date) {args : StatusArgs}
    (hstatus : args.status ≠ .undefined) : (job.entity.setStatus now args).Whole where
  type := nofun
  hubId := Field.ofOption_ne_undefined _
  nodeId := Field.ofOption_ne_undefined _
  payload := Field.ofOption_ne_undefined _
  status := hstatus
  startedAt := by
    unfold JobEntity.setStatus
    dsimp only
    split
    · exact nofun
    · exact Field.ofOption_ne_undefined _
  completedAt := by
    unfold JobEntity.setStatus
    dsimp only
    split
    · exact nofun
    · exact Field.ofOption_ne_undefined _
  timeoutSeconds := Field.ofOption_ne_undefined _
  errorCode := Field.setIfTruthy_ne_undefined (Field.ofOption_ne_undefined _)
  errorMessage := Field.setIfTruthy_ne_undefined (Field.ofOption_ne_undefined _)
  result := Field.setIfTruthy_ne_undefined (Field.ofOption_ne_undefined _)
  createdBy := Field.ofOption_ne_undefined _
  createdAt := nofun
  updatedAt := nofun

/-- A job whose failure `createJob` stores -/
def Job.failedEntity (row : Job) (message : String) : JobEntity :=
  { row.entity with status := .value "failed", errorMessage := .value message }

theorem failedEntity_whole (row : Job) (message : String) : (row.failedEntity message).Whole where
  type := nofun
  hubId := Field.ofOption_ne_undefined _
  nodeId := Field.ofOption_ne_undefined _
  payload := Field.ofOption_ne_undefined _
  status := nofun
  startedAt := Field.ofOption_ne_undefined _
  completedAt := Field.ofOption_ne_undefined _
  timeoutSeconds := Field.ofOption_ne_undefined _
  errorCode := Field.ofOption_ne_undefined _
  errorMessage := nofun
  result := Field.ofOption_ne_undefined _
  createdBy := Field.ofOption_ne_undefined _
  createdAt := nofun
  updatedAt := nofun

/-- The table after `jobRepository.save(entity)` -/
def saved (fails : Bool) (a : Answers) (e : JobEntity) (jobs : JobTable) : JobTable :=
  match save fails a e jobs with
  | .ok (_, jobs) => jobs
  | .error _ => jobs

/-- What is saved as a whole is the same row for every table. -/
theorem saved_whole {fails : Bool} {a : Answers} {e : JobEntity} {id : String}
    (hid : e.id = .value id) (hwhole : e.Whole) (old : Option Job) (jobs : JobTable) :
    saved fails a e jobs =
      (if fails then none else e.row a.now id old).elim jobs jobs.put := by
  unfold saved save
  cases fails with
  | true => rfl
  | false =>
    simp only [Bool.false_eq_true, if_false, hid]
    rw [row_of_whole hwhole a.now id (jobs.find id) old]
    cases e.row a.now id old <;> rfl

/-! ## The writers -/

/-- A method that writes jobs while others do -/
inductive JobWriter where
  | setStatus (call : StatusCall)
  /-- `createJob`, when it has stored the job as the row and could not send it -/
  | recordFailure (row : Job) (message : String)
  | cleanupOldJobs (cutoffDate : Nat → Date) (daysOld : Nat)

/-- `jobRepository.save(savedJob)` in the `catch` of `createJob` -/
def recordFailure (a : Answers) (row : Job) (message : String) (jobs : JobTable) : JobTable :=
  saved a.resaveFails a (row.failedEntity message) jobs

/-- It is what `createJob` does then, if no other call comes in between. -/
theorem createJob_recordFailure {a : Answers} {jobData savedJob : JobEntity} {s : Store}
    {jobs : JobTable} {hubId message : String}
    (hnew : jobData.id = .undefined ∨ jobData.id = .null)
    (hsave : save a.saveFails a (newJob a.now jobData) s.jobs = .ok (savedJob, jobs))
    (hhub : savedJob.hubId.ifTruthy truthyString = some hubId)
    (hsend : sendJobToHub a hubId savedJob s.twins = .error message) :
    ∃ row, savedJob = row.entity ∧ jobs = s.jobs.put row ∧
      (createJob a jobData s).2.jobs = recordFailure a row message jobs := by
  obtain ⟨row, -, hrow, hsaved, hjobs⟩ := save_new hnew hsave
  have hentity : savedJob = row.entity := hsaved.trans (saved_eq_entity hrow)
  refine ⟨row, hentity, hjobs, ?_⟩
  subst hentity
  simp only [createJob, hsave, hhub, hsend, recordFailure, saved, Job.failedEntity]
  cases save a.resaveFails a
    { row.entity with status := .value "failed", errorMessage := .value message } jobs <;> rfl

/-- The row that a call stores, once it has read the table; `none` if it stores none -/
def stores (c : Answers × JobWriter) (read : JobTable) : Option Job :=
  match c.2 with
  | .setStatus call =>
    match findOne c.1 call.args.id read with
    | .ok (some job) =>
      if c.1.saveFails then none
      else (job.entity.setStatus c.1.now call.args).row c.1.now job.id none
    | _ => none
  | .recordFailure row message =>
    if c.1.resaveFails then none else (row.failedEntity message).row c.1.now row.id none
  | .cleanupOldJobs .. => none

variable {n : Nat}

/-- The calls as transactions on the table -/
def writerApply (writers : Fin n → Answers × JobWriter) (i : Fin n) (read jobs : JobTable) :
    JobTable :=
  match (writers i).2 with
  | .setStatus call => writeStatus (writers i).1 call.args read jobs
  | .recordFailure row message => recordFailure (writers i).1 row message jobs
  | .cleanupOldJobs cutoffDate daysOld =>
    (cleanupOldJobs cutoffDate { jobs, twins := fun _ _ => .undefined } daysOld).2.jobs

/-- What is done to the job with the id -/
def manner (writers : Fin n → Answers × JobWriter) (id : String) (i : Fin n)
    (read : JobTable) : Manner :=
  match (writers i).2 with
  | .cleanupOldJobs .. => .inPlace
  | .setStatus _ | .recordFailure .. =>
    if (stores (writers i) read).any fun row => row.id = id then .putsBack else .idle

/-- A call of `updateJobStatus` gives an id and a status, as the types of the parameters say. -/
structure StatusArgs.Given (args : StatusArgs) : Prop where
  id : ∃ id, args.id = .value id
  status : args.status ≠ .undefined

/-- So do all calls that set a status. -/
def JobWriter.Given : JobWriter → Prop
  | .setStatus call => call.args.Given
  | .recordFailure .. | .cleanupOldJobs .. => True

section
variable {writers : Fin n → Answers × JobWriter} {i : Fin n}

/-- A call that is not a cleanup stores its row, whatever is in the table. -/
theorem writerApply_of_stores (hgiven : (writers i).2.Given)
    (hwrites : ∀ cutoffDate daysOld, (writers i).2 ≠ .cleanupOldJobs cutoffDate daysOld)
    (read jobs : JobTable) :
    writerApply writers i read jobs = (stores (writers i) read).elim jobs jobs.put := by
  unfold writerApply stores
  cases hcall : (writers i).2 with
  | setStatus call =>
    rw [hcall] at hgiven
    dsimp only
    unfold writeStatus
    cases findOne (writers i).1 call.args.id read with
    | error e => rfl
    | ok found =>
      cases found with
      | none => rfl
      | some job =>
        exact saved_whole rfl (setStatus_whole job _ hgiven.status) none jobs
  | recordFailure row message =>
    exact saved_whole rfl (failedEntity_whole row message) none jobs
  | cleanupOldJobs cutoffDate daysOld => exact absurd hcall (hwrites cutoffDate daysOld)

/-- What a call that is not a cleanup leaves of a job -/
theorem find_writerApply (hgiven : (writers i).2.Given)
    (hwrites : ∀ cutoffDate daysOld, (writers i).2 ≠ .cleanupOldJobs cutoffDate daysOld)
    (read jobs : JobTable) (id : String) :
    (writerApply writers i read jobs).find id =
      if (stores (writers i) read).any fun row => row.id = id then stores (writers i) read
      else jobs.find id := by
  rw [writerApply_of_stores hgiven hwrites, Table.find_elim_put]

/-- What a cleanup leaves of a job -/
theorem find_cleanup {cutoffDate : Nat → Date} {daysOld : Nat}
    (hcall : (writers i).2 = .cleanupOldJobs cutoffDate daysOld) (read jobs : JobTable)
    (id : String) :
    (writerApply writers i read jobs).find id =
      (jobs.find id).filter fun job => !deletedBefore (cutoffDate daysOld) job := by
  unfold writerApply
  rw [hcall]
  exact Table.find_filter jobs _ id

/-- A call on one job stores this job. -/
theorem stores_id {call : StatusCall} {named : String} {read : JobTable} {row : Job}
    (hcall : (writers i).2 = .setStatus call) (hnamed : call.args.id = .value named)
    (hrow : stores (writers i) read = some row) : row.id = named := by
  unfold stores at hrow
  rw [hcall] at hrow
  dsimp only at hrow
  rw [hnamed] at hrow
  split at hrow
  · next job hfound =>
    obtain ⟨-, hstored⟩ := Option.ite_none_left_eq_some.mp hrow
    rw [(JobEntity.row_spec hstored).id]
    exact (Table.find_eq_some_iff.mp (findOne_value_ok hfound)).2
  · cases hrow

/-- It depends on this job alone. -/
theorem stores_congr {call : StatusCall} {named : String} {read read' : JobTable}
    (hcall : (writers i).2 = .setStatus call) (hnamed : call.args.id = .value named)
    (hsame : read.find named = read'.find named) :
    stores (writers i) read = stores (writers i) read' := by
  unfold stores
  rw [hcall]
  simp only [hnamed, findOne, foundRow, hsame]

/-- What a call by itself leaves of a job depends on what the job was. -/
theorem stores_alone (hgiven : (writers i).2.Given)
    (hwrites : ∀ cutoffDate daysOld, (writers i).2 ≠ .cleanupOldJobs cutoffDate daysOld)
    {jobs jobs' : JobTable} {id : String} (hsame : jobs.find id = jobs'.find id) :
    (writerApply writers i jobs jobs).find id = (writerApply writers i jobs' jobs').find id := by
  rw [find_writerApply hgiven hwrites, find_writerApply hgiven hwrites, hsame]
  cases hcall : (writers i).2 with
  | setStatus call =>
    rw [hcall] at hgiven
    obtain ⟨named, hnamed⟩ := hgiven.id
    by_cases hid : named = id
    · subst hid
      rw [stores_congr hcall hnamed hsame]
    · -- the call is on another job
      have hother : ∀ read : JobTable,
          ((stores (writers i) read).any fun row => row.id = id) = false := by
        intro read
        rw [Option.any_eq_false]
        intro row hrow
        rw [stores_id hcall hnamed hrow]
        exact decide_eq_false hid
      simp only [hother, Bool.false_eq_true, if_false]
  | recordFailure row message =>
    -- what is stored does not depend on the table at all
    have hstores : stores (writers i) jobs = stores (writers i) jobs' := by
      unfold stores
      rw [hcall]
    rw [hstores]
  | cleanupOldJobs cutoffDate daysOld => exact absurd hcall (hwrites cutoffDate daysOld)

/-- A call that is not a cleanup puts back what it has read, if it stores the job. -/
theorem manner_of_stores
    (hwrites : ∀ cutoffDate daysOld, (writers i).2 ≠ .cleanupOldJobs cutoffDate daysOld)
    (id : String) (read : JobTable) :
    manner writers id i read =
      if (stores (writers i) read).any fun row => row.id = id then .putsBack else .idle := by
  unfold manner
  cases hcall : (writers i).2 with
  | setStatus call => rfl
  | recordFailure row message => rfl
  | cleanupOldJobs cutoffDate daysOld => exact absurd hcall (hwrites cutoffDate daysOld)

theorem manner_of_cleanup {cutoffDate : Nat → Date} {daysOld : Nat}
    (hcall : (writers i).2 = .cleanupOldJobs cutoffDate daysOld) (id : String)
    (read : JobTable) : manner writers id i read = .inPlace := by
  unfold manner
  rw [hcall]

/-- A call is a cleanup or not. -/
theorem cleanup_or (c : JobWriter) :
    (∃ cutoffDate daysOld, c = .cleanupOldJobs cutoffDate daysOld) ∨
      ∀ cutoffDate daysOld, c ≠ .cleanupOldJobs cutoffDate daysOld := by
  cases c with
  | setStatus call => exact .inr nofun
  | recordFailure row message => exact .inr nofun
  | cleanupOldJobs cutoffDate daysOld => exact .inl ⟨cutoffDate, daysOld, rfl⟩

/-- In the view of one job, the calls write as `manner` says. -/
theorem writesAs (hgiven : ∀ i, (writers i).2.Given) (id : String) :
    WritesAs (fun jobs : JobTable => jobs.find id) (fun _ => True) (writerApply writers)
      (manner writers id) where
  keeps _ _ _ _ _ := trivial
  alone i jobs jobs' _ _ hsame := by
    rcases cleanup_or (writers i).2 with ⟨cutoffDate, daysOld, hcall⟩ | hwrites
    · -- a cleanup looks at the rows that are there when it writes
      simp only [find_cleanup hcall]
      rw [hsame]
    · exact stores_alone (hgiven i) hwrites hsame
  idle i read jobs _ _ hidle := by
    rcases cleanup_or (writers i).2 with ⟨cutoffDate, daysOld, hcall⟩ | hwrites
    · rw [manner_of_cleanup hcall] at hidle
      cases hidle
    · rw [manner_of_stores hwrites] at hidle
      rw [find_writerApply (hgiven i) hwrites, if_neg]
      intro hstores
      rw [if_pos hstores] at hidle
      cases hidle
  inPlace i read jobs _ _ hplace := by
    rcases cleanup_or (writers i).2 with ⟨cutoffDate, daysOld, hcall⟩ | hwrites
    · rw [find_cleanup hcall, find_cleanup hcall]
    · rw [manner_of_stores hwrites] at hplace
      split at hplace <;> cases hplace
  putsBack i read jobs _ _ hback := by
    rcases cleanup_or (writers i).2 with ⟨cutoffDate, daysOld, hcall⟩ | hwrites
    · rw [manner_of_cleanup hcall] at hback
      cases hback
    · rw [manner_of_stores hwrites] at hback
      -- the call stores the job, or it would be idle
      have hstores : (stores (writers i) read).any (fun row => row.id = id) = true := by
        by_contra hnot
        rw [if_neg hnot] at hback
        cases hback
      rw [find_writerApply (hgiven i) hwrites, find_writerApply (hgiven i) hwrites,
        if_pos hstores, if_pos hstores]

/-! ## Runs -/

/-- **What becomes of a job**: after every interleaving of calls, on any jobs,
1. the job is what the calls of its lineage leave one after another,
2. in the order of their writes;
3. if the run ends with a call that stores the job, the calls that have written since this one
read the table are not among them: what they did to the job is lost. -/
theorem job_lineage {jobs : JobTable} {es : List (Event n)} {s : System JobTable n}
    (hgiven : ∀ i, (writers i).2.Given)
    (hrun : run (step (writerApply writers)) (.start jobs) es = some s) (id : String) :
    s.cell.find id = (serial (writerApply writers) jobs
        (lineage (writerApply writers) (manner writers id) jobs es)).find id ∧
      (lineage (writerApply writers) (manner writers id) jobs es).Sublist s.order ∧
      ∀ es₁ es₂ i t, es = es₁ ++ .read i :: es₂ ++ [.write i] →
        run (step (writerApply writers)) (.start jobs) es₁ = some t →
        manner writers id i t.cell = .putsBack →
        ∀ j, .write j ∈ es₂ → j ∉ lineage (writerApply writers) (manner writers id) jobs es := by
  refine ⟨view_lineage (writesAs hgiven id) trivial hrun, lineage_sublist hrun, ?_⟩
  rintro es₁ es₂ i t rfl ht hback j hj
  exact not_mem_lineage ht hrun hback hj

/-- A call has read the job, and is about to store it. -/
def Holds (writers : Fin n → Answers × JobWriter) (id : String) (s : System JobTable n)
    (i : Fin n) : Prop :=
  ∃ read, s.phase i = .pending read ∧
    (stores (writers i) read).any (fun row => row.id = id) = true

/-- The call of `createJob` that is for the job, if there is one, has stored it. -/
def Created (writers : Fin n → Answers × JobWriter) (id : String) (s : System JobTable n) :
    Prop :=
  ∀ i row message, (writers i).2 = .recordFailure row message → row.id = id → s.phase i ≠ .idle

/-- A call that looks for the job when it is not there does not store it. -/
theorem stores_of_missing {id : String} {read : JobTable} (hgiven : (writers i).2.Given)
    (hother : ∀ row message, (writers i).2 = .recordFailure row message → row.id ≠ id)
    (hgone : read.find id = none) :
    (stores (writers i) read).any (fun row => row.id = id) = false := by
  rw [Option.any_eq_false]
  intro row hrow
  refine decide_eq_false fun hid => ?_
  -- a call of `updateJobStatus` has not found it, and a failure is that of another job
  cases hcall : (writers i).2 with
  | setStatus call =>
    rw [hcall] at hgiven
    obtain ⟨named, hnamed⟩ := hgiven.id
    obtain rfl : named = id := (stores_id hcall hnamed hrow).symm.trans hid
    unfold stores at hrow
    rw [hcall] at hrow
    dsimp only at hrow
    rw [hnamed] at hrow
    split at hrow
    · next job hfound =>
      rw [findOne_value_ok hfound] at hgone
      cases hgone
    · cases hrow
  | recordFailure failed message =>
    unfold stores at hrow
    rw [hcall] at hrow
    obtain ⟨-, hstored⟩ := Option.ite_none_left_eq_some.mp hrow
    exact hother failed message hcall ((JobEntity.row_spec hstored).id.symm.trans hid)
  | cleanupOldJobs cutoffDate daysOld =>
    unfold stores at hrow
    rw [hcall] at hrow
    cases hrow

/-- While a job is missing, a call that does not hold it leaves it so. -/
theorem find_write_of_missing {id : String} {read jobs : JobTable} (hgiven : (writers i).2.Given)
    (hgone : jobs.find id = none) :
    (writerApply writers i read jobs).find id = none ↔
      (stores (writers i) read).any (fun row => row.id = id) = false := by
  rcases cleanup_or (writers i).2 with ⟨cutoffDate, daysOld, hcall⟩ | hwrites
  · have hnone : stores (writers i) read = none := by
      unfold stores
      rw [hcall]
    rw [find_cleanup hcall, hgone, hnone]
    exact iff_of_true rfl rfl
  · rw [find_writerApply hgiven hwrites, hgone]
    cases hstores : stores (writers i) read with
    | none => exact iff_of_true rfl rfl
    | some row => by_cases hid : row.id = id <;> simp [hid]

/-- What a step of one call says of who holds the job -/
theorem holds_update {s : System JobTable n} {id : String} {phase : Phase JobTable}
    {cell : JobTable} {order : List (Fin n)} (j : Fin n) :
    Holds writers id ⟨cell, Function.update s.phase i phase, order⟩ j ↔
      if j = i then ∃ read, phase = .pending read ∧
        (stores (writers i) read).any (fun row => row.id = id) = true
      else Holds writers id s j := by
  unfold Holds
  dsimp only
  split
  · next hj => rw [hj, Function.update_self]
  · next hj => rw [Function.update_of_ne hj]

/-- No step takes a call back to its start. -/
theorem Created.update {s : System JobTable n} {id : String} (h : Created writers id s)
    (i : Fin n) {phase : Phase JobTable} (hphase : phase ≠ .idle) (cell : JobTable)
    (order : List (Fin n)) :
    Created writers id ⟨cell, Function.update s.phase i phase, order⟩ := by
  intro j row message hcall hid
  show Function.update s.phase i phase j ≠ .idle
  by_cases hj : j = i
  · rw [hj, Function.update_self]
    exact hphase
  · rw [Function.update_of_ne hj]
    exact h j row message hcall hid

/-- **Deleted for good**: a job that is not there stays away iff no call that holds it writes. -/
theorem deleted_iff {s u : System JobTable n} {more : List (Event n)} {id : String}
    (hgiven : ∀ i, (writers i).2.Given) (hcreated : Created writers id s)
    (hgone : s.cell.find id = none)
    (hmore : run (step (writerApply writers)) s more = some u) :
    (∀ k t, run (step (writerApply writers)) s (more.take k) = some t →
        t.cell.find id = none) ↔
      ∀ i, Holds writers id s i → .write i ∉ more := by
  induction more generalizing s with
  | nil =>
    refine iff_of_true (fun k t ht => ?_) fun i _ => List.not_mem_nil
    rw [List.take_nil] at ht
    cases ht
    exact hgone
  | cons e more ih =>
    obtain ⟨v, hv, hu⟩ := Option.bind_eq_some_iff.mp hmore
    rw [prefixes_cons hv, and_iff_right hgone]
    rcases step_cases hv with ⟨i, rfl, hidle, rfl⟩ | ⟨i, read, rfl, hread, rfl⟩
    · -- who reads now finds no job
      have hnot : (stores (writers i) s.cell).any (fun row => row.id = id) = false :=
        stores_of_missing (hgiven i)
          (fun row message hcall hid => hcreated i row message hcall hid hidle) hgone
      have hphase : Phase.pending s.cell ≠ .idle := nofun
      rw [ih (hcreated.update i hphase s.cell s.order) hgone hu]
      refine forall_congr' fun j => ?_
      rw [holds_update, List.mem_cons, or_iff_right nofun]
      split
      · next hj =>
        -- it has not read before
        refine iff_of_true (fun ⟨read, hread, hstores⟩ => ?_) fun ⟨read, hread, _⟩ => ?_
        · cases hread
          rw [hnot] at hstores
          cases hstores
        · rw [hj, hidle] at hread
          cases hread
      · exact Iff.rfl
    · cases hholds : (stores (writers i) read).any (fun row => row.id = id) with
      | true =>
        -- the job is stored again
        refine iff_of_false (fun hall => ?_) fun hnone =>
          hnone i ⟨read, hread, hholds⟩ List.mem_cons_self
        have hback := (find_write_of_missing (hgiven i) hgone).mp (hall 0 _ rfl)
        rw [hholds] at hback
        cases hback
      | false =>
        have hgone' : (writerApply writers i read s.cell).find id = none :=
          (find_write_of_missing (hgiven i) hgone).mpr hholds
        have hphase : (Phase.done : Phase JobTable) ≠ .idle := nofun
        rw [ih (hcreated.update i hphase (writerApply writers i read s.cell) (s.order ++ [i]))
          hgone' hu]
        refine forall_congr' fun j => ?_
        rw [holds_update, List.mem_cons]
        split
        · next hj =>
          -- it has written
          refine iff_of_true (fun ⟨_, hdone, _⟩ => by cases hdone)
            fun ⟨other, hother, hstores⟩ => ?_
          rw [hj, hread] at hother
          cases hother
          rw [hj, hholds] at hstores
          cases hstores
        · next hj =>
          rw [or_iff_right fun h => hj (Event.write.inj h)]

end

/-! ## A job that comes back -/

/-- A job that has failed at a time, and not been deleted -/
def oldFailure : JobTable :=
  Table.empty.put { sampleJob "1" .failed with completedAt := some 3 }

/-- An operator cancels the job, it is deleted, and another operator lets it run. -/
def cancelledDeletedRun : Fin 3 → Answers × JobWriter
  | 0 => (goodAnswers, .setStatus (.cancelJob "1"))
  | 1 => (goodAnswers, .cleanupOldJobs (fun _ => 5) 30)
  | 2 => (goodAnswers, .setStatus (.updateJobStatus
      { id := .value "1", status := .value "running" }))

theorem cancelledDeletedRun_given (i : Fin 3) : (cancelledDeletedRun i).2.Given := by
  match i with
  | 0 => exact ⟨⟨"1", rfl⟩, nofun⟩
  | 1 => trivial
  | 2 => exact ⟨⟨"1", rfl⟩, nofun⟩

/-- The first operator's call has read the job when it is deleted. -/
def untilDeleted : List (Event 3) := [.read 0, .read 1, .write 1]

/-- The second operator's call finds no job. -/
def afterwards : List (Event 3) := [.read 2, .write 2]

/-- All of it, with the first operator's call at the end -/
def untilCancelled : List (Event 3) := untilDeleted ++ afterwards ++ [.write 0]

/-- In the end the job is there, and only the first operator's call has left a trace. -/
theorem cancelled_lineage :
    ∃ s, run (step (writerApply cancelledDeletedRun)) (.start oldFailure) untilCancelled = some s ∧
      lineage (writerApply cancelledDeletedRun) (manner cancelledDeletedRun "1") oldFailure
        untilCancelled = [0] ∧
      (s.cell.find "1" = (serial (writerApply cancelledDeletedRun) oldFailure
          (lineage (writerApply cancelledDeletedRun) (manner cancelledDeletedRun "1") oldFailure
            untilCancelled)).find "1" ∧
        (lineage (writerApply cancelledDeletedRun) (manner cancelledDeletedRun "1") oldFailure
          untilCancelled).Sublist s.order ∧
        ∀ es₁ es₂ i t, untilCancelled = es₁ ++ .read i :: es₂ ++ [.write i] →
          run (step (writerApply cancelledDeletedRun)) (.start oldFailure) es₁ = some t →
          manner cancelledDeletedRun "1" i t.cell = .putsBack →
          ∀ j, .write j ∈ es₂ → j ∉ lineage (writerApply cancelledDeletedRun)
            (manner cancelledDeletedRun "1") oldFailure untilCancelled) := by
  obtain ⟨s, hrun⟩ : ∃ s, run (step (writerApply cancelledDeletedRun)) (.start oldFailure)
      untilCancelled = some s := ⟨_, rfl⟩
  exact ⟨s, hrun, by decide +kernel, job_lineage cancelledDeletedRun_given hrun "1"⟩

/-- Until then it stays away. -/
theorem deleted_until_cancelled :
    ∃ s u, run (step (writerApply cancelledDeletedRun)) (.start oldFailure) untilDeleted = some s ∧
      run (step (writerApply cancelledDeletedRun)) s afterwards = some u ∧
      ((∀ k t, run (step (writerApply cancelledDeletedRun)) s (afterwards.take k) = some t →
          t.cell.find "1" = none) ↔
        ∀ i, Holds cancelledDeletedRun "1" s i → .write i ∉ afterwards) := by
  obtain ⟨s, hrun⟩ : ∃ s, run (step (writerApply cancelledDeletedRun)) (.start oldFailure)
      untilDeleted = some s := ⟨_, rfl⟩
  obtain ⟨u, hmore⟩ : ∃ u, run (step (writerApply cancelledDeletedRun)) s afterwards = some u := by
    cases hrun
    exact ⟨_, rfl⟩
  refine ⟨s, u, hrun, hmore, deleted_iff cancelledDeletedRun_given ?_ ?_ hmore⟩
  · intro i row message hcall _
    match i with
    | 0 | 1 | 2 => cases hcall
  · cases hrun
    rfl

end SensorNet.Backend
