import SensorNet.Backend.JobTwins

/-!
# A new job and the twin of its hub

`createJob` stores a job, and then offers it to its hub by an entry in the hub's twin. These
are two stores, and the second one can fail: then the job, already stored as queued, is
stored once more as failed.

`createJob_store` says what is left in the table, whatever happens.

`createJob_allOrNothing`: as long as the database does not fail, either the job is queued and
the twin of its hub has one entry more, for that job, or the job has failed with the message of
the error and no twin has changed. Which of the two, `deliveryError` says.
-/

namespace SensorNet.Backend

open SensorNet.Js

variable {a : Answers} {s : Store} {jobData : JobEntity}

/-! ## The entry of a job -/

/-- The seconds that the hub is given for the job -/
def Job.effectiveTimeout (job : Job) : Int := (job.timeoutSeconds.filter (· != 0)).getD 300

/-- The entry says of the job:
1. its id;
2. its type;
3. its node, `null` if it has none;
4. its payload, `null` if it has none;
5. the seconds it is given. -/
structure CarriesJob (entry : Json) (job : Job) : Prop where
  jobId : entry.prop "jobId" = .str job.id
  type : entry.prop "type" = .str job.type.text
  node : entry.prop "targetNodeId" = job.nodeId.elim .null .str
  payload : entry.prop "payload" = job.payload.getD .null
  timeout : entry.prop "timeoutSeconds" = .num job.effectiveTimeout

theorem Field.json_ofOption {α : Type} (toJson : α → Json) (o : Option α) :
    (ofOption o).json toJson = o.elim .null toJson := by
  cases o <;> rfl

theorem timeoutOrDefault_ofOption (o : Option Int) :
    timeoutOrDefault (.ofOption o) = (o.filter (· != 0)).getD 300 := by
  cases o <;> rfl

/-- `sendJobToHub` sends an entry for the job. -/
theorem jobPayload_carries (job : Job) : CarriesJob (jobPayload job.entity) job where
  jobId := jobPayload_jobId job.entity
  type := by simp [jobPayload, Json.object, Json.prop, List.lookup_cons, Job.entity, Field.json]
  node := by
    simp [jobPayload, Json.object, Json.prop, List.lookup_cons, Job.entity, Field.json_ofOption]
  payload := by
    simp only [jobPayload, Json.object, Json.prop, List.lookup_cons, Job.entity,
      Field.json_ofOption]
    cases job.payload <;> rfl
  timeout := by
    simp [jobPayload, Json.object, Json.prop, List.lookup_cons, Job.entity, Job.effectiveTimeout,
      timeoutOrDefault_ofOption]

/-! ## Sending it -/

/-- Does a call of `addJobToTwin` on a twin with these properties fail? -/
def twinCallFails (a : Answers) (desired : Desired) : Bool :=
  a.getTwinFails.isSome || (currentJobs desired).spread.isNone || a.updateTwinFails.isSome

/-- The message of the error that `addJobToTwin` throws on a twin with these properties: of
the read, of the list of jobs, or of the write -/
def deliveryError (a : Answers) (desired : Desired) : Option String :=
  a.getTwinFails.or
    (if (jobsOf desired).isNone then some "currentJobs is not iterable" else a.updateTwinFails)

/-- A job that is sent is put last into the jobs of the twin, and nothing else changes. -/
theorem sendJobToHub_of_ok {hubId : String} (job : JobEntity) (twins : String → Desired)
    (h : deliveryError a (twins hubId) = none) :
    ∃ jobs, jobsOf (twins hubId) = some jobs ∧
      sendJobToHub a hubId job twins = .ok (Function.update twins hubId
        (Function.update (twins hubId) "jobs" (.arr (jobs ++ [jobPayload job])))) := by
  obtain ⟨hget, hrest⟩ := Option.or_eq_none_iff.mp h
  obtain ⟨hlisted, hupdate⟩ : ¬ (jobsOf (twins hubId)).isNone ∧ a.updateTwinFails = none := by
    split at hrest
    · cases hrest
    · next hlisted => exact ⟨hlisted, hrest⟩
  obtain ⟨jobs, hjobs⟩ := Option.ne_none_iff_exists'.mp fun hnone =>
    hlisted (Option.isNone_iff_eq_none.mpr hnone)
  have hsends := addJobToTwin_eq (jobPayload job) hjobs
  have hmerged : updateTwin (twins hubId)
      (Function.update (twins hubId) "jobs" (.arr (jobs ++ [jobPayload job]))) =
        Function.update (twins hubId) "jobs" (.arr (jobs ++ [jobPayload job])) := by
    have happly := apply_addJob (jobPayload job) hjobs
    rwa [TwinCall.apply, show (TwinCall.addJob (jobPayload job)).sends (twins hubId) = _ from
      hsends] at happly
  refine ⟨jobs, hjobs, ?_⟩
  simp only [sendJobToHub, sendToTwin, hget, hsends, hupdate, hmerged]

theorem sendJobToHub_of_error {hubId message : String} (job : JobEntity)
    (twins : String → Desired) (h : deliveryError a (twins hubId) = some message) :
    sendJobToHub a hubId job twins = .error message := by
  unfold sendJobToHub sendToTwin addJobToTwin
  cases hget : a.getTwinFails with
  | some read =>
    rw [deliveryError, hget] at h
    cases h
    rfl
  | none =>
    rw [deliveryError, hget, Option.none_or] at h
    dsimp only
    cases hjobs : (currentJobs (twins hubId)).spread with
    | none =>
      rw [show jobsOf (twins hubId) = none from hjobs] at h
      cases h
      rfl
    | some jobs =>
      rw [show jobsOf (twins hubId) = some jobs from hjobs] at h
      have hupdate : a.updateTwinFails = some message := h
      rw [hupdate]
      rfl

theorem twinCallFails_eq (a : Answers) (desired : Desired) :
    twinCallFails a desired = (deliveryError a desired).isSome := by
  unfold twinCallFails deliveryError jobsOf
  cases a.getTwinFails <;> cases (currentJobs desired).spread <;> simp

theorem sendJobToHub_fails (a : Answers) (hubId : String) (job : JobEntity)
    (twins : String → Desired) :
    (∃ message, sendJobToHub a hubId job twins = .error message) ↔
      twinCallFails a (twins hubId) = true := by
  rw [twinCallFails_eq]
  cases herror : deliveryError a (twins hubId) with
  | none =>
    obtain ⟨jobs, -, hsend⟩ := sendJobToHub_of_ok job twins herror
    rw [hsend]
    simp
  | some message => exact iff_of_true ⟨message, sendJobToHub_of_error job twins herror⟩ rfl

/-! ## Storing it -/

theorem write_eq_some_iff {α : Type} {given : Field α} {old : Option α} {x : α} :
    given.write old = some x ↔ given = .value x ∨ given = .undefined ∧ old = some x := by
  cases given <;> simp [Field.write]

theorem write_eq_none_iff {α : Type} {given : Field α} {old : Option α} :
    given.write old = none ↔ given = .null ∨ given = .undefined ∧ old = none := by
  cases given <;> simp [Field.write]

theorem Field.orNull_eq {α : Type} (f : Field α) : f.orNull = .ofOption (f.write none) := by
  cases f <;> rfl

theorem write_orNull {α : Type} (given : Field α) (old : Option α) :
    given.orNull.write old = given.write none := by
  rw [Field.orNull_eq, Field.write_ofOption]

/-- A value that a column took it takes again. -/
theorem writeRequired_again {α β : Type} {given : Field α} {admits : α → Option β}
    {default : Option β} {b : β} (h : given.writeRequired admits default = some b) :
    given.writeRequired admits (some b) = some b := by
  cases given with
  | undefined => rfl
  | null => cases h
  | value x => exact h

/-- The id under which `createJob` stores a job -/
def newId (a : Answers) (jobData : JobEntity) : String :=
  match jobData.id with
  | .value id => id
  | _ => a.uuid

theorem save_newId {fails : Bool} {e saved : JobEntity} {jobs jobs' : JobTable}
    (h : save fails a e jobs = .ok (saved, jobs')) : saved.id = .value (newId a e) := by
  -- an entity is stored under the id for which its row is made
  have hkey : ∀ {id : String} {old : Option Job}, newId a e = id →
      store e (e.row a.now id old) jobs = .ok (saved, jobs') →
        saved.id = .value (newId a e) := by
    intro id old hnew hstore
    obtain ⟨row, hrow, rfl, -⟩ := store_ok hstore
    show Field.value row.id = _
    rw [hnew, (JobEntity.row_spec hrow).id]
  unfold save at h
  split at h
  · cases h
  · cases hid : e.id with
    | value id =>
      rw [hid] at h
      exact hkey (by rw [newId, hid]) h
    | undefined =>
      rw [hid] at h
      dsimp only at h
      split at h
      · cases h
      · exact hkey (by rw [newId, hid]) h
    | null =>
      rw [hid] at h
      cases h

/-- The entity whose failure `createJob` stores, once it has stored it as the row -/
def JobEntity.failed (e : JobEntity) (row : Job) (message : String) : JobEntity :=
  { e.saved row with status := .value "failed", errorMessage := .value message }

/-- The row of a job whose failure is stored: a property that was not given is `NULL`, even if
it was not so in a row that was there before. -/
def JobEntity.failedRow (e : JobEntity) (row : Job) (message : String) : Job where
  id := row.id
  type := row.type
  hubId := e.hubId.write none
  nodeId := e.nodeId.write none
  payload := e.payload.write none
  status := .failed
  startedAt := e.startedAt.write none
  completedAt := e.completedAt.write none
  timeoutSeconds := e.timeoutSeconds.write none
  errorCode := e.errorCode.write none
  errorMessage := some message
  result := e.result.write none
  createdBy := e.createdBy.write none
  createdAt := row.createdAt
  updatedAt := row.updatedAt

theorem failed_row {now : Date} {e : JobEntity} {id : String} {old : Option Job} {row : Job}
    (message : String) (h : e.row now id old = some row) :
    (e.failed row message).row now row.id (some row) = some (e.failedRow row message) := by
  have htype : e.type.writeRequired JobType.ofText? (some row.type) = some row.type :=
    writeRequired_again (JobEntity.row_spec h).type
  have hstatus : (Field.value "failed").writeRequired JobStatus.ofText? (some row.status) =
      some .failed := JobStatus.ofText?_text .failed
  simp only [JobEntity.row, JobEntity.failed, JobEntity.saved, Option.map_some,
    Option.elim_some, Option.bind_some, htype, hstatus, write_orNull]
  rfl

/-! ## What `createJob` leaves -/

/-- Does `createJob`, once the job is stored, store that it has failed? -/
def failureStored (a : Answers) (jobData : JobEntity) (s : Store) : Bool :=
  match jobData.hubId.ifTruthy truthyString with
  | some hubId => twinCallFails a (s.twins hubId) && !a.resaveFails
  | none => false

/-- Does `createJob`, once the job is stored, throw because it cannot store that it has
failed? -/
def failureLost (a : Answers) (jobData : JobEntity) (s : Store) : Bool :=
  match jobData.hubId.ifTruthy truthyString with
  | some hubId => twinCallFails a (s.twins hubId) && a.resaveFails
  | none => false

/-- `createJob` of a job that cannot be sent, where its failure cannot be stored: the job stays
queued. -/
theorem createJob_lost {savedJob : JobEntity} {jobs : JobTable} {hubId message : String}
    (hsave : save a.saveFails a (newJob a.now jobData) s.jobs = .ok (savedJob, jobs))
    (hhub : savedJob.hubId.ifTruthy truthyString = some hubId)
    (hsend : sendJobToHub a hubId savedJob s.twins = .error message)
    (hresave : a.resaveFails = true) :
    createJob a jobData s = (.error .database, { s with jobs }) := by
  simp only [createJob, hsave, hhub, hsend]
  simp only [save, hresave, if_true]

/-- `createJob` of a job that cannot be sent, where its failure is stored. -/
theorem createJob_failed {row : Job} {hubId message : String}
    (hrow : (newJob a.now jobData).row a.now row.id (s.jobs.find row.id) = some row)
    (hsave : save a.saveFails a (newJob a.now jobData) s.jobs =
      .ok ((newJob a.now jobData).saved row, s.jobs.put row))
    (hhub : jobData.hubId.ifTruthy truthyString = some hubId)
    (hsend : sendJobToHub a hubId ((newJob a.now jobData).saved row) s.twins = .error message)
    (hresave : a.resaveFails = false) :
    createJob a jobData s =
      (.ok (((newJob a.now jobData).failed row message).saved
          ((newJob a.now jobData).failedRow row message)),
        { s with
          jobs := (s.jobs.put row).put ((newJob a.now jobData).failedRow row message) }) := by
  -- the second save, of the entity with the failure, over the row of the first
  have hagain : save a.resaveFails a ((newJob a.now jobData).failed row message)
      (s.jobs.put row) =
        .ok (((newJob a.now jobData).failed row message).saved
            ((newJob a.now jobData).failedRow row message),
          (s.jobs.put row).put ((newJob a.now jobData).failedRow row message)) := by
    rw [save, hresave, if_neg Bool.false_ne_true,
      show ((newJob a.now jobData).failed row message).id = .value row.id from rfl]
    dsimp only
    rw [Table.find_put_self, failed_row message hrow]
    rfl
  have hsaved : ((newJob a.now jobData).saved row).hubId.ifTruthy truthyString = some hubId :=
    (ifTruthy_orNull _ _).trans hhub
  rw [JobEntity.failed] at hagain
  simp only [createJob, hsave, hsaved, hsend, hagain]
  rfl

/-- What `createJob` leaves in the table once the database takes the job: its row, or that of
a job that has failed. It throws if the failure is lost. -/
theorem createJob_store {row : Job}
    (hrow : (newJob a.now jobData).row a.now row.id (s.jobs.find row.id) = some row)
    (hsave : save a.saveFails a (newJob a.now jobData) s.jobs =
      .ok ((newJob a.now jobData).saved row, s.jobs.put row)) :
    (createJob a jobData s).1.toBool = !failureLost a jobData s ∧
    ((failureStored a jobData s = false ∧ (createJob a jobData s).2.jobs = s.jobs.put row) ∨
    (failureStored a jobData s = true ∧ ∃ message, (createJob a jobData s).2.jobs =
      (s.jobs.put row).put ((newJob a.now jobData).failedRow row message))) := by
  have hhub : ((newJob a.now jobData).saved row).hubId.ifTruthy truthyString =
      jobData.hubId.ifTruthy truthyString := ifTruthy_orNull _ _
  cases hgiven : jobData.hubId.ifTruthy truthyString with
  | none =>
    -- without a hub the registry is not called
    rw [createJob_local hsave (hhub.trans hgiven)]
    refine ⟨by simp only [failureLost, hgiven]; rfl, .inl ⟨?_, rfl⟩⟩
    simp only [failureStored, hgiven]
  | some hubId =>
    have hstored : failureStored a jobData s =
        (twinCallFails a (s.twins hubId) && !a.resaveFails) := by
      simp only [failureStored, hgiven]
    have hlost : failureLost a jobData s =
        (twinCallFails a (s.twins hubId) && a.resaveFails) := by
      simp only [failureLost, hgiven]
    have hfails := sendJobToHub_fails a hubId ((newJob a.now jobData).saved row) s.twins
    cases hsend : sendJobToHub a hubId ((newJob a.now jobData).saved row) s.twins with
    | ok twins =>
      have hno : twinCallFails a (s.twins hubId) = false := by
        rw [hsend] at hfails
        exact Bool.eq_false_iff.mpr fun h => nomatch hfails.mpr h
      rw [createJob_sent hsave (hhub.trans hgiven) hsend, hstored, hlost, hno]
      exact ⟨rfl, .inl ⟨rfl, rfl⟩⟩
    | error message =>
      have hyes : twinCallFails a (s.twins hubId) = true := hfails.mp ⟨message, hsend⟩
      rw [hstored, hlost, hyes, Bool.true_and, Bool.true_and]
      cases hresave : a.resaveFails with
      | true =>
        -- the second save fails too: `createJob` throws, and the first row stays
        rw [createJob_lost hsave (hhub.trans hgiven) hsend hresave]
        exact ⟨rfl, .inl ⟨rfl, rfl⟩⟩
      | false =>
        rw [createJob_failed hrow hsave hgiven hsend hresave]
        exact ⟨rfl, .inr ⟨rfl, message, rfl⟩⟩

/-! ## The job that is returned and the job that is stored -/

/-- The type of a new row was given. -/
theorem type_of_newRow {e : JobEntity} {now : Date} {id : String} {row : Job}
    (h : e.row now id none = some row) : e.type = .value row.type.text := by
  have htype := (JobEntity.row_spec h).type
  cases hgiven : e.type with
  | undefined => rw [hgiven] at htype; cases htype
  | null => rw [hgiven] at htype; cases htype
  | value text =>
    rw [hgiven] at htype
    have hnamed : row.type.text = text := by
      simpa using List.find?_some (show JobType.ofText? text = some row.type from htype)
    rw [hnamed]

section
variable {row : Job} {id : String} (hrow : (newJob a.now jobData).row a.now id none = some row)
include hrow

/-- A new job that is queued is returned as it is stored. -/
theorem saved_eq_entity : (newJob a.now jobData).saved row = row.entity := by
  have htype : (newJob a.now jobData).type = .value row.type.text := type_of_newRow hrow
  have hstored := JobEntity.row_spec hrow
  simp only [JobEntity.saved, Job.entity, Field.orNull_eq, htype, newJob_queued hrow,
    hstored.hubId, hstored.nodeId, hstored.payload, hstored.startedAt, hstored.completedAt,
    hstored.timeoutSeconds, hstored.errorCode, hstored.errorMessage, hstored.result,
    hstored.createdBy]
  rfl

/-- A new job that has failed is returned as it is stored. -/
theorem failed_eq_entity (message : String) :
    ((newJob a.now jobData).failed row message).saved
        ((newJob a.now jobData).failedRow row message) =
      ((newJob a.now jobData).failedRow row message).entity := by
  have htype : (newJob a.now jobData).type = .value row.type.text := type_of_newRow hrow
  simp only [JobEntity.failed, JobEntity.saved, JobEntity.failedRow, Job.entity,
    Field.orNull_eq, Field.write_ofOption, htype]
  rfl

end

/-! ## All or nothing -/

/-- Both times that `createJob` saves the job, the database takes it. -/
def savesSucceed (a : Answers) (jobData : JobEntity) (s : Store) : Bool :=
  (save a.saveFails a (newJob a.now jobData) s.jobs).toBool && !a.resaveFails

/-- The job is offered to the hub:
1. it is queued;
2. the twin of the hub has one entry more, for the job, and is otherwise as it was, as are
   the twins of the other hubs. -/
structure Offered (hubId : String) (s s' : Store) (job : Job) : Prop where
  queued : job.status = .queued
  entry : ∃ jobs entry, jobsOf (s.twins hubId) = some jobs ∧ CarriesJob entry job ∧
    s'.twins = Function.update s.twins hubId
      (Function.update (s.twins hubId) "jobs" (.arr (jobs ++ [entry])))

/-- The job is not offered to any hub:
1. it has failed;
2. it says why;
3. the twins are as they were. -/
structure NotOffered (message : String) (s s' : Store) (job : Job) : Prop where
  failed : job.status = .failed
  errorMessage : job.errorMessage = some message
  twins : s'.twins = s.twins

/-- A job without an id is stored as a new row. -/
theorem save_new {savedJob : JobEntity} {jobs : JobTable}
    (hnew : jobData.id = .undefined ∨ jobData.id = .null)
    (hsave : save a.saveFails a (newJob a.now jobData) s.jobs = .ok (savedJob, jobs)) :
    ∃ row, s.jobs.find row.id = none ∧ (newJob a.now jobData).row a.now row.id none = some row ∧
      savedJob = (newJob a.now jobData).saved row ∧ jobs = s.jobs.put row := by
  obtain ⟨row, hrow, hsaved, hjobs, hfind⟩ := save_ok hsave
  have hfree : s.jobs.find row.id = none := by
    refine Option.eq_none_iff_forall_ne_some.mpr fun old hold => ?_
    have hgiven : jobData.id = .value old.id := ((hfind old).mp hold).2
    rcases hnew with h | h <;> rw [hgiven] at h <;> cases h
  rw [hfree] at hrow
  exact ⟨row, hfree, hrow, hsaved, hjobs⟩

/-- **All or nothing**: a job without an id that the database takes is returned as it is
stored. If it has a hub, and it can be sent, it is queued and offered to the hub; if it cannot
be sent, it has failed and is offered to no hub. If it has no hub, no twin changes. -/
theorem createJob_allOrNothing (hnew : jobData.id = .undefined ∨ jobData.id = .null)
    (hsaves : savesSucceed a jobData s = true) :
    ∃ (job : Job) (s' : Store), createJob a jobData s = (.ok job.entity, s') ∧
      s'.jobs.find job.id = some job ∧
      match jobData.hubId.ifTruthy truthyString with
      | none => s'.twins = s.twins
      | some hubId => job.hubId = some hubId ∧
        match deliveryError a (s.twins hubId) with
        | none => Offered hubId s s' job
        | some message => NotOffered message s s' job := by
  obtain ⟨hsave, hresave⟩ := Bool.and_eq_true_iff.mp hsaves
  cases hsaved : save a.saveFails a (newJob a.now jobData) s.jobs with
  | error e =>
    -- the first save succeeds, by assumption
    rw [hsaved] at hsave
    cases hsave
  | ok stored =>
    obtain ⟨savedJob, jobs⟩ := stored
    obtain ⟨row, hfree, hrow, rfl, rfl⟩ := save_new hnew hsaved
    have hhub : ((newJob a.now jobData).saved row).hubId.ifTruthy truthyString =
        jobData.hubId.ifTruthy truthyString := ifTruthy_orNull _ _
    cases hgiven : jobData.hubId.ifTruthy truthyString with
    | none =>
      have hresult := createJob_local hsaved (hhub.trans hgiven)
      rw [saved_eq_entity hrow] at hresult
      exact ⟨row, _, hresult, Table.find_put_self s.jobs row, rfl⟩
    | some hubId =>
      dsimp only
      have hon : jobData.hubId.write none = some hubId := by
        rw [(ifTruthy_eq_some_iff.mp hgiven).1]
        rfl
      cases herror : deliveryError a (s.twins hubId) with
      | none =>
        -- sent: the message has all of the row that was stored
        obtain ⟨jobs, hjobs, hsend⟩ :=
          sendJobToHub_of_ok ((newJob a.now jobData).saved row) s.twins herror
        have hresult := createJob_sent hsaved (hhub.trans hgiven) hsend
        rw [saved_eq_entity hrow] at hresult
        have hrowHub := (JobEntity.row_spec hrow).hubId
        refine ⟨row, _, hresult, Table.find_put_self s.jobs row, hrowHub.trans hon, ?_⟩
        exact ⟨newJob_queued hrow, jobs, _, hjobs, jobPayload_carries row, rfl⟩
      | some message =>
        -- not sent: the row is stored again, with the message of the error
        have hsend := sendJobToHub_of_error ((newJob a.now jobData).saved row) s.twins herror
        have hresult := createJob_failed (by rw [hfree]; exact hrow) hsaved hgiven hsend
          (by simpa using hresave)
        rw [failed_eq_entity hrow] at hresult
        exact ⟨_, _, hresult, Table.find_put_self _ _, hon, rfl, rfl, rfl⟩

/-- A configuration job for a node of the hub -/
def configJob : JobEntity where
  type := .value "push_node_config"
  hubId := .value "hub-001"
  nodeId := .value "AA:BB:CC:DD:EE:FF"
  payload := .value (.object [("sampleRate", .num 60)])
  createdBy := .value "user-123"

/-- The registry cannot be written. -/
def failedUpdate : Answers := { goodAnswers with updateTwinFails := some "IoT Hub error" }

/-- A job that cannot be sent has failed, and is not in the twin. -/
theorem configJob_failed :
    ∃ (job : Job) (s' : Store), createJob failedUpdate configJob noJobs = (.ok job.entity, s') ∧
      s'.jobs.find job.id = some job ∧ job.hubId = some "hub-001" ∧
        NotOffered "IoT Hub error" noJobs s' job :=
  createJob_allOrNothing (.inl rfl) rfl

end SensorNet.Backend
