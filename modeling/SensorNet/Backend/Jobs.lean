import SensorNet.Backend.IotHub
import SensorNet.Lib.JsDate
import SensorNet.Lib.Table

/-!
# The backend's jobs (`job.entity.ts`, `jobs.service.ts`)

Jobs are rows of a table; a job for a hub is also appended to the jobs in the
hub's twin. `Store` is both. A call runs to its end without another one in between,
and `Answers` says what it gets from outside: the time, the id the database makes
for a new row, and which of its calls to the database and the IoT Hub fail.

Of TypeORM we assume:
- `save` updates the row with the entity's id if there is one, and else inserts a
  row; a property that is `undefined` leaves its column as it is, or at its default;
- a value that the column does not admit makes `save` fail, without effect;
- after `save` the entity has its id and dates, and `null` where a nullable
  property was not set;
- `findOne` with an id that is `undefined` or `null` gives any row;
- `save` refuses an entity whose id is `null`;
- two ids are the same iff their texts are.
-/

namespace SensorNet.Backend

open SensorNet.Js

/-! ## Rows -/

/-- The states of a job, `enum` of `Job.status`. -/
inductive JobStatus where
  | queued
  | running
  | succeeded
  | failed
  | timeout
  | cancelled
  deriving DecidableEq, Repr

namespace JobStatus

def text : JobStatus → String
  | queued => "queued"
  | running => "running"
  | succeeded => "succeeded"
  | failed => "failed"
  | timeout => "timeout"
  | cancelled => "cancelled"

/-- The state that a text names. -/
def ofText? (s : String) : Option JobStatus :=
  [queued, running, succeeded, failed, timeout, cancelled].find? fun status =>
    status.text == s

@[simp] theorem ofText?_text (status : JobStatus) : ofText? status.text = some status := by
  cases status <;> decide

theorem text_of_ofText? {s : String} {status : JobStatus} (h : ofText? s = some status) :
    status.text = s := by
  simpa using List.find?_some h

/-- The states in which nothing is left to do. -/
def finished : JobStatus → Bool
  | queued | running => false
  | succeeded | failed | timeout | cancelled => true

theorem finished_eq_false_iff {status : JobStatus} :
    status.finished = false ↔ status = queued ∨ status = running := by
  cases status <;> simp [finished]

end JobStatus

/-- The types of jobs, `enum` of `Job.type`. -/
inductive JobType where
  | pushNodeConfig
  | pullNodeDiagnostics
  | triggerNodeMaintenance
  | updateHubFirmware
  | exportSupportPackage
  deriving DecidableEq, Repr

namespace JobType

def text : JobType → String
  | pushNodeConfig => "push_node_config"
  | pullNodeDiagnostics => "pull_node_diagnostics"
  | triggerNodeMaintenance => "trigger_node_maintenance"
  | updateHubFirmware => "update_hub_firmware"
  | exportSupportPackage => "export_support_package"

/-- The type that a text names. -/
def ofText? (s : String) : Option JobType :=
  [pushNodeConfig, pullNodeDiagnostics, triggerNodeMaintenance, updateHubFirmware,
    exportSupportPackage].find? fun type => type.text == s

@[simp] theorem ofText?_text (type : JobType) : ofText? type.text = some type := by
  cases type <;> decide

end JobType

/-- A row of the table `jobs`; a nullable column that is `NULL` is `none`. -/
structure Job where
  id : String
  type : JobType
  hubId : Option String
  nodeId : Option String
  payload : Option Json
  status : JobStatus
  startedAt : Option Date
  completedAt : Option Date
  timeoutSeconds : Option Int
  errorCode : Option String
  errorMessage : Option String
  result : Option Json
  createdBy : Option String
  createdAt : Date
  updatedAt : Date

/-- The table `jobs`, with its primary key. -/
abbrev JobTable := Table Job.id

/-! ## Entities -/

/-- What a property of an object in the program holds. -/
inductive Field (α : Type) where
  | undefined
  | null
  | value (a : α)
  deriving DecidableEq

namespace Field

variable {α β : Type}

/-- A column's content as a property. -/
def ofOption : Option α → Field α
  | none => null
  | some a => value a

/-- What a nullable column holds once the property is written to it. -/
def write (old : Option α) : Field α → Option α
  | undefined => old
  | null => none
  | value a => some a

/-- What a column that is not nullable holds once the property is written to it,
`none` where the database refuses: `default` is the content before, or of a new row,
and `admits` reads a value as one of the column's. -/
def writeRequired (admits : α → Option β) (default : Option β) : Field α → Option β
  | undefined => default
  | null => none
  | value a => admits a

/-- The property after `save`, for a nullable column. -/
def orNull : Field α → Field α
  | undefined => null
  | f => f

/-- The value, if a condition on the property holds. -/
def ifTruthy (truthy : α → Bool) : Field α → Option α
  | value a => if truthy a then some a else none
  | _ => none

/-- `if (given) property = given` -/
def setIfTruthy (truthy : α → Bool) (given property : Field α) : Field α :=
  match given.ifTruthy truthy with
  | some a => value a
  | none => property

/-- The property in a message to the IoT Hub. -/
def json (toJson : α → Json) : Field α → Json
  | undefined => .undefined
  | null => .null
  | value a => toJson a

@[simp] theorem write_ofOption (old o : Option α) : (ofOption o).write old = o := by
  cases o <;> rfl

end Field

/-- The condition on a string. -/
def truthyString (s : String) : Bool := s != ""

/-- A `Job` object in the program: also a `Partial<Job>`. -/
structure JobEntity where
  id : Field String := .undefined
  type : Field String := .undefined
  hubId : Field String := .undefined
  nodeId : Field String := .undefined
  payload : Field Json := .undefined
  status : Field String := .undefined
  startedAt : Field Date := .undefined
  completedAt : Field Date := .undefined
  timeoutSeconds : Field Int := .undefined
  errorCode : Field String := .undefined
  errorMessage : Field String := .undefined
  result : Field Json := .undefined
  createdBy : Field String := .undefined
  createdAt : Field Date := .undefined
  updatedAt : Field Date := .undefined

/-- The entity that `findOne` makes of a row. -/
def Job.entity (job : Job) : JobEntity where
  id := .value job.id
  type := .value job.type.text
  hubId := .ofOption job.hubId
  nodeId := .ofOption job.nodeId
  payload := .ofOption job.payload
  status := .value job.status.text
  startedAt := .ofOption job.startedAt
  completedAt := .ofOption job.completedAt
  timeoutSeconds := .ofOption job.timeoutSeconds
  errorCode := .ofOption job.errorCode
  errorMessage := .ofOption job.errorMessage
  result := .ofOption job.result
  createdBy := .ofOption job.createdBy
  createdAt := .value job.createdAt
  updatedAt := .value job.updatedAt

/-- The row that the entity makes of the row `old`, or a new row; `none` where the
database refuses a value. -/
def JobEntity.row (e : JobEntity) (now : Date) (id : String) (old : Option Job) :
    Option Job := do
  let type ← e.type.writeRequired JobType.ofText? (old.map Job.type)
  let status ← e.status.writeRequired JobStatus.ofText? (some (old.elim .queued Job.status))
  let createdAt ← e.createdAt.writeRequired some (some (old.elim now Job.createdAt))
  let updatedAt ← e.updatedAt.writeRequired some (some now)
  return {
    id
    type
    hubId := e.hubId.write (old.bind Job.hubId)
    nodeId := e.nodeId.write (old.bind Job.nodeId)
    payload := e.payload.write (old.bind Job.payload)
    status
    startedAt := e.startedAt.write (old.bind Job.startedAt)
    completedAt := e.completedAt.write (old.bind Job.completedAt)
    timeoutSeconds := e.timeoutSeconds.write (old.bind Job.timeoutSeconds)
    errorCode := e.errorCode.write (old.bind Job.errorCode)
    errorMessage := e.errorMessage.write (old.bind Job.errorMessage)
    result := e.result.write (old.bind Job.result)
    createdBy := e.createdBy.write (old.bind Job.createdBy)
    createdAt
    updatedAt }

/-- The entity after `save` has stored it as the row. -/
def JobEntity.saved (e : JobEntity) (row : Job) : JobEntity where
  id := .value row.id
  type := e.type
  hubId := e.hubId.orNull
  nodeId := e.nodeId.orNull
  payload := e.payload.orNull
  status := e.status
  startedAt := e.startedAt.orNull
  completedAt := e.completedAt.orNull
  timeoutSeconds := e.timeoutSeconds.orNull
  errorCode := e.errorCode.orNull
  errorMessage := e.errorMessage.orNull
  result := e.result.orNull
  createdBy := e.createdBy.orNull
  createdAt := .value row.createdAt
  updatedAt := .value row.updatedAt

/-! ## The database and the IoT Hub -/

/-- What a call gets from outside. -/
structure Answers where
  /-- `new Date()` -/
  now : Date
  /-- the id that the database makes for a new row -/
  uuid : String
  /-- `findOne` fails -/
  findFails : Bool := false
  /-- the place of the row that `findOne` gives without an id: the query has no order -/
  anyRow : Nat := 0
  /-- the first `save` fails -/
  saveFails : Bool := false
  /-- the second `save` of `createJob` fails -/
  resaveFails : Bool := false
  /-- the message with which `registry.getTwin` fails -/
  getTwinFails : Option String := none
  /-- the message with which `registry.updateTwin` fails -/
  updateTwinFails : Option String := none

/-- What a method of the service throws. -/
inductive Failure where
  /-- `Job ${id} not found` -/
  | jobNotFound (id : Field String)
  /-- an error of the database -/
  | database
  deriving DecidableEq

/-- What the backend has stored: its jobs, and the desired properties of each hub's
twin. -/
structure Store where
  jobs : JobTable
  twins : String → Desired

/-- The row with the id; without an id the row at the place, counted round the table. -/
def foundRow (place : Nat) (id : Field String) (jobs : JobTable) : Option Job :=
  match id with
  | .value id => jobs.find id
  | _ => jobs.rows[place % jobs.rows.length]?

/-- `jobRepository.findOne({ where: { id } })` -/
def findOne (a : Answers) (id : Field String) (jobs : JobTable) :
    Except Failure (Option Job) :=
  if a.findFails then .error .database else .ok (foundRow a.anyRow id jobs)

/-- Store the row of an entity, if there is one. -/
def store (e : JobEntity) (row : Option Job) (jobs : JobTable) :
    Except Failure (JobEntity × JobTable) :=
  match row with
  | some row => .ok (e.saved row, jobs.put row)
  | none => .error .database

/-- `jobRepository.save(entity)`: the entity after that, and the table. -/
def save (fails : Bool) (a : Answers) (e : JobEntity) (jobs : JobTable) :
    Except Failure (JobEntity × JobTable) :=
  if fails then .error .database
  else match e.id with
    | .value id => store e (e.row a.now id (jobs.find id)) jobs
    | .null => .error .database
    | .undefined =>
      -- the primary key does not admit an id that is taken
      if (jobs.find a.uuid).isSome then .error .database
      else store e (e.row a.now a.uuid none) jobs

/-- `iotHubService.addJobToTwin(hubId, job)`: the twins after it, or the message of
the error it throws. -/
def sendToTwin (a : Answers) (hubId : String) (job : Json) (twins : String → Desired) :
    Except String (String → Desired) :=
  match a.getTwinFails with
  | some message => .error message
  | none =>
    match addJobToTwin job (twins hubId) with
    | none => .error "currentJobs is not iterable"
    | some sent =>
      match a.updateTwinFails with
      | some message => .error message
      | none => .ok (Function.update twins hubId (updateTwin (twins hubId) sent))

/-! ## The service -/

/-- `job.timeoutSeconds || 300` -/
def timeoutOrDefault (timeoutSeconds : Field Int) : Int :=
  (timeoutSeconds.ifTruthy fun n => n != 0).getD 300

/-- The object `jobPayload` of `sendJobToHub`. -/
def jobPayload (job : JobEntity) : Json := .object [
  ("jobId", job.id.json .str),
  ("type", job.type.json .str),
  ("targetNodeId", job.nodeId.json .str),
  ("payload", job.payload.json id),
  ("createdAt", job.createdAt.json fun date => .str (Date.toISOString date)),
  ("timeoutSeconds", .num (timeoutOrDefault job.timeoutSeconds))]

/-- `sendJobToHub`, for a job whose hub is `hubId`. -/
def sendJobToHub (a : Answers) (hubId : String) (job : JobEntity)
    (twins : String → Desired) : Except String (String → Desired) :=
  sendToTwin a hubId (jobPayload job) twins

/-- `jobRepository.create({ ...jobData, status: 'queued', createdAt: new Date() })` -/
def newJob (now : Date) (jobData : JobEntity) : JobEntity :=
  { jobData with status := .value "queued", createdAt := .value now }

/-- `createJob` -/
def createJob (a : Answers) (jobData : JobEntity) (s : Store) :
    Except Failure JobEntity × Store :=
  match save a.saveFails a (newJob a.now jobData) s.jobs with
  | .error e => (.error e, s)
  | .ok (savedJob, jobs) =>
    match savedJob.hubId.ifTruthy truthyString with
    | none => (.ok savedJob, { s with jobs })
    | some hubId =>
      match sendJobToHub a hubId savedJob s.twins with
      | .ok twins => (.ok savedJob, { jobs, twins })
      | .error message =>
        let failedJob :=
          { savedJob with status := .value "failed", errorMessage := .value message }
        match save a.resaveFails a failedJob jobs with
        | .ok (resavedJob, jobs) => (.ok resavedJob, { s with jobs })
        | .error e => (.error e, { s with jobs })

/-- The arguments of `updateJobStatus`. -/
structure StatusArgs where
  id : Field String
  status : Field String
  errorCode : Field String := .undefined
  errorMessage : Field String := .undefined
  result : Field Json := .undefined

/-- What `updateJobStatus` sets in the job it has found. -/
def JobEntity.setStatus (job : JobEntity) (now : Date) (args : StatusArgs) : JobEntity :=
  { job with
    status := args.status
    updatedAt := .value now
    startedAt :=
      if args.status = .value "running" ∧ (job.startedAt.ifTruthy fun _ => true) = none then
        .value now
      else job.startedAt
    completedAt :=
      if args.status = .value "succeeded" ∨ args.status = .value "failed" ∨
          args.status = .value "timeout" then
        .value now
      else job.completedAt
    errorCode := args.errorCode.setIfTruthy truthyString job.errorCode
    errorMessage := args.errorMessage.setIfTruthy truthyString job.errorMessage
    result := args.result.setIfTruthy Json.truthy job.result }

/-- `updateJobStatus` -/
def updateJobStatus (a : Answers) (args : StatusArgs) (s : Store) :
    Except Failure JobEntity × Store :=
  match findOne a args.id s.jobs with
  | .error e => (.error e, s)
  | .ok none => (.error (.jobNotFound args.id), s)
  | .ok (some job) =>
    match save a.saveFails a (job.entity.setStatus a.now args) s.jobs with
    | .error e => (.error e, s)
    | .ok (updatedJob, jobs) => (.ok updatedJob, { s with jobs })

/-- What a hub reports of a job. -/
structure JobResult where
  jobId : Field String
  status : Field String
  errorCode : Field String := .undefined
  errorMessage : Field String := .undefined
  diagnostics : Field Json := .undefined

/-- The arguments with which `processJobResult` calls `updateJobStatus`. -/
def JobResult.args (r : JobResult) : StatusArgs :=
  ⟨r.jobId, r.status, r.errorCode, r.errorMessage, r.diagnostics⟩

/-- `processJobResult`: what `updateJobStatus` throws is logged, and the hub is not
looked at. -/
def processJobResult (a : Answers) (_hubId : String) (r : JobResult) (s : Store) : Store :=
  (updateJobStatus a r.args s).2

/-- The arguments with which `cancelJob` calls `updateJobStatus`. -/
def cancelArgs (id : String) : StatusArgs := { id := .value id, status := .value "cancelled" }

/-- `cancelJob` -/
def cancelJob (a : Answers) (id : String) (s : Store) : Except Failure JobEntity × Store :=
  updateJobStatus a (cancelArgs id) s

/-! ## What the methods leave -/

variable {a : Answers} {s : Store}

/-- The row that an entity makes of the row `old`, column by column -/
structure JobEntity.StoredAs (e : JobEntity) (now : Date) (id : String) (old : Option Job)
    (row : Job) : Prop where
  id : row.id = id
  type : e.type.writeRequired JobType.ofText? (old.map Job.type) = some row.type
  hubId : row.hubId = e.hubId.write (old.bind Job.hubId)
  nodeId : row.nodeId = e.nodeId.write (old.bind Job.nodeId)
  payload : row.payload = e.payload.write (old.bind Job.payload)
  status : e.status.writeRequired JobStatus.ofText? (some (old.elim .queued Job.status)) =
    some row.status
  startedAt : row.startedAt = e.startedAt.write (old.bind Job.startedAt)
  completedAt : row.completedAt = e.completedAt.write (old.bind Job.completedAt)
  timeoutSeconds : row.timeoutSeconds = e.timeoutSeconds.write (old.bind Job.timeoutSeconds)
  errorCode : row.errorCode = e.errorCode.write (old.bind Job.errorCode)
  errorMessage : row.errorMessage = e.errorMessage.write (old.bind Job.errorMessage)
  result : row.result = e.result.write (old.bind Job.result)
  createdBy : row.createdBy = e.createdBy.write (old.bind Job.createdBy)
  createdAt : e.createdAt.writeRequired some (some (old.elim now Job.createdAt)) =
    some row.createdAt
  updatedAt : e.updatedAt.writeRequired some (some now) = some row.updatedAt

/-- The facts about a stored row -/
theorem JobEntity.row_spec {e : JobEntity} {now : Date} {id : String} {old : Option Job}
    {row : Job} (h : e.row now id old = some row) : e.StoredAs now id old row := by
  simp only [JobEntity.row, Option.bind_eq_bind, Option.bind_eq_some_iff] at h
  obtain ⟨type, htype, status, hstatus, createdAt, hcreated, updatedAt, hupdated, hrow⟩ := h
  cases hrow
  exact ⟨rfl, htype, rfl, rfl, rfl, hstatus, rfl, rfl, rfl, rfl, rfl, rfl, rfl, hcreated,
    hupdated⟩

/-- The status that is stored when one is given -/
theorem stored_of_given {given : Field String} {old new : JobStatus} (status : JobStatus)
    (hgiven : given = .value status.text)
    (h : given.writeRequired JobStatus.ofText? (some old) = some new) : new = status := by
  rw [hgiven, show (Field.value status.text).writeRequired JobStatus.ofText? (some old) =
    some status from JobStatus.ofText?_text status] at h
  exact (Option.some.inj h).symm

/-- The row that `createJob` stores first is queued. -/
theorem newJob_queued {jobData : JobEntity} {now time : Date} {id : String} {old : Option Job}
    {row : Job} (h : (newJob now jobData).row time id old = some row) : row.status = .queued :=
  stored_of_given .queued rfl (JobEntity.row_spec h).status

/-- The status given is one that `updateJobStatus` takes for the end of the job. -/
abbrev StatusArgs.Completes (args : StatusArgs) : Prop :=
  args.status = .value "succeeded" ∨ args.status = .value "failed" ∨
    args.status = .value "timeout"

/-- The row of a job after its status has been set. -/
def Job.withStatus (job : Job) (now : Date) (args : StatusArgs) (status : JobStatus) : Job :=
  { job with
    status
    updatedAt := now
    startedAt :=
      if args.status = .value "running" then some (job.startedAt.getD now) else job.startedAt
    completedAt := if args.Completes then some now else job.completedAt
    errorCode := (args.errorCode.ifTruthy truthyString).or job.errorCode
    errorMessage := (args.errorMessage.ifTruthy truthyString).or job.errorMessage
    result := (args.result.ifTruthy Json.truthy).or job.result }

theorem Field.write_setIfTruthy {α : Type} (truthy : α → Bool) (given : Field α)
    (old o : Option α) :
    (given.setIfTruthy truthy (.ofOption o)).write old = (given.ifTruthy truthy).or o := by
  unfold setIfTruthy
  cases given.ifTruthy truthy with
  | none => exact Field.write_ofOption old o
  | some a => rfl

/-- The row that a found job becomes when its status is set and it is stored in the place of
`row`: its own columns with the status set, unless the status is refused. -/
theorem setStatus_row (job row : Job) (now : Date) (args : StatusArgs) :
    (job.entity.setStatus now args).row now job.id (some row) =
      (args.status.writeRequired JobStatus.ofText? (some row.status)).map
        (job.withStatus now args) := by
  have htype : (Field.value job.type.text).writeRequired JobType.ofText? (some row.type) =
      some job.type := JobType.ofText?_text _
  simp only [JobEntity.row, JobEntity.setStatus, Job.entity, Option.map_some,
    Option.elim_some, htype]
  cases args.status.writeRequired JobStatus.ofText? (some row.status) with
  | none => rfl
  | some status =>
    show some (Job.mk ..) = some (Job.mk ..)
    simp only [Field.write_ofOption, Field.write_setIfTruthy]
    congr 2
    · -- `startedAt` is set to the time unless it is set
      by_cases hrunning : args.status = .value "running"
      · rcases Option.eq_none_or_eq_some job.startedAt with hnot | ⟨date, hstarted⟩
        · simp [hrunning, hnot, Field.ofOption, Field.ifTruthy, Field.write]
        · simp [hrunning, hstarted, Field.ofOption, Field.ifTruthy, Field.write]
      · simp [hrunning]
    · split
      · rfl
      · exact Field.write_ofOption _ _

/-- A job with a new status is refused only for the status. -/
theorem setStatus_row_isSome (job : Job) (now : Date) (args : StatusArgs) :
    ((job.entity.setStatus now args).row now job.id (some job)).isSome =
      (args.status.writeRequired JobStatus.ofText? (some job.status)).isSome := by
  rw [setStatus_row, Option.isSome_map]

theorem store_ok {e saved : JobEntity} {row? : Option Job} {jobs jobs' : JobTable}
    (h : store e row? jobs = .ok (saved, jobs')) :
    ∃ row, row? = some row ∧ saved = e.saved row ∧ jobs' = jobs.put row := by
  cases row? with
  | none => cases h
  | some row =>
    cases h
    exact ⟨row, rfl, rfl, rfl⟩

/-- What `save` stores: a row made of the entity and the row with the same id. -/
theorem save_ok {fails : Bool} {e saved : JobEntity} {jobs jobs' : JobTable}
    (h : save fails a e jobs = .ok (saved, jobs')) :
    ∃ row, e.row a.now row.id (jobs.find row.id) = some row ∧ saved = e.saved row ∧
      jobs' = jobs.put row ∧
      ∀ job, jobs.find row.id = some job ↔ job ∈ jobs.rows ∧ e.id = .value job.id := by
  unfold save at h
  split at h
  · cases h
  · split at h
    · next id hid =>
      -- with an id: the row that is there, if any, is replaced
      obtain ⟨row, hrow, rfl, rfl⟩ := store_ok h
      have hkey := (JobEntity.row_spec hrow).id
      refine ⟨row, by rw [hkey, hrow], rfl, rfl, fun job => ?_⟩
      rw [hkey, hid, Table.find_eq_some_iff, Field.value.injEq, eq_comm (a := id)]
    · cases h
    · next hid =>
      split at h
      · cases h
      · next hfree =>
        -- without an id: the id is generated, and there is no row to replace
        have hfind := Option.not_isSome_iff_eq_none.mp hfree
        obtain ⟨row, hrow, rfl, rfl⟩ := store_ok h
        have hkey := (JobEntity.row_spec hrow).id
        refine ⟨row, by rw [hkey, hfind, hrow], rfl, rfl, fun job => ?_⟩
        rw [hkey, hfind]
        refine iff_of_false (Option.some_ne_none job).symm fun h => ?_
        rw [hid] at h
        cases h.2

/-- `createJob` of a job that the database refuses. -/
theorem createJob_refused {jobData : JobEntity} {e : Failure}
    (hsave : save a.saveFails a (newJob a.now jobData) s.jobs = .error e) :
    createJob a jobData s = (.error e, s) := by
  simp only [createJob, hsave]

/-- `createJob` of a job without a hub. -/
theorem createJob_local {jobData savedJob : JobEntity} {jobs : JobTable}
    (hsave : save a.saveFails a (newJob a.now jobData) s.jobs = .ok (savedJob, jobs))
    (hhub : savedJob.hubId.ifTruthy truthyString = none) :
    createJob a jobData s = (.ok savedJob, { s with jobs }) := by
  simp only [createJob, hsave, hhub]

/-- `createJob` of a job that is sent to its hub. -/
theorem createJob_sent {jobData savedJob : JobEntity} {jobs : JobTable} {hubId : String}
    {twins : String → Desired}
    (hsave : save a.saveFails a (newJob a.now jobData) s.jobs = .ok (savedJob, jobs))
    (hhub : savedJob.hubId.ifTruthy truthyString = some hubId)
    (hsend : sendJobToHub a hubId savedJob s.twins = .ok twins) :
    createJob a jobData s = (.ok savedJob, { jobs, twins }) := by
  simp only [createJob, hsave, hhub, hsend]

/-- `createJob` of a job that cannot be sent: if it returns a job, that has failed. -/
theorem createJob_unsent {jobData savedJob job : JobEntity} {jobs : JobTable}
    {hubId message : String}
    (hsave : save a.saveFails a (newJob a.now jobData) s.jobs = .ok (savedJob, jobs))
    (hhub : savedJob.hubId.ifTruthy truthyString = some hubId)
    (hsend : sendJobToHub a hubId savedJob s.twins = .error message)
    (h : (createJob a jobData s).1 = .ok job) : job.status = .value "failed" := by
  simp only [createJob, hsave, hhub, hsend] at h
  split at h
  · next resavedJob _ hresave =>
    obtain ⟨row, -, rfl, -⟩ := save_ok hresave
    cases h
    rfl
  · cases h

/-- A row that is found is in the table. -/
theorem foundRow_mem {place : Nat} {id : Field String} {jobs : JobTable} {job : Job}
    (h : foundRow place id jobs = some job) : job ∈ jobs.rows := by
  unfold foundRow at h
  split at h
  · exact (Table.find_eq_some_iff.mp h).1
  · exact List.mem_of_getElem? h

/-- What `findOne` gives if the database does not fail. -/
theorem findOne_eq_ok_iff {id : Field String} {jobs : JobTable} {found : Option Job} :
    findOne a id jobs = .ok found ↔ a.findFails = false ∧ foundRow a.anyRow id jobs = found := by
  unfold findOne
  cases a.findFails with
  | true => exact iff_of_false nofun nofun
  | false => exact ⟨fun h => ⟨rfl, Except.ok.inj h⟩, fun h => congrArg Except.ok h.2⟩

/-- `findOne` with an id gives the row with it. -/
theorem findOne_value_ok {id : String} {jobs : JobTable} {found : Option Job}
    (h : findOne a (.value id) jobs = .ok found) : jobs.find id = found :=
  (findOne_eq_ok_iff.mp h).2

theorem findOne_ok {id : Field String} {jobs : JobTable} {job : Job}
    (h : findOne a id jobs = .ok (some job)) :
    a.findFails = false ∧ jobs.find job.id = some job := by
  obtain ⟨hfails, hfound⟩ := findOne_eq_ok_iff.mp h
  exact ⟨hfails, Table.find_eq_some_iff.mpr ⟨foundRow_mem hfound, rfl⟩⟩

/-- `updateJobStatus` on a job that it finds. -/
theorem updateJobStatus_found {args : StatusArgs} {job : Job}
    (h : findOne a args.id s.jobs = .ok (some job)) :
    updateJobStatus a args s =
      if a.saveFails then (.error .database, s)
      else match (job.entity.setStatus a.now args).row a.now job.id (some job) with
        | some row =>
          (.ok ((job.entity.setStatus a.now args).saved row),
            { s with jobs := s.jobs.put row })
        | none => (.error .database, s) := by
  obtain ⟨-, hfind⟩ := findOne_ok h
  simp only [updateJobStatus, h]
  rw [save, show (job.entity.setStatus a.now args).id = .value job.id from rfl]
  simp only [hfind]
  cases a.saveFails with
  | true => rfl
  | false => cases (job.entity.setStatus a.now args).row a.now job.id (some job) <;> rfl

/-- The job that a call of `updateJobStatus` stores, as it found it, and the status it gets;
`none` if the call stores nothing. -/
def statusUpdate (a : Answers) (args : StatusArgs) (s : Store) : Option (Job × JobStatus) :=
  match findOne a args.id s.jobs with
  | .ok (some job) =>
    if a.saveFails then none
    else (args.status.writeRequired JobStatus.ofText? (some job.status)).map fun status =>
      (job, status)
  | _ => none

theorem statusUpdate_eq_some {args : StatusArgs} {job : Job} {status : JobStatus}
    (h : statusUpdate a args s = some (job, status)) :
    findOne a args.id s.jobs = .ok (some job) ∧ a.saveFails = false ∧
      args.status.writeRequired JobStatus.ofText? (some job.status) = some status := by
  unfold statusUpdate at h
  split at h
  · next found hfound =>
    split at h
    · cases h
    · next hsave =>
      obtain ⟨given, hgiven, heq⟩ := Option.map_eq_some_iff.mp h
      cases heq
      exact ⟨hfound, by simpa using hsave, hgiven⟩
  · cases h

/-- What `updateJobStatus` leaves: the job it found with its status set, or nothing new. -/
theorem updateJobStatus_store (a : Answers) (args : StatusArgs) (s : Store) :
    (updateJobStatus a args s).2 =
      match statusUpdate a args s with
      | some (job, status) => { s with jobs := s.jobs.put (job.withStatus a.now args status) }
      | none => s := by
  unfold statusUpdate
  cases hfound : findOne a args.id s.jobs with
  | error e => simp only [updateJobStatus, hfound]
  | ok found =>
    cases found with
    | none => simp only [updateJobStatus, hfound]
    | some job =>
      rw [updateJobStatus_found hfound, setStatus_row]
      dsimp only
      cases a.saveFails with
      | true => rfl
      | false => cases args.status.writeRequired JobStatus.ofText? (some job.status) <;> rfl

/-- The three ways in which `updateJobStatus` ends: the job is not found; the database
fails or refuses the status; or the job is stored with its status set. -/
theorem updateJobStatus_cases (a : Answers) (args : StatusArgs) (s : Store) :
    (findOne a args.id s.jobs = .ok none ∧
      updateJobStatus a args s = (.error (.jobNotFound args.id), s)) ∨
    ((a.findFails = true ∨ a.saveFails = true ∨
        ∃ job, findOne a args.id s.jobs = .ok (some job) ∧
          args.status.writeRequired JobStatus.ofText? (some job.status) = none) ∧
      updateJobStatus a args s = (.error .database, s)) ∨
    (∃ job row saved, findOne a args.id s.jobs = .ok (some job) ∧
      a.saveFails = false ∧ row.id = job.id ∧ row.hubId = job.hubId ∧
      args.status.writeRequired JobStatus.ofText? (some job.status) = some row.status ∧
      updateJobStatus a args s = (.ok saved, { s with jobs := s.jobs.put row })) := by
  cases hfound : findOne a args.id s.jobs with
  | error e =>
    have hfails : a.findFails = true ∧ e = .database := by
      unfold findOne at hfound
      split at hfound
      · next h => exact ⟨h, (Except.error.inj hfound).symm⟩
      · cases hfound
    -- the lookup fails
    refine .inr (.inl ⟨.inl hfails.1, ?_⟩)
    simp only [updateJobStatus, hfound, hfails.2]
  | ok found =>
    cases found with
    | none => exact .inl ⟨rfl, by simp only [updateJobStatus, hfound]⟩
    | some job =>
      obtain ⟨-, hfind⟩ := findOne_ok hfound
      have hupdate := updateJobStatus_found hfound
      cases hfails : a.saveFails with
      | true =>
        rw [hfails, if_pos rfl] at hupdate
        exact .inr (.inl ⟨.inr (.inl rfl), hupdate⟩)
      | false =>
        rw [hfails, if_neg Bool.false_ne_true] at hupdate
        have hrefused := setStatus_row_isSome job a.now args
        cases hrow : (job.entity.setStatus a.now args).row a.now job.id (some job) with
        | none =>
          rw [hrow, Option.isSome_none, eq_comm, Option.isSome_eq_false_iff,
            Option.isNone_iff_eq_none] at hrefused
          rw [hrow] at hupdate
          -- the column does not take the status
          exact .inr (.inl ⟨.inr (.inr ⟨job, rfl, hrefused⟩), hupdate⟩)
        | some row =>
          have hstored := JobEntity.row_spec hrow
          rw [hrow] at hupdate
          refine .inr (.inr ⟨job, row, _, rfl, rfl, hstored.id, ?_, hstored.status, hupdate⟩)
          rw [hstored.hubId]
          exact Field.write_ofOption _ _

/-- `updateJobStatus` on a job named by its id leaves the other jobs. -/
theorem updateJobStatus_find_of_ne {args : StatusArgs} {named id : String}
    (hnamed : args.id = .value named) (hne : id ≠ named) :
    (updateJobStatus a args s).2.jobs.find id = s.jobs.find id := by
  rcases updateJobStatus_cases a args s with
    ⟨-, h⟩ | ⟨-, h⟩ | ⟨job, row, saved, hfound, -, hrow, -, -, h⟩
  · rw [h]
  · rw [h]
  · rw [hnamed] at hfound
    have hkey := (Table.find_eq_some_iff.mp (findOne_value_ok hfound)).2
    rw [h]
    exact Table.find_put_of_ne (by rw [hrow, hkey]; exact hne)

end SensorNet.Backend
