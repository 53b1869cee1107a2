import SensorNet.Backend.Retention
import SensorNet.Backend.TwinSchema

/-!
# Runs of the whole job service (`jobs.service.ts`)

The calls of `JobLifecycle` and `JobDelivery`, those that create a job of one type
(`createPushNodeConfigJob` and its siblings), and `cleanupOldJobs`, one after another and with
any failures of the database and the IoT Hub in between (`serve`).

- `twins_log`: the twin of each hub is what it was, with the messages of those jobs appended
  that a caller of the service got back as queued on this hub, in the order of the calls. So a
  hub gets each job of which its creator was told so, once, and no other.
- `jobs_kept`: a job that is stored keeps all that was said of it when it was created, and is
  never lost while it is queued or running: where it is missing, a cleanup has deleted it when
  it was finished.
- `forms_valid_iff`: of the jobs of one type, those for a node keep the twin within its
  published schema, and those for a firmware update, or without a node, never do.
-/

namespace SensorNet.Backend

open SensorNet.Js

/-! ## The methods that create a job of one type -/

/-- `createPushNodeConfigJob` -/
def createPushNodeConfigJob (a : Answers) (hubId nodeId : Field String) (configuration : Json)
    (createdBy : Field String) (s : Store) : Except Failure JobEntity × Store :=
  createJob a {
    type := .value "push_node_config"
    hubId
    nodeId
    payload := .value (.object [("configuration", configuration)])
    createdBy
    timeoutSeconds := .value 300 } s

/-- `createPullNodeDiagnosticsJob` -/
def createPullNodeDiagnosticsJob (a : Answers) (hubId nodeId createdBy : Field String)
    (s : Store) : Except Failure JobEntity × Store :=
  createJob a {
    type := .value "pull_node_diagnostics"
    hubId
    nodeId
    payload := .value (.object [])
    createdBy
    timeoutSeconds := .value 180 } s

/-- `createFirmwareUpdateJob` -/
def createFirmwareUpdateJob (a : Answers) (hubId : Field String) (firmwareUpdate : Field Json)
    (createdBy : Field String) (s : Store) : Except Failure JobEntity × Store :=
  createJob a {
    type := .value "update_hub_firmware"
    hubId
    payload := firmwareUpdate
    createdBy
    timeoutSeconds := .value 600 } s

/-! ## Calls and runs -/

/-- A call of a method of the service that writes -/
inductive ServiceCall where
  | createJob (jobData : JobEntity)
  | createPushNodeConfigJob (hubId nodeId : Field String) (configuration : Json)
    (createdBy : Field String)
  | createPullNodeDiagnosticsJob (hubId nodeId createdBy : Field String)
  | createFirmwareUpdateJob (hubId : Field String) (firmwareUpdate : Field Json)
    (createdBy : Field String)
  | setStatus (call : StatusCall)
  | cleanupOldJobs (cutoffDate : Nat → Date) (daysOld : Nat)

namespace ServiceCall

/-- What the call leaves, and what it returns if it creates a job -/
def exec (a : Answers) (s : Store) : ServiceCall → Option (Except Failure JobEntity) × Store
  | createJob jobData =>
    let r := Backend.createJob a jobData s
    (some r.1, r.2)
  | createPushNodeConfigJob hubId nodeId configuration createdBy =>
    let r := Backend.createPushNodeConfigJob a hubId nodeId configuration createdBy s
    (some r.1, r.2)
  | createPullNodeDiagnosticsJob hubId nodeId createdBy =>
    let r := Backend.createPullNodeDiagnosticsJob a hubId nodeId createdBy s
    (some r.1, r.2)
  | createFirmwareUpdateJob hubId firmwareUpdate createdBy =>
    let r := Backend.createFirmwareUpdateJob a hubId firmwareUpdate createdBy s
    (some r.1, r.2)
  | setStatus call => (none, call.exec a s)
  | cleanupOldJobs cutoffDate daysOld => (none, (Backend.cleanupOldJobs cutoffDate s daysOld).2)

/-- What the call hands to `createJob` -/
def jobData : ServiceCall → Option JobEntity
  | createJob jobData => some jobData
  | createPushNodeConfigJob hubId nodeId configuration createdBy => some {
      type := .value "push_node_config"
      hubId
      nodeId
      payload := .value (.object [("configuration", configuration)])
      createdBy
      timeoutSeconds := .value 300 }
  | createPullNodeDiagnosticsJob hubId nodeId createdBy => some {
      type := .value "pull_node_diagnostics"
      hubId
      nodeId
      payload := .value (.object [])
      createdBy
      timeoutSeconds := .value 180 }
  | createFirmwareUpdateJob hubId firmwareUpdate createdBy => some {
      type := .value "update_hub_firmware"
      hubId
      payload := firmwareUpdate
      createdBy
      timeoutSeconds := .value 600 }
  | setStatus _ | cleanupOldJobs _ _ => none

end ServiceCall

/-- One call, with what it gets from outside -/
def serveStep (s : Store) (e : Answers × ServiceCall) : Store := (e.2.exec e.1 s).2

/-- The calls one after another -/
def serve (s : Store) (calls : List (Answers × ServiceCall)) : Store := calls.foldl serveStep s

variable {a : Answers} {s : Store} {call : ServiceCall} {jobData : JobEntity} {hub : String}

/-- A call creates a job by `createJob`, sets a status, or deletes jobs. -/
theorem exec_of_jobData (h : call.jobData = some jobData) :
    call.exec a s = (some (createJob a jobData s).1, (createJob a jobData s).2) := by
  cases call <;> cases h <;> rfl

/-! ## The jobs in the twins -/

/-- Does the creator of a job know it to be queued on the hub? Then this is the message that
the hub gets. -/
def delivered (hub : String) : Except Failure JobEntity → Option Json
  | .ok job =>
    if job.hubId.ifTruthy truthyString = some hub ∧ job.status = .value "queued" then
      some (jobPayload job)
    else none
  | .error _ => none

/-- The messages that a call has for the hub -/
def ServiceCall.sends (a : Answers) (s : Store) (hub : String) (call : ServiceCall) : List Json :=
  ((call.exec a s).1.bind (delivered hub)).toList

/-- The messages that a run has for the hub, in the order of the calls -/
def deliveries (hub : String) (s : Store) : List (Answers × ServiceCall) → List Json
  | [] => []
  | e :: calls => e.2.sends e.1 s hub ++ deliveries hub (serveStep s e) calls

/-- The desired properties with messages appended to the jobs -/
def appendJobs (desired : Desired) (messages : List Json) : Desired :=
  match messages, jobsOf desired with
  | _ :: _, some jobs => Function.update desired "jobs" (.arr (jobs ++ messages))
  | _, _ => desired

theorem jobsOf_update (desired : Desired) (jobs : List Json) :
    jobsOf (Function.update desired "jobs" (.arr jobs)) = some jobs := by
  rw [jobsOf, currentJobs, Function.update_self]
  rfl

theorem appendJobs_nil (desired : Desired) : appendJobs desired [] = desired := rfl

theorem appendJobs_append (desired : Desired) (first second : List Json) :
    appendJobs (appendJobs desired first) second = appendJobs desired (first ++ second) := by
  cases first with
  | nil => rfl
  | cons message first =>
    cases hjobs : jobsOf desired with
    | none =>
      cases second with
      | nil => simp [appendJobs, hjobs]
      | cons other second => simp [appendJobs, hjobs]
    | some jobs =>
      cases second with
      | nil => simp [appendJobs, hjobs]
      | cons other second =>
        simp only [appendJobs, hjobs, jobsOf_update, List.cons_append, Function.update_idem,
          List.append_assoc]

/-- What `createJob` leaves in the twin of a hub: its message, if the job is returned as queued
on this hub. -/
theorem createJob_twins (a : Answers) (jobData : JobEntity) (s : Store) (hub : String) :
    (createJob a jobData s).2.twins hub =
      appendJobs (s.twins hub) (delivered hub (createJob a jobData s).1).toList := by
  cases hsave : save a.saveFails a (newJob a.now jobData) s.jobs with
  | error e =>
    rw [createJob_refused hsave]
    rfl
  | ok stored =>
    obtain ⟨savedJob, jobs⟩ := stored
    cases hhub : savedJob.hubId.ifTruthy truthyString with
    | none =>
      rw [createJob_local hsave hhub]
      simp [delivered, hhub, appendJobs_nil]
    | some hubId =>
      cases herror : deliveryError a (s.twins hubId) with
      | none =>
        -- the message is appended for this hub, and the caller is told so
        obtain ⟨listed, hlisted, hsend⟩ := sendJobToHub_of_ok savedJob s.twins herror
        obtain ⟨row, -, rfl, -⟩ := save_ok hsave
        rw [createJob_sent hsave hhub hsend]
        have hqueued : ((newJob a.now jobData).saved row).status = .value "queued" := rfl
        by_cases hself : hub = hubId
        · subst hself
          simp only [delivered, hhub, hqueued, and_self, if_true, Option.toList_some, appendJobs,
            hlisted, Function.update_self]
        · have hother : ¬ hubId = hub := fun heq => hself heq.symm
          simp only [delivered, hhub, Option.some.injEq, hother, false_and, if_false,
            Option.toList_none, appendJobs_nil, Function.update_of_ne hself]
      | some message =>
        -- the job has failed, or the call throws
        have hsend := sendJobToHub_of_error savedJob s.twins herror
        have htwins : (createJob a jobData s).2.twins = s.twins := by
          simp only [createJob, hsave, hhub, hsend]
          split <;> rfl
        have hnone : delivered hub (createJob a jobData s).1 = none := by
          cases hresult : (createJob a jobData s).1 with
          | error e => rfl
          | ok job =>
            have hfailed := createJob_unsent hsave hhub hsend hresult
            simp [delivered, hfailed]
        rw [htwins, hnone]
        rfl

/-- What a call leaves in the twin of a hub -/
theorem serveStep_twins (s : Store) (e : Answers × ServiceCall) (hub : String) :
    (serveStep s e).twins hub = appendJobs (s.twins hub) (e.2.sends e.1 s hub) := by
  obtain ⟨a, call⟩ := e
  cases hdata : call.jobData with
  | some jobData =>
    rw [serveStep, ServiceCall.sends, exec_of_jobData hdata]
    exact createJob_twins a jobData s hub
  | none =>
    cases call with
    | setStatus call =>
      show (call.exec a s).twins hub = s.twins hub
      rw [StatusCall.exec_eq, updateJobStatus_store]
      cases statusUpdate a call.args s <;> rfl
    | cleanupOldJobs cutoffDate daysOld => rfl
    | createJob | createPushNodeConfigJob | createPullNodeDiagnosticsJob
    | createFirmwareUpdateJob => cases hdata

/-- **The twins are a log of the deliveries**: after every run, the twin of each hub is as it
was but for the messages of the jobs that their creators know to be queued on it, in the order
of the calls. -/
theorem twins_log (s : Store) (calls : List (Answers × ServiceCall)) (hub : String) :
    (serve s calls).twins hub = appendJobs (s.twins hub) (deliveries hub s calls) := by
  induction calls generalizing s with
  | nil => rfl
  | cons e calls ih =>
    rw [deliveries, ← appendJobs_append, ← serveStep_twins]
    exact ih (serveStep s e)

/-! ## The jobs in the table -/

/-- What is said of a job when it is created, with the time -/
structure JobIdentity where
  id : String
  type : JobType
  hubId : Option String
  nodeId : Option String
  payload : Option Json
  timeoutSeconds : Option Int
  createdBy : Option String
  createdAt : Date

/-- What was said of the job -/
def Job.identity (job : Job) : JobIdentity :=
  ⟨job.id, job.type, job.hubId, job.nodeId, job.payload, job.timeoutSeconds, job.createdBy,
    job.createdAt⟩

/-- A call that creates a job does not give it an id. -/
def ServiceCall.Fresh (call : ServiceCall) : Prop :=
  ∀ jobData, call.jobData = some jobData → jobData.id = .undefined ∨ jobData.id = .null

/-- The job is stored. -/
def Store.Has (s : Store) (given : JobIdentity) : Prop :=
  ∃ job ∈ s.jobs.rows, job.identity = given

/-- The job is deleted by the call, which is a cleanup, when it is finished. -/
structure CleanedUp (given : JobIdentity) (s : Store) (e : Answers × ServiceCall) : Prop where
  isCleanup : ∃ cutoffDate daysOld, e.2 = .cleanupOldJobs cutoffDate daysOld
  finished : ∃ job ∈ s.jobs.rows, job.identity = given ∧ job.status.finished = true
  gone : (serveStep s e).jobs.find given.id = none

/-- `createJob` of a job without an id leaves the jobs that were there. -/
theorem createJob_keeps (hnew : jobData.id = .undefined ∨ jobData.id = .null) {job : Job}
    (hjob : job ∈ s.jobs.rows) : job ∈ (createJob a jobData s).2.jobs.rows := by
  cases hsave : save a.saveFails a (newJob a.now jobData) s.jobs with
  | error e =>
    rw [createJob_refused hsave]
    exact hjob
  | ok stored =>
    obtain ⟨savedJob, jobs⟩ := stored
    obtain ⟨row, hfree, hrow, rfl, rfl⟩ := save_new hnew hsave
    have hne : job.id ≠ row.id := fun heq =>
      Table.find_eq_none_iff.mp hfree job hjob heq
    have hput : job ∈ (s.jobs.put row).rows := Table.mem_put.mpr (.inr ⟨hjob, hne⟩)
    rcases (createJob_store (by rw [hfree]; exact hrow) hsave).2 with
      ⟨-, hjobs⟩ | ⟨-, message, hjobs⟩
    · rw [hjobs]
      exact hput
    · rw [hjobs]
      exact Table.mem_put.mpr (.inr ⟨hput, hne⟩)

/-- A job that is stored is so after a call, or is cleaned up by it. -/
theorem serveStep_keeps {given : JobIdentity} {e : Answers × ServiceCall} (hfresh : e.2.Fresh)
    (h : s.Has given) : (serveStep s e).Has given ∨ CleanedUp given s e := by
  obtain ⟨job, hjob, rfl⟩ := h
  obtain ⟨a, call⟩ := e
  cases hdata : call.jobData with
  | some jobData =>
    rw [serveStep, exec_of_jobData hdata]
    exact .inl ⟨job, createJob_keeps (hfresh jobData hdata) hjob, rfl⟩
  | none =>
    cases call with
    | setStatus call =>
      show Store.Has (call.exec a s) job.identity ∨ _
      rw [StatusCall.exec_eq, updateJobStatus_store]
      cases hupdate : statusUpdate a call.args s with
      | none => exact .inl ⟨job, hjob, rfl⟩
      | some found =>
        obtain ⟨found, status⟩ := found
        have hfound := (findOne_ok (statusUpdate_eq_some hupdate).1).2
        refine .inl ?_
        by_cases hsame : job.id = found.id
        · -- it is the job whose status is set
          obtain ⟨hmem, -⟩ := Table.find_eq_some_iff.mp hfound
          have heq : found = job := s.jobs.eq_of_key_eq hmem hjob hsame.symm
          subst heq
          exact ⟨_, Table.mem_put.mpr (.inl rfl), rfl⟩
        · exact ⟨job, Table.mem_put.mpr (.inr ⟨hjob, hsame⟩), rfl⟩
    | cleanupOldJobs cutoffDate daysOld =>
      cases hold : deletedBefore (cutoffDate daysOld) job with
      | false =>
        refine .inl ⟨job, Table.mem_filter.mpr ⟨hjob, ?_⟩, rfl⟩
        rw [hold]
        rfl
      | true =>
        refine .inr ⟨⟨cutoffDate, daysOld, rfl⟩,
          ⟨job, hjob, rfl, (deletedBefore_eq_true_iff.mp hold).1⟩, ?_⟩
        -- no other row has its id
        refine (Table.find_filter s.jobs _ job.id).trans ?_
        rw [Table.find_eq_some_iff.mpr ⟨hjob, rfl⟩, Option.filter_some, hold]
        rfl
    | createJob | createPushNodeConfigJob | createPullNodeDiagnosticsJob
    | createFirmwareUpdateJob => cases hdata

/-- **No job is lost or mixed up**: in every run of calls that create jobs without giving them
an id, a job that is stored is stored ever after with all that was said of it when it was
created, unless a cleanup deletes it when it is finished. -/
theorem jobs_kept (s : Store) {calls : List (Answers × ServiceCall)}
    (hfresh : ∀ e ∈ calls, e.2.Fresh) (given : JobIdentity) (h : s.Has given) :
    (serve s calls).Has given ∨
      ∃ before e after, calls = before ++ e :: after ∧ CleanedUp given (serve s before) e := by
  induction calls generalizing s with
  | nil => exact .inl h
  | cons e calls ih =>
    rcases serveStep_keeps (hfresh e List.mem_cons_self) h with hkept | hgone
    · rcases ih (serveStep s e) (fun e' he' => hfresh e' (List.mem_cons_of_mem e he')) hkept with
        hafter | ⟨before, e', after, rfl, hgone⟩
      · exact .inl hafter
      · exact .inr ⟨e :: before, e', after, rfl, hgone⟩
    · exact .inr ⟨[], e, calls, rfl, hgone⟩

/-- A job fails, and is cleaned up. -/
def cancelledAndCleaned : List (Answers × ServiceCall) := [
  (goodAnswers, .setStatus (.updateJobStatus { id := .value "2", status := .value "failed" })),
  (goodAnswers, .cleanupOldJobs (fun _ => 100) 1)]

/-- What becomes of the job -/
theorem configJob_kept :
    ∃ given, (createJob goodAnswers configJob noJobs).2.Has given ∧
      ((serve (createJob goodAnswers configJob noJobs).2 cancelledAndCleaned).Has given ∨
        ∃ before e after, cancelledAndCleaned = before ++ e :: after ∧
          CleanedUp given (serve (createJob goodAnswers configJob noJobs).2 before) e) := by
  obtain ⟨job, hjob⟩ : ∃ job, (createJob goodAnswers configJob noJobs).2.jobs.rows = [job] :=
    ⟨_, rfl⟩
  have hhas : (createJob goodAnswers configJob noJobs).2.Has job.identity :=
    ⟨job, by rw [hjob]; exact List.mem_singleton_self job, rfl⟩
  refine ⟨_, hhas, jobs_kept _ ?_ _ hhas⟩
  intro e he jobData hdata
  simp only [cancelledAndCleaned, List.mem_cons, List.not_mem_nil, or_false] at he
  rcases he with rfl | rfl <;> cases hdata

/-! ## The jobs of one type and the schema of the twin -/

/-- The call is not one of `createJob` with any data. -/
def ServiceCall.isForm : ServiceCall → Bool
  | createJob _ => false
  | _ => true

/-- The call creates a job for a node. -/
def ServiceCall.NamesNode (call : ServiceCall) : Prop :=
  ∃ jobData node, call.jobData = some jobData ∧ jobData.nodeId = .value node

variable {d : Dialect} {message : Json}

/-- The message of a job that is delivered is that of the row that is stored. -/
theorem delivered_eq_some (hnew : jobData.id = .undefined ∨ jobData.id = .null)
    (h : delivered hub (createJob a jobData s).1 = some message) :
    ∃ row, (newJob a.now jobData).row a.now row.id none = some row ∧
      message = jobPayload row.entity := by
  cases hsave : save a.saveFails a (newJob a.now jobData) s.jobs with
  | error e =>
    rw [createJob_refused hsave] at h
    cases h
  | ok stored =>
    obtain ⟨savedJob, jobs⟩ := stored
    obtain ⟨row, -, hrow, rfl, rfl⟩ := save_new hnew hsave
    refine ⟨row, hrow, ?_⟩
    rw [← saved_eq_entity hrow]
    cases hhub : ((newJob a.now jobData).saved row).hubId.ifTruthy truthyString with
    | none =>
      -- a job without a hub is not delivered
      rw [createJob_local hsave hhub] at h
      simp [delivered, hhub] at h
    | some hubId =>
      cases hsend : sendJobToHub a hubId ((newJob a.now jobData).saved row) s.twins with
      | ok twins =>
        rw [createJob_sent hsave hhub hsend] at h
        simp only [delivered, Option.ite_none_right_eq_some, Option.some.injEq] at h
        exact h.2.symm
      | error text =>
        cases hresult : (createJob a jobData s).1 with
        | error e =>
          rw [hresult] at h
          cases h
        | ok job =>
          -- the status of the job says that it was not sent
          have hfailed := createJob_unsent hsave hhub hsend hresult
          rw [hresult] at h
          simp [delivered, hfailed] at h

/-- The row of a job of one type fits into the schema iff it has a node. -/
theorem form_fits_iff (hform : call.isForm = true) (hdata : call.jobData = some jobData)
    (hdate : d.hasFormat "date-time" (Date.toISOString a.now) = true) {row : Job}
    (hrow : (newJob a.now jobData).row a.now row.id none = some row) :
    JobFits d row ↔ call.NamesNode := by
  have hstored := JobEntity.row_spec hrow
  have hnode : row.nodeId.isSome ↔ call.NamesNode := by
    rw [hstored.nodeId]
    constructor
    · intro hsome
      obtain ⟨node, hwrite⟩ := Option.isSome_iff_exists.mp hsome
      rcases write_eq_some_iff.mp hwrite with hvalue | ⟨-, hnone⟩
      · exact ⟨jobData, node, hdata, hvalue⟩
      · cases hnone
    · rintro ⟨other, node, hother, hvalue⟩
      rw [hdata] at hother
      cases hother
      show (jobData.nodeId.write none).isSome = true
      rw [hvalue]
      rfl
  have hcreated : row.createdAt = a.now := (Option.some.inj hstored.createdAt).symm
  refine ⟨fun hfits => hnode.mp hfits.nodeId, fun hnames => ⟨hnode.mpr hnames, ?_, ?_, ?_⟩⟩
  · rw [hstored.payload]
    cases call with
    | createPushNodeConfigJob => cases hdata; exact ⟨_, rfl, .inr ⟨_, rfl⟩⟩
    | createPullNodeDiagnosticsJob => cases hdata; exact ⟨_, rfl, .inr ⟨_, rfl⟩⟩
    | createFirmwareUpdateJob =>
      -- a firmware update has no node
      obtain ⟨other, node, hother, hvalue⟩ := hnames
      cases hother
      cases hvalue
    | createJob => cases hform
    | setStatus | cleanupOldJobs => cases hdata
  · rw [hstored.timeoutSeconds]
    cases call with
    | createPushNodeConfigJob | createPullNodeDiagnosticsJob | createFirmwareUpdateJob =>
      cases hdata
      intro n hn
      cases hn
      exact .inr (by decide)
    | createJob => cases hform
    | setStatus | cleanupOldJobs => cases hdata
  · rw [hcreated]
    exact hdate

/-- The jobs of one type are created without an id. -/
theorem fresh_of_isForm (hform : call.isForm = true) : call.Fresh := by
  intro jobData hdata
  cases call with
  | createPushNodeConfigJob | createPullNodeDiagnosticsJob | createFirmwareUpdateJob =>
    cases hdata
    exact .inl rfl
  | createJob => cases hform
  | setStatus | cleanupOldJobs => cases hdata

/-- A message that a call for a job of one type has is valid iff it is for a node. -/
theorem form_accepts_iff (hform : call.isForm = true)
    (hdate : d.hasFormat "date-time" (Date.toISOString a.now) = true)
    (hmessage : message ∈ call.sends a s hub) :
    jobSchema.Accepts d message ↔ call.NamesNode := by
  rw [ServiceCall.sends, Option.mem_toList] at hmessage
  cases hdata : call.jobData with
  | none =>
    cases call with
    | setStatus | cleanupOldJobs => cases hmessage
    | createJob | createPushNodeConfigJob | createPullNodeDiagnosticsJob
    | createFirmwareUpdateJob => cases hdata
  | some jobData =>
    rw [exec_of_jobData hdata] at hmessage
    obtain ⟨row, hrow, rfl⟩ :=
      delivered_eq_some (fresh_of_isForm hform jobData hdata) hmessage
    rw [accepts_jobPayload]
    exact form_fits_iff hform hdata hdate hrow

/-- A valid twin is valid with messages appended iff they are. -/
theorem valid_appendJobs_iff {desired : Desired} (h : Valid d desired) (messages : List Json) :
    Valid d (appendJobs desired messages) ↔
      ∀ message ∈ messages, jobSchema.Accepts d message := by
  obtain ⟨jobs, hlists, hall⟩ := h.lists
  cases messages with
  | nil => exact iff_of_true h nofun
  | cons first rest =>
    simp only [appendJobs, hlists.jobsOf_eq]
    refine (Schema.accepts_obj_congr h fun other hne => Function.update_of_ne hne _ _).trans ?_
    rw [Function.update_self]
    constructor
    · intro hjobs message hmessage
      exact Schema.accepts_arr.mp (hjobs nofun) message (List.mem_append_right _ hmessage)
    · intro hmessages _
      refine Schema.accepts_arr.mpr fun elem helem => ?_
      rcases List.mem_append.mp helem with hold | hnew
      · exact hall elem hold
      · exact hmessages elem hnew

/-- The messages of a run are those of its calls. -/
theorem mem_deliveries {calls : List (Answers × ServiceCall)} :
    message ∈ deliveries hub s calls ↔
      ∃ before e after, calls = before ++ e :: after ∧
        message ∈ e.2.sends e.1 (serve s before) hub := by
  induction calls generalizing s with
  | nil => simp [deliveries]
  | cons e calls ih =>
    rw [deliveries, List.mem_append, ih]
    constructor
    · rintro (hfirst | ⟨before, e', after, rfl, hlater⟩)
      · exact ⟨[], e, calls, rfl, hfirst⟩
      · exact ⟨e :: before, e', after, rfl, hlater⟩
    · rintro ⟨before, e', after, heq, hmessage⟩
      cases before with
      | nil =>
        cases heq
        exact .inl hmessage
      | cons e before =>
        cases heq
        exact .inr ⟨before, e', after, rfl, hmessage⟩

/-- **What the jobs of one type do to the schema**: in a run of calls none of which is
`createJob` with any data, a valid twin stays valid iff every job that is delivered to its hub
is for a node. -/
theorem forms_valid_iff {calls : List (Answers × ServiceCall)} (hvalid : Valid d (s.twins hub))
    (hforms : ∀ e ∈ calls, e.2.isForm = true)
    (hdates : ∀ e ∈ calls, d.hasFormat "date-time" (Date.toISOString e.1.now) = true) :
    Valid d ((serve s calls).twins hub) ↔
      ∀ before e after, calls = before ++ e :: after →
        e.2.sends e.1 (serve s before) hub ≠ [] → e.2.NamesNode := by
  rw [twins_log, valid_appendJobs_iff hvalid]
  constructor
  · rintro hall before e after rfl hsends
    obtain ⟨message, hmessage⟩ := List.exists_mem_of_ne_nil _ hsends
    have hmem : e ∈ before ++ e :: after := List.mem_append_right _ List.mem_cons_self
    exact (form_accepts_iff (hforms e hmem) (hdates e hmem) hmessage).mp
      (hall message (mem_deliveries.mpr ⟨before, e, after, rfl, hmessage⟩))
  · intro hnames message hmessage
    obtain ⟨before, e, after, rfl, hsent⟩ := mem_deliveries.mp hmessage
    have hmem : e ∈ before ++ e :: after := List.mem_append_right _ List.mem_cons_self
    exact (form_accepts_iff (hforms e hmem) (hdates e hmem) hsent).mpr
      (hnames before e after rfl (List.ne_nil_of_mem hsent))

/-- A configuration is pushed to a node, and then the firmware of the hub updated. -/
def pushAndUpdate : List (Answers × ServiceCall) := [
  (goodAnswers, .createPushNodeConfigJob (.value "hub-001") (.value "AA:BB:CC:DD:EE:FF")
    (.num 60) (.value "user-123")),
  (goodAnswers, .createFirmwareUpdateJob (.value "hub-001") (.value (.object []))
    (.value "user-123"))]

theorem pushAndUpdate_valid_iff :
    Valid lenient ((serve noJobs pushAndUpdate).twins "hub-001") ↔
      ∀ before e after, pushAndUpdate = before ++ e :: after →
        e.2.sends e.1 (serve noJobs before) "hub-001" ≠ [] → e.2.NamesNode := by
  refine forms_valid_iff (Schema.accepts_obj.mpr ⟨nofun, fun _ h => absurd rfl h⟩) ?_
    fun _ _ => rfl
  intro e he
  simp only [pushAndUpdate, List.mem_cons, List.not_mem_nil, or_false] at he
  rcases he with rfl | rfl <;> rfl

end SensorNet.Backend
