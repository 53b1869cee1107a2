import SensorNet.Backend.JobLifecycle
import SensorNet.Lib.Run

/-!
# The jobs in the table and the jobs in the twins

The jobs in a hub's twin are the queue from which the hub executes. `Agrees` says
that the queue of each hub lists exactly the stored jobs of the hub that are queued or
running. `createJob` adds to the queue, and nothing ever takes a job out of it.

`agrees_iff`: in a run in which all calls to the database and the IoT Hub succeed,
table and twins agree after every call iff every call meets `KeepsQueue`: it does not
finish a job of a hub, and does not create a job anew for another hub.
-/

namespace SensorNet.Backend

open SensorNet.Js

/-! ## Runs -/

/-- A call of one of the four methods. -/
inductive JobCall where
  | createJob (jobData : JobEntity)
  | setStatus (call : StatusCall)

namespace JobCall

/-- What the call leaves. -/
def exec (a : Answers) (s : Store) : JobCall → Store
  | createJob jobData => (Backend.createJob a jobData s).2
  | setStatus call => call.exec a s

/-- All calls to the database and the IoT Hub succeed: a job is created and stays
queued, or setting its status does not end with an error of the database. -/
def succeeds (a : Answers) (s : Store) : JobCall → Bool
  | createJob jobData =>
    match (Backend.createJob a jobData s).1 with
    | .ok job => job.status = .value "queued"
    | .error _ => false
  | setStatus call =>
    match (Backend.updateJobStatus a call.args s).1 with
    | .error .database => false
    | _ => true

end JobCall

/-- A call in which all calls to the database and the IoT Hub succeed. -/
def jobStep (s : Store) (e : Answers × JobCall) : Option Store :=
  if e.2.succeeds e.1 s then some (e.2.exec e.1 s) else none

/-- No jobs, and empty twins. -/
def noJobs : Store where
  jobs := Table.empty
  twins := fun _ _ => .undefined

namespace Store

variable {s t : Store}

/-- The ids of the jobs in the hub's twin. -/
def offered (s : Store) (hub : String) : List Json :=
  ((jobsOf (s.twins hub)).getD []).map (Json.prop "jobId")

/-- The jobs in the twin of each hub are the stored jobs of the hub that are queued or
running. (An empty `hubId` is no hub.) -/
def Agrees (s : Store) : Prop :=
  ∀ hub, hub ≠ "" → ∀ id, id ∈ s.offered hub ↔
    ∃ job ∈ s.jobs.rows, id = .str job.id ∧ job.hubId = some hub ∧
      (job.status = .queued ∨ job.status = .running)

/-- The invariant of the twins:
1. the jobs of each twin can be listed;
2. each stored job of a hub is in the hub's twin. -/
structure TwinInv (s : Store) : Prop where
  lists : ∀ hub, ∃ jobs, jobsOf (s.twins hub) = some jobs
  offers : ∀ hub, hub ≠ "" → ∀ job ∈ s.jobs.rows, job.hubId = some hub →
    Json.str job.id ∈ s.offered hub

end Store

/-! ## What a successful call leaves -/

variable {a : Answers} {s t : Store}

theorem ifTruthy_eq_some_iff {f : Field String} {hub : String} :
    f.ifTruthy truthyString = some hub ↔ f = .value hub ∧ hub ≠ "" := by
  cases f with
  | undefined => simp [Field.ifTruthy]
  | null => simp [Field.ifTruthy]
  | value h =>
    by_cases hempty : h = ""
    · subst hempty
      simp [Field.ifTruthy, truthyString, eq_comm]
    · simp only [Field.ifTruthy, truthyString, bne_iff_ne, ne_eq, hempty, not_false_eq_true,
        if_true, Option.some.injEq, Field.value.injEq]
      constructor
      · rintro rfl
        exact ⟨rfl, hempty⟩
      · rintro ⟨rfl, -⟩
        rfl

@[simp] theorem ifTruthy_orNull (f : Field String) (truthy : String → Bool) :
    f.orNull.ifTruthy truthy = f.ifTruthy truthy := by
  cases f <;> rfl

/-- The message to the hub has the job's id. -/
theorem jobPayload_jobId (job : JobEntity) :
    (jobPayload job).prop "jobId" = job.id.json .str := by
  simp [jobPayload, Json.object, Json.prop]

/-- A job added to a twin that can be listed comes last, and other twins stay. -/
theorem sendToTwin_ok {hub : String} {job : Json} {twins twins' : String → Desired}
    {jobs : List Json} (hjobs : jobsOf (twins hub) = some jobs)
    (h : sendToTwin a hub job twins = .ok twins') :
    jobsOf (twins' hub) = some (jobs ++ [job]) ∧
      ∀ other, other ≠ hub → twins' other = twins other := by
  have happly : twins' =
      Function.update twins hub ((TwinCall.addJob job).apply (twins hub) (twins hub)) := by
    rw [TwinCall.apply, show (TwinCall.addJob job).sends (twins hub) =
      addJobToTwin job (twins hub) from rfl]
    unfold sendToTwin at h
    split at h
    · cases h
    · split at h
      · cases h
      · next sent hsent =>
        split at h
        · cases h
        · rw [hsent]
          exact (Except.ok.inj h).symm
  rw [happly]
  refine ⟨?_, fun other hne => Function.update_of_ne hne _ _⟩
  rw [Function.update_self]
  exact jobsOf_apply hjobs

/-- Jobs appended to a twin are offered after those that were there. -/
theorem Store.offered_append {hub : String} {jobs added : List Json}
    (hs : jobsOf (s.twins hub) = some jobs) (ht : jobsOf (t.twins hub) = some (jobs ++ added)) :
    t.offered hub = s.offered hub ++ added.map (Json.prop "jobId") := by
  rw [Store.offered, Store.offered, hs, ht, Option.getD_some, Option.getD_some,
    List.map_append]

/-- The facts about a successful `createJob`: the row that is stored, and what is
offered to which hub. -/
theorem createJob_succeeds {jobData : JobEntity} (hinv : s.TwinInv)
    (h : (JobCall.createJob jobData).succeeds a s = true)
    (ht : (JobCall.createJob jobData).exec a s = t) :
    ∃ row : Job, t.jobs = s.jobs.put row ∧ row.status = .queued ∧
      row.hubId = jobData.hubId.write ((s.jobs.find row.id).bind Job.hubId) ∧
      (∀ job, s.jobs.find row.id = some job ↔
        job ∈ s.jobs.rows ∧ jobData.id = .value job.id) ∧
      (∀ hub, ∃ jobs, jobsOf (t.twins hub) = some jobs) ∧
      ∀ hub, t.offered hub = s.offered hub ++
        if jobData.hubId.ifTruthy truthyString = some hub then [.str row.id] else [] := by
  cases hsave : save a.saveFails a (newJob a.now jobData) s.jobs with
  | error e => simp [JobCall.succeeds, createJob_refused hsave] at h
  | ok stored =>
    obtain ⟨saved, jobs'⟩ := stored
    obtain ⟨row, hrow, rfl, rfl, hfind⟩ := save_ok hsave
    have hhubId := (JobEntity.row_spec hrow).hubId
    have hqueued := newJob_queued hrow
    have hsaved : ((newJob a.now jobData).saved row).hubId.ifTruthy truthyString =
        jobData.hubId.ifTruthy truthyString := ifTruthy_orNull _ _
    cases hhub : jobData.hubId.ifTruthy truthyString with
    | none =>
      rw [JobCall.exec, createJob_local hsave (hsaved.trans hhub)] at ht
      subst ht
      refine ⟨row, rfl, hqueued, hhubId, hfind, hinv.lists, fun hub => ?_⟩
      rw [if_neg nofun, List.append_nil]
      rfl
    | some hubId =>
      cases hsend : sendJobToHub a hubId ((newJob a.now jobData).saved row) s.twins with
      | error message =>
        -- the job has failed, so not all calls have succeeded
        rw [JobCall.succeeds] at h
        split at h
        · next job hjob =>
          have hfailed := createJob_unsent hsave (hsaved.trans hhub) hsend hjob
          simp [hfailed] at h
        · cases h
      | ok twins =>
        rw [JobCall.exec, createJob_sent hsave (hsaved.trans hhub) hsend] at ht
        subst ht
        obtain ⟨jobs, hjobs⟩ := hinv.lists hubId
        obtain ⟨hself, hother⟩ := sendToTwin_ok hjobs hsend
        refine ⟨row, rfl, hqueued, hhubId, hfind, fun hub => ?_, fun hub => ?_⟩
        · by_cases hne : hub = hubId
          · exact ⟨_, by rw [hne]; exact hself⟩
          · obtain ⟨jobs, hjobs⟩ := hinv.lists hub
            exact ⟨jobs, by rw [← hjobs, ← hother hub hne]⟩
        · by_cases hne : hub = hubId
          · subst hne
            rw [if_pos rfl, Store.offered_append hjobs hself, List.map_singleton,
              jobPayload_jobId]
            rfl
          · rw [if_neg fun heq => hne (Option.some.inj heq).symm, List.append_nil,
              Store.offered, Store.offered, ← hother hub hne]

/-! ## Agreement after one call -/

/-- Once a row is stored, and no other job is put in a queue or taken out, table and
twins agree iff they agree on that row. -/
theorem queue_put_iff {row : Job} (h : s.Agrees) (hjobs : t.jobs = s.jobs.put row)
    (hother : ∀ hub id, id ≠ Json.str row.id → (id ∈ t.offered hub ↔ id ∈ s.offered hub)) :
    t.Agrees ↔ ∀ hub, hub ≠ "" → (Json.str row.id ∈ t.offered hub ↔
      row.hubId = some hub ∧ (row.status = .queued ∨ row.status = .running)) := by
  constructor
  · intro hagrees hub hhub
    rw [hagrees hub hhub, hjobs]
    constructor
    · rintro ⟨job, hjob, hid, hmatch⟩
      rcases Table.mem_put.mp hjob with rfl | ⟨-, hne⟩
      · exact hmatch
      · exact absurd (Json.str.inj hid).symm hne
    · intro hmatch
      exact ⟨row, Table.mem_put.mpr (.inl rfl), rfl, hmatch⟩
  · intro hrow hub hhub id
    by_cases hid : id = .str row.id
    · -- the id of the row is the id of no other row
      rw [hid, hrow hub hhub, hjobs]
      constructor
      · intro hmatch
        exact ⟨row, Table.mem_put.mpr (.inl rfl), rfl, hmatch⟩
      · rintro ⟨job, hjob, heq, hmatch⟩
        rcases Table.mem_put.mp hjob with rfl | ⟨-, hne⟩
        · exact hmatch
        · exact absurd (Json.str.inj heq).symm hne
    · -- another id is offered as before, and its job is the one that was there
      rw [hother hub id hid, h hub hhub, hjobs]
      constructor
      · rintro ⟨job, hjob, rfl, hmatch⟩
        exact ⟨job, Table.mem_put.mpr (.inr ⟨hjob, fun hkey => hid (by rw [hkey])⟩), rfl, hmatch⟩
      · rintro ⟨job, hjob, rfl, hmatch⟩
        rcases Table.mem_put.mp hjob with rfl | ⟨hjob, -⟩
        · exact absurd rfl hid
        · exact ⟨job, hjob, rfl, hmatch⟩

/-- In a store where table and twins agree, a job of a hub is queued or running. -/
theorem Store.Agrees.unfinished (h : s.Agrees) (hinv : s.TwinInv) {job : Job} {hub : String}
    (hhub : hub ≠ "") (hjob : job ∈ s.jobs.rows) (hon : job.hubId = some hub) :
    job.status = .queued ∨ job.status = .running := by
  obtain ⟨other, hother, hid, -, hstatus⟩ :=
    (h hub hhub _).mp (hinv.offers hub hhub job hjob hon)
  rw [s.jobs.eq_of_key_eq hjob hother (Json.str.inj hid)]
  exact hstatus

/-- An id is in the queue of a hub iff it is the id of a stored job of the hub. -/
theorem Store.Agrees.mem_offered_iff (h : s.Agrees) (hinv : s.TwinInv) {id hub : String}
    (hhub : hub ≠ "") :
    Json.str id ∈ s.offered hub ↔ (s.jobs.find id).bind Job.hubId = some hub := by
  rw [h hub hhub, Option.bind_eq_some_iff]
  constructor
  · rintro ⟨job, hjob, hid, hon, -⟩
    exact ⟨job, Table.find_eq_some_iff.mpr ⟨hjob, (Json.str.inj hid).symm⟩, hon⟩
  · rintro ⟨job, hfind, hon⟩
    obtain ⟨hjob, rfl⟩ := Table.find_eq_some_iff.mp hfind
    exact ⟨job, hjob, rfl, hon, h.unfinished hinv hhub hjob hon⟩

/-- The condition under which a call keeps table and twins in agreement: it does not
finish a job of a hub, and does not create a job anew for another hub or for none. -/
def KeepsQueue (s : Store) (e : Answers × JobCall) : Prop :=
  match e.2 with
  | .createJob jobData => ∀ job ∈ s.jobs.rows, jobData.id = .value job.id →
      ∀ hub, hub ≠ "" → job.hubId = some hub →
        jobData.hubId = .undefined ∨ jobData.hubId = .value hub
  | .setStatus call => ∀ job, foundRow e.1.anyRow call.args.id s.jobs = some job →
      ∀ hub, hub ≠ "" → job.hubId = some hub →
        ∀ status : JobStatus, call.args.status = .value status.text → status.finished = false

/-- Where a job's row is written anew, it stays on its hub iff the hub is not given, or
is the same. -/
theorem write_hub_iff {f : Field String} {old : Option String} :
    (∀ hub, hub ≠ "" → ((old = some hub ∨ f = .value hub) ↔ f.write old = some hub)) ↔
      ∀ hub, hub ≠ "" → old = some hub → f = .undefined ∨ f = .value hub := by
  refine forall_congr' fun hub => imp_congr_right fun _ => ?_
  cases f with
  | undefined => simp [Field.write]
  | null => simp [Field.write]
  | value other =>
    simp only [Field.write, Field.value.injEq, Option.some.injEq, reduceCtorEq, false_or]
    exact or_iff_right_iff_imp

/-- `createJob` keeps table and twins in agreement iff the job is not created anew for
another hub. -/
theorem createJob_agrees_iff {jobData : JobEntity} (h : s.Agrees) (hinv : s.TwinInv)
    (hok : (JobCall.createJob jobData).succeeds a s = true)
    (ht : (JobCall.createJob jobData).exec a s = t) :
    t.Agrees ↔ KeepsQueue s (a, .createJob jobData) := by
  obtain ⟨row, hjobs, hqueued, hhubId, hfind, -, hoffered⟩ := createJob_succeeds hinv hok ht
  -- the id is on the twin of a hub if it was before, or if it is sent now
  have hnew : ∀ hub, hub ≠ "" → (Json.str row.id ∈ t.offered hub ↔
      (s.jobs.find row.id).bind Job.hubId = some hub ∨ jobData.hubId = .value hub) := by
    intro hub hhub
    rw [hoffered, List.mem_append, h.mem_offered_iff hinv hhub]
    refine or_congr_right ?_
    split
    · next hsent => simp [(ifTruthy_eq_some_iff.mp hsent).1]
    · next hsent =>
      refine iff_of_false List.not_mem_nil fun hvalue => hsent ?_
      exact ifTruthy_eq_some_iff.mpr ⟨hvalue, hhub⟩
  have hother : ∀ hub id, id ≠ Json.str row.id → (id ∈ t.offered hub ↔ id ∈ s.offered hub) := by
    intro hub id hne
    rw [hoffered, List.mem_append]
    split <;> simp [hne]
  rw [queue_put_iff h hjobs hother]
  calc (∀ hub, hub ≠ "" → (Json.str row.id ∈ t.offered hub ↔
        row.hubId = some hub ∧ (row.status = .queued ∨ row.status = .running)))
      ↔ ∀ hub, hub ≠ "" →
        (((s.jobs.find row.id).bind Job.hubId = some hub ∨ jobData.hubId = .value hub) ↔
          jobData.hubId.write ((s.jobs.find row.id).bind Job.hubId) = some hub) := by
        refine forall_congr' fun hub => imp_congr_right fun hhub => ?_
        rw [hnew hub hhub, hhubId, hqueued]
        simp
    _ ↔ ∀ hub, hub ≠ "" → (s.jobs.find row.id).bind Job.hubId = some hub →
        jobData.hubId = .undefined ∨ jobData.hubId = .value hub := write_hub_iff
    -- the job with the id of the new row is the one that the row replaces
    _ ↔ KeepsQueue s (a, .createJob jobData) := by
        constructor
        · intro hkeep job hjob hid hub hhub hon
          refine hkeep hub hhub ?_
          rw [(hfind job).mpr ⟨hjob, hid⟩]
          exact hon
        · intro hkeep hub hhub hbind
          obtain ⟨job, hjob, hon⟩ := Option.bind_eq_some_iff.mp hbind
          obtain ⟨hmem, hid⟩ := (hfind job).mp hjob
          exact hkeep job hmem hid hub hhub hon

/-- `createJob` keeps the invariant: the job is in the twin of its hub, now or since it
was created before. -/
theorem createJob_twinInv {jobData : JobEntity} (hinv : s.TwinInv)
    (hok : (JobCall.createJob jobData).succeeds a s = true)
    (ht : (JobCall.createJob jobData).exec a s = t) : t.TwinInv := by
  obtain ⟨row, hjobs, -, hhubId, -, hlists, hoffered⟩ := createJob_succeeds hinv hok ht
  refine ⟨hlists, fun hub hhub job hjob hon => ?_⟩
  rw [hoffered, List.mem_append]
  rw [hjobs] at hjob
  rcases Table.mem_put.mp hjob with rfl | ⟨hold, -⟩
  · -- the job's hub is the one given, or the one it was created for before
    rw [hon] at hhubId
    cases hgiven : jobData.hubId with
    | undefined =>
      rw [hgiven, Field.write, eq_comm, Option.bind_eq_some_iff] at hhubId
      obtain ⟨old, hfind, hold⟩ := hhubId
      obtain ⟨hmem, hkey⟩ := Table.find_eq_some_iff.mp hfind
      rw [← hkey]
      exact .inl (hinv.offers hub hhub old hmem hold)
    | null =>
      rw [hgiven] at hhubId
      cases hhubId
    | value other =>
      rw [hgiven] at hhubId
      cases hhubId
      rw [if_pos (ifTruthy_eq_some_iff.mpr ⟨rfl, hhub⟩)]
      exact .inr (List.mem_singleton_self _)
  · -- every other job is offered as before
    exact .inl (hinv.offers hub hhub job hold hon)

/-- The facts about setting a status when the database does not fail: the job is not
there, or its row is stored with the status. -/
theorem setStatus_succeeds {call : StatusCall}
    (h : (JobCall.setStatus call).succeeds a s = true)
    (ht : (JobCall.setStatus call).exec a s = t) :
    (foundRow a.anyRow call.args.id s.jobs = none ∧ t = s) ∨
    ∃ job row : Job, foundRow a.anyRow call.args.id s.jobs = some job ∧
      row.id = job.id ∧ row.hubId = job.hubId ∧
      call.args.status.writeRequired JobStatus.ofText? (some job.status) = some row.status ∧
      t = { s with jobs := s.jobs.put row } := by
  rw [JobCall.exec, StatusCall.exec_eq] at ht
  rcases updateJobStatus_cases a call.args s with
    ⟨hnone, heq⟩ | ⟨-, heq⟩ | ⟨job, row, saved, hjob, -, hid, hon, hstatus, heq⟩
  · rw [heq] at ht
    exact .inl ⟨(findOne_eq_ok_iff.mp hnone).2, ht.symm⟩
  · rw [JobCall.succeeds, heq] at h
    cases h
  · rw [heq] at ht
    exact .inr ⟨job, row, (findOne_eq_ok_iff.mp hjob).2, hid, hon, hstatus, ht.symm⟩

/-- A job that was not finished is not finished by the status written to it iff the
status given, if any, is not one of the finished ones. -/
theorem written_unfinished_iff {given : Field String} {old new : JobStatus}
    (hold : old.finished = false)
    (h : given.writeRequired JobStatus.ofText? (some old) = some new) :
    new.finished = false ↔
      ∀ status : JobStatus, given = .value status.text → status.finished = false := by
  cases given with
  | undefined =>
    -- the status stays
    have hkeep : old = new := Option.some.inj h
    rw [hkeep] at hold
    exact iff_of_true hold nofun
  | null => cases h
  | value text =>
    constructor
    · intro hfin status heq
      have hsame : JobStatus.ofText? status.text = some new := by
        rw [← Field.value.inj heq]
        exact h
      rw [JobStatus.ofText?_text] at hsame
      rw [Option.some.inj hsame]
      exact hfin
    · intro hall
      exact hall new (by rw [JobStatus.text_of_ofText? h])

/-- Setting a job's status keeps table and twins in agreement iff it does not finish a
job of a hub. -/
theorem setStatus_agrees_iff {call : StatusCall} (h : s.Agrees) (hinv : s.TwinInv)
    (hok : (JobCall.setStatus call).succeeds a s = true)
    (ht : (JobCall.setStatus call).exec a s = t) :
    t.Agrees ↔ KeepsQueue s (a, .setStatus call) := by
  rcases setStatus_succeeds hok ht with
    ⟨hnone, rfl⟩ | ⟨job, row, hjob, hid, hon, hstatus, rfl⟩
  · -- nothing is stored, and there is no job to finish
    refine iff_of_true h fun job hjob => ?_
    rw [hnone] at hjob
    cases hjob
  · have hmem := foundRow_mem hjob
    have hfind : s.jobs.find job.id = some job := Table.find_eq_some_iff.mpr ⟨hmem, rfl⟩
    -- of a job on a twin: it was unfinished, so it stays so unless a finished status is given
    have hwritten : ∀ hub, hub ≠ "" → job.hubId = some hub →
        ((row.status = .queued ∨ row.status = .running) ↔
          ∀ status : JobStatus, call.args.status = .value status.text →
            status.finished = false) := by
      intro hub hhub hjobHub
      rw [← JobStatus.finished_eq_false_iff]
      refine written_unfinished_iff ?_ hstatus
      exact JobStatus.finished_eq_false_iff.mpr (h.unfinished hinv hhub hmem hjobHub)
    have hsame : ∀ hub id, id ≠ Json.str row.id →
        (id ∈ Store.offered { s with jobs := s.jobs.put row } hub ↔ id ∈ s.offered hub) :=
      fun _ _ _ => Iff.rfl
    rw [queue_put_iff h rfl hsame]
    calc (∀ hub, hub ≠ "" → (Json.str row.id ∈ s.offered hub ↔
          row.hubId = some hub ∧ (row.status = .queued ∨ row.status = .running)))
        ↔ ∀ hub, hub ≠ "" → job.hubId = some hub →
          (row.status = .queued ∨ row.status = .running) := by
          refine forall_congr' fun hub => imp_congr_right fun hhub => ?_
          rw [h.mem_offered_iff hinv hhub, hid, hfind, hon]
          simp
      _ ↔ ∀ hub, hub ≠ "" → job.hubId = some hub →
          ∀ status : JobStatus, call.args.status = .value status.text →
            status.finished = false :=
          forall_congr' fun hub => forall_congr' fun hhub => forall_congr' (hwritten hub hhub)
      _ ↔ KeepsQueue s (a, .setStatus call) := by
          constructor
          · intro hkeep other hother
            rw [hjob] at hother
            cases hother
            exact hkeep
          · exact fun hkeep => hkeep job hjob

/-- Setting a job's status keeps the invariant: the job stays on its hub. -/
theorem setStatus_twinInv {call : StatusCall} (hinv : s.TwinInv)
    (hok : (JobCall.setStatus call).succeeds a s = true)
    (ht : (JobCall.setStatus call).exec a s = t) : t.TwinInv := by
  rcases setStatus_succeeds hok ht with
    ⟨-, rfl⟩ | ⟨job, row, hjob, hid, hon, -, rfl⟩
  · exact hinv
  · refine ⟨hinv.lists, fun hub hhub other hother hotherHub => ?_⟩
    rcases Table.mem_put.mp hother with rfl | ⟨hold, -⟩
    · rw [hid]
      exact hinv.offers hub hhub job (foundRow_mem hjob) (hon.symm.trans hotherHub)
    · exact hinv.offers hub hhub other hold hotherHub

/-! ## Agreement over runs -/

theorem jobStep_eq_some_iff {e : Answers × JobCall} :
    jobStep s e = some t ↔ e.2.succeeds e.1 s = true ∧ e.2.exec e.1 s = t := by
  rw [jobStep]
  split
  · next h => simp [h]
  · next h => simp [h]

theorem twinInv_noJobs : noJobs.TwinInv where
  lists _ := ⟨[], rfl⟩
  offers _ _ _ h _ := absurd h List.not_mem_nil

theorem agrees_noJobs : noJobs.Agrees := by
  intro hub _ id
  refine iff_of_false List.not_mem_nil ?_
  rintro ⟨job, hjob, -⟩
  exact absurd hjob List.not_mem_nil

theorem twinInv_step {e : Answers × JobCall} (hinv : s.TwinInv)
    (hstep : jobStep s e = some t) : t.TwinInv := by
  obtain ⟨hok, ht⟩ := jobStep_eq_some_iff.mp hstep
  obtain ⟨a, call⟩ := e
  cases call with
  | createJob jobData => exact createJob_twinInv hinv hok ht
  | setStatus call => exact setStatus_twinInv hinv hok ht

theorem agrees_step_iff {e : Answers × JobCall} (hinv : s.TwinInv) (h : s.Agrees)
    (hstep : jobStep s e = some t) : t.Agrees ↔ KeepsQueue s e := by
  obtain ⟨hok, ht⟩ := jobStep_eq_some_iff.mp hstep
  obtain ⟨a, call⟩ := e
  cases call with
  | createJob jobData => exact createJob_agrees_iff h hinv hok ht
  | setStatus call => exact setStatus_agrees_iff h hinv hok ht

/-- **Exact agreement of table and twins**: in a run of successful calls from no jobs
and empty twins, the queue of each hub lists exactly its queued and running jobs after
every call, iff no call finishes a job of a hub or creates a job anew for another hub. -/
theorem agrees_iff {calls : List (Answers × JobCall)} {s : Store}
    (hrun : run jobStep noJobs calls = some s) :
    (∀ k t, run jobStep noJobs (calls.take k) = some t → t.Agrees) ↔
      Along jobStep KeepsQueue noJobs calls :=
  prefixes_iff_along agrees_noJobs twinInv_noJobs (fun _ _ _ => twinInv_step)
    (fun _ _ _ => agrees_step_iff) hrun

/-- A configuration job is created for a hub. -/
def createOne : Answers × JobCall :=
  (goodAnswers,
    .createJob { type := .value "push_node_config", hubId := .value "hub-001" })

/-- The job is created, and the hub reports that it runs. -/
def createdAndStarted : List (Answers × JobCall) := [createOne,
  (goodAnswers, .setStatus (.processJobResult "hub-001"
    { jobId := .value "2", status := .value "running" }))]

/-- The job is created and cancelled. -/
def createdAndCancelled : List (Answers × JobCall) :=
  [createOne, (goodAnswers, .setStatus (.cancelJob "2"))]

/-- A job that runs is in the twin of its hub, as the theorem says. -/
theorem started_job_in_twin :
    ∃ s, run jobStep noJobs createdAndStarted = some s ∧
      ((∀ k t, run jobStep noJobs (createdAndStarted.take k) = some t → t.Agrees) ↔
        Along jobStep KeepsQueue noJobs createdAndStarted) := by
  obtain ⟨s, hrun⟩ : ∃ s, run jobStep noJobs createdAndStarted = some s := ⟨_, rfl⟩
  exact ⟨s, hrun, agrees_iff hrun⟩

/-- A cancelled job is still in the twin of its hub. -/
theorem cancelled_job_in_twin :
    ¬ ∀ (calls : List (Answers × JobCall)) (s : Store),
      run jobStep noJobs calls = some s → s.Agrees := by
  intro h
  obtain ⟨s, hrun⟩ : ∃ s, run jobStep noJobs createdAndCancelled = some s := ⟨_, rfl⟩
  have hagrees := h createdAndCancelled s hrun "hub-001" (by decide) (.str "2")
  have hoffered : s.offered "hub-001" = [.str "2"] := by
    cases hrun
    rfl
  rw [hoffered] at hagrees
  obtain ⟨job, hjob, -, -, hstatus⟩ := hagrees.mp (List.mem_singleton_self _)
  have hstatuses : s.jobs.rows.map Job.status = [.cancelled] := by
    cases hrun
    rfl
  have hcancelled : job.status = .cancelled := by
    have hmem := List.mem_map_of_mem (f := Job.status) hjob
    rw [hstatuses] at hmem
    exact List.mem_singleton.mp hmem
  rw [hcancelled] at hstatus
  rcases hstatus with hstatus | hstatus <;> cases hstatus

end SensorNet.Backend
