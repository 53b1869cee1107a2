import SensorNet.Backend.JobDelivery
import SensorNet.Lib.Repository

/-!
# Creating rows (`topology/entities`, `topology.service.ts`, `jobs.service.ts`)

The five `create` methods of the topology and `createJob` save what they are given. A body
may have an id: if it is the id of a row, then nothing is created, and the row is overwritten.
And `createJob` sets the status of the job that it creates, but keeps the times and the result
that it is given.

`addsOnly_iff`: a call leaves all rows that were there, and if it succeeds adds one row, a
job with nothing done yet, iff it meets `CreatesNew`.

Of TypeORM we assume that `save` updates the row with the entity's id if there is one and else
inserts a row, and that it does nothing else. What it makes of a nested object, like the
`organization` of a site, is a parameter (`Driver.join`); lists of related rows in a body are left
out.
-/

namespace SensorNet.Backend

open SensorNet.Js SensorNet.Orm

/-! ## The entities of the topology -/

/-- `@CreateDateColumn() createdAt` and `@UpdateDateColumn() updatedAt` -/
def dateColumns : List Column := [
  { name := "createdAt", type := .timestamptz, default := .created },
  { name := "updatedAt", type := .timestamptz, default := .updated }]

/-- `organization.entity.ts` -/
def organization : EntityType where
  table := "organizations"
  columns := [
    { name := "name", unique := true },
    { name := "description", type := .text, nullable := true },
    { name := "settings", type := .jsonb, nullable := true },
    { name := "active", type := .boolean, default := .value (.bool true) }] ++ dateColumns

/-- `site.entity.ts` -/
def site : EntityType where
  table := "sites"
  columns := [
    { name := "name" },
    { name := "description", type := .text, nullable := true },
    { name := "address", type := .text, nullable := true },
    { name := "latitude", type := .decimal 10 7, nullable := true },
    { name := "longitude", type := .decimal 10 7, nullable := true },
    { name := "metadata", type := .jsonb, nullable := true },
    { name := "organizationId", type := .uuid, relation := some "organization" }] ++ dateColumns

/-- `sensor-group.entity.ts` -/
def sensorGroup : EntityType where
  table := "sensor_groups"
  columns := [
    { name := "name" },
    { name := "description", type := .text, nullable := true },
    { name := "assetTag", nullable := true },
    { name := "metadata", type := .jsonb, nullable := true },
    { name := "siteId", type := .uuid, relation := some "site" }] ++ dateColumns

/-- `hub.entity.ts` -/
def hub : EntityType where
  table := "hubs"
  columns := [
    { name := "deviceId", unique := true },
    { name := "macAddress", nullable := true },
    { name := "serialNumber", nullable := true },
    { name := "firmwareVersion", nullable := true },
    { name := "hardwareRevision", nullable := true },
    { name := "status", type := .enum ["provisioning", "connected", "disconnected", "error"],
      default := .value (.str "provisioning") },
    { name := "lastSeen", type := .timestamptz, nullable := true },
    { name := "deviceTwinDesired", type := .jsonb, nullable := true },
    { name := "deviceTwinReported", type := .jsonb, nullable := true },
    { name := "metadata", type := .jsonb, nullable := true },
    { name := "siteId", type := .uuid, nullable := true, relation := some "site" }] ++
      dateColumns

/-- `node.entity.ts` -/
def node : EntityType where
  table := "nodes"
  columns := [
    { name := "nodeId", unique := true },
    { name := "serialNumber", nullable := true },
    { name := "firmwareVersion", nullable := true },
    { name := "hardwareRevision", nullable := true },
    { name := "status",
      type := .enum ["uncommissioned", "operational", "maintenance", "fault", "offline"],
      default := .value (.str "uncommissioned") },
    { name := "configuration", type := .jsonb, nullable := true },
    { name := "calibration", type := .jsonb, nullable := true },
    { name := "lastReading", type := .jsonb, nullable := true },
    { name := "batteryPercent", type := .int, nullable := true },
    { name := "batteryMillivolts", type := .int, nullable := true },
    { name := "faults", type := .jsonb, nullable := true },
    { name := "rssi", type := .int, nullable := true },
    { name := "lastSeen", type := .timestamptz, nullable := true },
    { name := "metadata", type := .jsonb, nullable := true },
    { name := "sensorGroupId", type := .uuid, nullable := true, relation := some "sensorGroup" },
    { name := "hubId", type := .uuid, nullable := true, relation := some "hub" }] ++ dateColumns

/-- The tables of the topology -/
inductive TopologyTable where
  | organizations
  | sites
  | sensorGroups
  | hubs
  | nodes
  deriving DecidableEq, Repr

def TopologyTable.entityType : TopologyTable → EntityType
  | organizations => organization
  | sites => site
  | sensorGroups => sensorGroup
  | hubs => hub
  | nodes => node

/-- The database, and the twins -/
structure Stores where
  topology : TopologyTable → Table Row.id
  store : Store

/-! ## The methods -/

/-- What a call of `save` gets from the database. -/
def Answers.reply (a : Answers) : Reply := ⟨a.now, a.uuid, a.saveFails⟩

/-- `const entity = repository.create(data); return repository.save(entity)`: the entity, if
the database takes it -/
def createEntity (table : TopologyTable) (driver : Driver) (a : Answers) (data : Entity)
    (b : Stores) : Option Entity × Stores :=
  match table.entityType.save driver a.reply (table.entityType.create data)
      (b.topology table) with
  | some (entity, rows) =>
    (some entity, { b with topology := Function.update b.topology table rows })
  | none => (none, b)

def createOrganization : Driver → Answers → Entity → Stores → Option Entity × Stores :=
  createEntity .organizations

def createSite : Driver → Answers → Entity → Stores → Option Entity × Stores :=
  createEntity .sites

def createSensorGroup : Driver → Answers → Entity → Stores → Option Entity × Stores :=
  createEntity .sensorGroups

def createHub : Driver → Answers → Entity → Stores → Option Entity × Stores :=
  createEntity .hubs

def createNode : Driver → Answers → Entity → Stores → Option Entity × Stores :=
  createEntity .nodes

/-- A call of one of the six methods, with the body of the request -/
inductive CreateCall where
  | createOrganization (data : Entity)
  | createSite (data : Entity)
  | createSensorGroup (data : Entity)
  | createHub (data : Entity)
  | createNode (data : Entity)
  | createJob (jobData : JobEntity)

namespace CreateCall

/-- Does the call succeed, and what does it leave? -/
def exec (driver : Driver) (a : Answers) (b : Stores) : CreateCall → Bool × Stores
  | createOrganization data => (Backend.createOrganization driver a data b).map Option.isSome id
  | createSite data => (Backend.createSite driver a data b).map Option.isSome id
  | createSensorGroup data => (Backend.createSensorGroup driver a data b).map Option.isSome id
  | createHub data => (Backend.createHub driver a data b).map Option.isSome id
  | createNode data => (Backend.createNode driver a data b).map Option.isSome id
  | createJob jobData =>
    (Backend.createJob a jobData b.store).map Except.toBool fun store => { b with store }

end CreateCall

/-! ## Adding a row -/

/-- Is there an error when the job is sent to its hub? -/
def hubUnreached (a : Answers) (jobData : JobEntity) (s : Store) : Bool :=
  match jobData.hubId.ifTruthy truthyString with
  | some hubId => twinCallFails a (s.twins hubId)
  | none => false

/-- A job with which nothing has been done:
1. it is queued, or has failed if its hub could not be reached;
2. it has not started;
3. it is not completed;
4. it has no result. -/
structure NothingDone (unreached : Bool) (job : Job) : Prop where
  status : job.status = if unreached then .failed else .queued
  startedAt : job.startedAt = none
  completedAt : job.completedAt = none
  result : job.result = none

/-- There is one more row in a table of the topology, and nothing else is new. -/
structure TopologyAdds (table : TopologyTable) (b b' : Stores) : Prop where
  row : ∃ row, (b.topology table).Adds (b'.topology table) row
  others : ∀ other, other ≠ table → b'.topology other = b.topology other
  jobs : b'.store.jobs = b.store.jobs

/-- There is one more job, with which nothing has been done, and nothing else is new. -/
structure JobsAdd (unreached : Bool) (b b' : Stores) : Prop where
  row : ∃ job, b.store.jobs.Adds b'.store.jobs job ∧ NothingDone unreached job
  topology : b'.topology = b.topology

namespace CreateCall

/-- The row that the call is to add is there. -/
def Adds (a : Answers) (b b' : Stores) : CreateCall → Prop
  | createOrganization _ => TopologyAdds .organizations b b'
  | createSite _ => TopologyAdds .sites b b'
  | createSensorGroup _ => TopologyAdds .sensorGroups b b'
  | createHub _ => TopologyAdds .hubs b b'
  | createNode _ => TopologyAdds .nodes b b'
  | createJob jobData => JobsAdd (hubUnreached a jobData b.store) b b'

end CreateCall

/-- What is to hold after a call, `ok` if it succeeds:
1. the rows of the topology that were there are there;
2. the jobs that were there are there;
3. if it succeeds, what it is to add has been added. -/
structure AddsOnly (a : Answers) (b : Stores) (call : CreateCall) (ok : Bool) (b' : Stores) :
    Prop where
  topology : ∀ table, (b.topology table).Keeps (b'.topology table)
  jobs : b.store.jobs.Keeps b'.store.jobs
  added : ok = true → call.Adds a b b'

/-! ## When only a row is added -/

/-- The body gives the property no value. -/
abbrev NotGiven {α : Type} (f : Field α) : Prop := f.write none = none

/-- The condition for the topology: if the database takes the body, its id is the id of no
row. -/
def EntityIsNew (table : TopologyTable) (driver : Driver) (a : Answers) (data : Entity)
    (b : Stores) : Prop :=
  (table.entityType.save driver a.reply (table.entityType.create data)
      (b.topology table)).isSome →
    ∀ id, driver.givenId data = some id → (b.topology table).find id = none

/-- The condition for jobs: if the database takes the body, the id is the id of no job, and no
start, completion or result is given. Where the hub cannot be reached, and the failure cannot be
stored either, it is enough that the job with the id, if there is one, has already got all
that is written to it. -/
def JobIsNew (a : Answers) (jobData : JobEntity) (s : Store) : Prop :=
  (save a.saveFails a (newJob a.now jobData) s.jobs).toBool = true →
    if failureLost a jobData s then
      ∀ old, s.jobs.find (newId a jobData) = some old →
        (newJob a.now jobData).row a.now old.id (some old) = some old
    else
      s.jobs.find (newId a jobData) = none ∧ NotGiven jobData.startedAt ∧
        NotGiven jobData.completedAt ∧ NotGiven jobData.result

/-- The condition under which a call only adds a row -/
def CreatesNew (driver : Driver) (a : Answers) (b : Stores) : CreateCall → Prop
  | .createOrganization data => EntityIsNew .organizations driver a data b
  | .createSite data => EntityIsNew .sites driver a data b
  | .createSensorGroup data => EntityIsNew .sensorGroups driver a data b
  | .createHub data => EntityIsNew .hubs driver a data b
  | .createNode data => EntityIsNew .nodes driver a data b
  | .createJob jobData => JobIsNew a jobData b.store

section
variable {driver : Driver} {a : Answers} {b : Stores}

/-! ### The topology -/

theorem givenId_create (t : EntityType) (data : Entity) :
    driver.givenId (t.create data) = driver.givenId data := by
  rw [Driver.givenId, Driver.givenId, show t.create data "id" = data "id" from if_pos (.inl rfl)]

/-- `create` and `save` only add a row iff the body is new. -/
theorem createEntity_addsOnly_iff (table : TopologyTable) (data : Entity) {call : CreateCall}
    (hadds : ∀ b', call.Adds a b b' ↔ TopologyAdds table b b') :
    AddsOnly a b call (createEntity table driver a data b).1.isSome
        (createEntity table driver a data b).2 ↔
      EntityIsNew table driver a data b := by
  unfold EntityIsNew createEntity
  cases hsave : table.entityType.save driver a.reply (table.entityType.create data)
      (b.topology table) with
  -- the database refuses: nothing is added, and nothing has to be
  | none =>
    refine iff_of_true ⟨fun other => Table.keeps_refl _, Table.keeps_refl _, fun h => ?_⟩
      fun h => ?_
    · cases h
    · cases h
  | some stored =>
    obtain ⟨entity, rows⟩ := stored
    -- whether a row is added is a matter of this table, and the other tables keep theirs
    have hrow := EntityType.save_adds_iff hsave
    rw [givenId_create] at hrow
    constructor
    · intro h _
      obtain ⟨row, hadded⟩ := ((hadds _).mp (h.added rfl)).row
      dsimp only at hadded
      rw [Function.update_self] at hadded
      exact hrow.mp ⟨row, hadded⟩
    · intro h
      obtain ⟨row, hadded⟩ := hrow.mpr (h rfl)
      refine ⟨fun other => ?_, Table.keeps_refl _, fun _ => (hadds _).mpr ⟨⟨row, ?_⟩, ?_, rfl⟩⟩
      · by_cases hother : other = table
        · subst hother
          dsimp only
          rw [Function.update_self]
          exact hadded.keeps
        · dsimp only
          rw [Function.update_of_ne hother]
          exact Table.keeps_refl _
      · dsimp only
        rw [Function.update_self]
        exact hadded
      · exact fun other hother => Function.update_of_ne hother _ _

/-! ### Jobs -/

theorem failureStored_eq (a : Answers) (jobData : JobEntity) (s : Store) :
    failureStored a jobData s = (hubUnreached a jobData s && !a.resaveFails) := by
  unfold failureStored hubUnreached
  cases jobData.hubId.ifTruthy truthyString <;> rfl

theorem failureLost_eq (a : Answers) (jobData : JobEntity) (s : Store) :
    failureLost a jobData s = (hubUnreached a jobData s && a.resaveFails) := by
  unfold failureLost hubUnreached
  cases jobData.hubId.ifTruthy truthyString <;> rfl

/-- A failure that is lost is not stored, and if none is lost then the hub was reached or the
failure is stored. -/
theorem failure_cases (a : Answers) (jobData : JobEntity) (s : Store) :
    (failureLost a jobData s = true ∧ failureStored a jobData s = false) ∨
      (failureLost a jobData s = false ∧
        hubUnreached a jobData s = failureStored a jobData s) := by
  rw [failureLost_eq, failureStored_eq]
  cases hubUnreached a jobData s <;> cases a.resaveFails <;> simp

section
variable {jobData : JobEntity} {row : Job} {s : Store}

/-- Nothing has been done with a new row iff no start, completion or result is given. -/
theorem nothingDone_queued_iff {id : String}
    (hrow : (newJob a.now jobData).row a.now id none = some row) :
    NothingDone false row ↔ NotGiven jobData.startedAt ∧ NotGiven jobData.completedAt ∧
      NotGiven jobData.result := by
  have hstored := JobEntity.row_spec hrow
  constructor
  · intro h
    exact ⟨hstored.startedAt.symm.trans h.startedAt,
      hstored.completedAt.symm.trans h.completedAt, hstored.result.symm.trans h.result⟩
  · rintro ⟨hnoStart, hnoEnd, hnoResult⟩
    exact ⟨newJob_queued hrow, hstored.startedAt.trans hnoStart,
      hstored.completedAt.trans hnoEnd, hstored.result.trans hnoResult⟩

/-- So it is with a job that has failed. -/
theorem nothingDone_failed_iff {message : String} :
    NothingDone true ((newJob a.now jobData).failedRow row message) ↔
      NotGiven jobData.startedAt ∧ NotGiven jobData.completedAt ∧ NotGiven jobData.result := by
  constructor
  · intro h
    exact ⟨h.startedAt, h.completedAt, h.result⟩
  · rintro ⟨hnoStart, hnoEnd, hnoResult⟩
    exact ⟨rfl, hnoStart, hnoEnd, hnoResult⟩

/-- Of jobs, only what is in their table can change. -/
theorem addsOnly_job_iff {ok : Bool} {store : Store} :
    AddsOnly a b (.createJob jobData) ok { b with store } ↔
      b.store.jobs.Keeps store.jobs ∧ (ok = true → ∃ job, b.store.jobs.Adds store.jobs job ∧
        NothingDone (hubUnreached a jobData b.store) job) := by
  constructor
  · intro h
    exact ⟨h.jobs, fun hok => (h.added hok).row⟩
  · rintro ⟨hkept, hadded⟩
    exact ⟨fun _ => Table.keeps_refl _, hkept, fun hok => ⟨hadded hok, rfl⟩⟩

/-- A row that is stored is the only one added iff its id was new and nothing has been done
with it. -/
theorem stored_adds_iff {jobs : JobTable} {unreached : Bool} :
    (jobs.Keeps (jobs.put row) ∧ ∃ job, jobs.Adds (jobs.put row) job ∧
        NothingDone unreached job) ↔
      jobs.find row.id = none ∧ NothingDone unreached row := by
  constructor
  · rintro ⟨-, job, hadds, hdone⟩
    obtain ⟨rfl, hnew⟩ := Table.adds_put_iff.mp hadds
    exact ⟨hnew, hdone⟩
  · rintro ⟨hnew, hdone⟩
    have hadds := Table.adds_put_iff.mpr ⟨rfl, hnew⟩
    exact ⟨hadds.keeps, row, hadds, hdone⟩

/-- `createJob` only adds a job iff the job is new. -/
theorem createJob_addsOnly_iff :
    AddsOnly a b (.createJob jobData) (createJob a jobData b.store).1.toBool
        { b with store := (createJob a jobData b.store).2 } ↔
      JobIsNew a jobData b.store := by
  rw [addsOnly_job_iff]
  unfold JobIsNew
  cases hsave : save a.saveFails a (newJob a.now jobData) b.store.jobs with
  | error e =>
    rw [createJob_refused hsave]
    exact iff_of_true ⟨Table.keeps_refl _, fun h => nomatch h⟩ fun h => nomatch h
  | ok stored =>
    obtain ⟨savedJob, jobs⟩ := stored
    have hid := save_newId hsave
    obtain ⟨row, hrow, rfl, rfl, -⟩ := save_ok hsave
    have hnewId : newId a jobData = row.id := (Field.value.inj hid).symm
    rw [hnewId]
    obtain ⟨hok, hjobs⟩ := createJob_store hrow hsave
    rw [hok]
    simp only [Except.toBool, forall_const]
    rcases failure_cases a jobData b.store with ⟨hlost, hno⟩ | ⟨hlost, hreached⟩
    · -- the row stays as it was stored first
      have hjobs' : (createJob a jobData b.store).2.jobs = b.store.jobs.put row := by
        refine (hjobs.resolve_right fun hstored => ?_).2
        rw [hno] at hstored
        cases hstored.1
      rw [hjobs', hlost, Table.keeps_put_iff]
      simp only [Bool.not_true, Bool.false_eq_true, false_implies, and_true, if_true]
      refine forall_congr' fun old => imp_congr_right fun hold => ?_
      rw [hold] at hrow
      rw [(Table.find_eq_some_iff.mp hold).2, hrow, Option.some.injEq]
      exact eq_comm
    · -- the update of the twin fails, so the row is stored once more
      rw [hlost, hreached]
      simp only [Bool.not_false, forall_const, Bool.false_eq_true, if_false]
      rcases hjobs with ⟨hno, hjobs⟩ | ⟨hyes, message, hjobs⟩
      · -- the registry was not called: the row is still queued
        rw [hjobs, hno, stored_adds_iff]
        refine and_congr_right fun hnew => ?_
        rw [hnew] at hrow
        exact nothingDone_queued_iff hrow
      · -- the row now says that the job has failed
        have hkey : ((newJob a.now jobData).failedRow row message).id = row.id := rfl
        rw [hjobs, hyes]
        simp only [Table.adds_put_put_iff hkey, Table.keeps_put_put_iff hkey]
        rw [stored_adds_iff, hkey]
        exact and_congr_right fun _ => nothingDone_failed_iff

end

/-- **Creating**: a call leaves all rows that were there, and if it succeeds adds one row, iff
the id of the body is new, and a job comes without a start, completion and result. -/
theorem addsOnly_iff {call : CreateCall} :
    AddsOnly a b call (call.exec driver a b).1 (call.exec driver a b).2 ↔
      CreatesNew driver a b call := by
  cases call with
  | createOrganization data =>
    exact createEntity_addsOnly_iff .organizations data fun _ => Iff.rfl
  | createSite data => exact createEntity_addsOnly_iff .sites data fun _ => Iff.rfl
  | createSensorGroup data => exact createEntity_addsOnly_iff .sensorGroups data fun _ => Iff.rfl
  | createHub data => exact createEntity_addsOnly_iff .hubs data fun _ => Iff.rfl
  | createNode data => exact createEntity_addsOnly_iff .nodes data fun _ => Iff.rfl
  | createJob jobData => exact createJob_addsOnly_iff

end

/-- A database that takes every value as it is, and every text as an id, and a mapper that takes
the id of a nested object -/
def takesAll : Driver where
  coerce _ v := some v
  readId
    | .str id => some id
    | _ => none
  join
    | .obj related, _ => some (related "id")
    | _, own => some own

/-- The organization that is there -/
def acme : Row where
  id := "6f1c"
  cells name :=
    if name = "name" then .str "Acme" else if name = "active" then .bool true else .null

/-- A backend with one organization -/
def oneOrganization : Stores where
  topology
    | .organizations => Table.empty.put acme
    | _ => Table.empty
  store := noJobs

/-- A request to create another organization, with the id of the one that is there -/
def otherOrganization : CreateCall :=
  .createOrganization fun name =>
    if name = "id" then .str "6f1c" else if name = "name" then .str "Umbrella" else .undefined

/-- The organization that is there is overwritten. -/
theorem organization_overwritten :
    ¬ ∀ (driver : Driver) (a : Answers) (b : Stores) (call : CreateCall),
      AddsOnly a b call (call.exec driver a b).1 (call.exec driver a b).2 := by
  intro h
  have hkept := (h takesAll goodAnswers oneOrganization otherOrganization).topology
    .organizations acme (List.mem_singleton_self _)
  obtain ⟨row, hrows, hname⟩ : ∃ row : Row,
      ((otherOrganization.exec takesAll goodAnswers oneOrganization).2.topology
        .organizations).rows = [row] ∧ row.cells "name" = .str "Umbrella" := ⟨_, rfl, rfl⟩
  rw [hrows, List.mem_singleton] at hkept
  rw [← hkept] at hname
  have hsame : Json.str "Acme" = .str "Umbrella" := hname
  exact absurd (Json.str.inj hsame) (by decide)

end SensorNet.Backend
