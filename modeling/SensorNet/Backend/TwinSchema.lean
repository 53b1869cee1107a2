import SensorNet.Backend.TwinEdits
import SensorNet.Lib.JsonSchema

/-!
# The published schema of the twin (`device-twin.schema.json`)

The desired part of the schema, and what the backend writes. A message with a job repeats
the nullable columns of the job, and any `timeoutSeconds`; the mappings that
`updateTopologyMapping` takes have a `machineId`, where the schema wants a
`sensorGroupId`.

So `schema_kept_iff`: a valid twin stays valid iff the job that is sent meets `JobFits`,
and every mapping has a `sensorGroupId` all the same.
-/

namespace SensorNet.Backend

open SensorNet.Js

/-! ## The schema -/

/-- `desired.topology.nodeMappings.items` -/
def nodeMappingSchema : Schema :=
  .object ["nodeId", "sensorGroupId"] (.fields [
    ("nodeId", .string {}),
    ("sensorGroupId", .string {})])

/-- `desired.topology` -/
def topologySchema : Schema :=
  .object [] (.fields [
    ("siteId", .string {}),
    ("nodeMappings", .array nodeMappingSchema)])

/-- `desired.policies` -/
def policiesSchema : Schema :=
  .object [] (.fields [
    ("scanIntervalSeconds", .integer 1 3600),
    ("connectMode", .string
      { enum := some ["scan_only", "connect_on_demand", "always_connected"] }),
    ("telemetryRateLimitPerHour", .integer 1 10000)])

/-- `desired.jobs.items` -/
def jobSchema : Schema :=
  .object ["jobId", "type", "createdAt"] (.fields [
    ("jobId", .string {}),
    ("type", .string
      { enum := some ["push_node_config", "pull_node_diagnostics", "trigger_node_maintenance",
        "update_hub_firmware", "export_support_package"] }),
    ("targetNodeId", .string {}),
    ("payload", .object [] (.fields [])),
    ("createdAt", .string { format := some "date-time" }),
    ("timeoutSeconds", .integer 1 3600)])

/-- `desired.firmwareUpdate` -/
def firmwareUpdateSchema : Schema :=
  .object [] (.fields [
    ("version", .string {}),
    ("url", .string { format := some "uri" }),
    ("checksum", .string {}),
    ("scheduledAt", .string { format := some "date-time" })])

/-- `desired.properties` -/
def desiredFields : String → Schema :=
  .fields [
    ("schemaVersion", .string { pattern := some "^[0-9]+\\.[0-9]+\\.[0-9]+$" }),
    ("topology", topologySchema),
    ("policies", policiesSchema),
    ("jobs", .array jobSchema),
    ("firmwareUpdate", firmwareUpdateSchema)]

/-- The desired properties are valid for `desired`. -/
def Valid (d : Dialect) (desired : Desired) : Prop :=
  (Schema.object [] desiredFields).Accepts d (.obj desired)

/-! ## What the backend writes -/

/-- A node mapping of the type that `updateTopologyMapping` declares: an object with a
`nodeId` and a `machineId`, both strings. -/
structure NodeMapping where
  props : String → Json
  nodeId : ∃ text, props "nodeId" = .str text
  machineId : ∃ text, props "machineId" = .str text

/-- The argument `nodeMappings` -/
def mappingsJson (mappings : List NodeMapping) : Json := .arr (mappings.map fun m => .obj m.props)

/-- The twins after `sendJobToHub` for the job, if it is sent to `hubId` -/
def twinsAfterSend (a : Answers) (hubId : String) (job : Job) (twins : String → Desired) :
    String → Desired :=
  match sendJobToHub a hubId job.entity twins with
  | .ok twins => twins
  | .error _ => twins

/-- The message with a job fits into the schema:
1. the job has a node;
2. the job has a payload that is an object (no column holds `undefined`);
3. its timeout, if given and not 0, is at most an hour;
4. the text of the time at which it was created passes for a date and time. -/
structure JobFits (d : Dialect) (job : Job) : Prop where
  nodeId : job.nodeId.isSome
  payload : ∃ payload, job.payload = some payload ∧
    (payload = .undefined ∨ ∃ props, payload = .obj props)
  timeoutSeconds : ∀ n, job.timeoutSeconds = some n → n = 0 ∨ (1 ≤ n ∧ n ≤ 3600)
  createdAt : d.hasFormat "date-time" (Date.toISOString job.createdAt) = true

variable {d : Dialect}

theorem accepts_plain {text : String} : (Schema.string {}).Accepts d (.str text) :=
  Schema.accepts_str.mpr ⟨nofun, nofun, nofun⟩

/-- Any object will do where no property has a schema. -/
theorem accepts_anyObject {value : Json} :
    (Schema.object [] (.fields [])).Accepts d value ↔ ∃ props, value = .obj props := by
  constructor
  · rintro ⟨props, rfl, -⟩
    exact ⟨props, rfl⟩
  · rintro ⟨props, rfl⟩
    exact Schema.accepts_obj.mpr ⟨nofun, fun _ _ => trivial⟩

/-! ## A job in the twin -/

theorem accepts_type (type : JobType) :
    (Schema.string { enum := some ["push_node_config", "pull_node_diagnostics",
      "trigger_node_maintenance", "update_hub_firmware", "export_support_package"] }).Accepts d
        (.str type.text) := by
  refine Schema.accepts_str.mpr ⟨fun texts htexts => ?_, nofun, nofun⟩
  cases htexts
  cases type <;> decide

theorem accepts_nodeId {nodeId : Option String} :
    ((Field.ofOption nodeId).json .str ≠ .undefined →
      (Schema.string {}).Accepts d ((Field.ofOption nodeId).json .str)) ↔ nodeId.isSome := by
  cases nodeId with
  | none =>
    refine iff_of_false (fun h => ?_) Bool.false_ne_true
    obtain ⟨text, htext, -⟩ := h nofun
    cases htext
  | some text => exact iff_of_true (fun _ => accepts_plain) rfl

theorem accepts_payload {payload : Option Json} :
    ((Field.ofOption payload).json id ≠ .undefined →
      (Schema.object [] (.fields [])).Accepts d ((Field.ofOption payload).json id)) ↔
        ∃ value, payload = some value ∧ (value = .undefined ∨ ∃ props, value = .obj props) := by
  rw [accepts_anyObject]
  cases payload with
  | none =>
    refine iff_of_false (fun h => ?_) nofun
    obtain ⟨props, hprops⟩ := h nofun
    cases hprops
  | some value =>
    constructor
    · intro h
      exact ⟨value, rfl, or_iff_not_imp_left.mpr h⟩
    · rintro ⟨other, heq, h⟩ hgiven
      cases heq
      exact h.resolve_left hgiven

theorem accepts_timeout {timeoutSeconds : Option Int} :
    (Schema.integer 1 3600).Accepts d (.num (timeoutOrDefault (.ofOption timeoutSeconds))) ↔
      ∀ n, timeoutSeconds = some n → n = 0 ∨ (1 ≤ n ∧ n ≤ 3600) := by
  rw [Schema.accepts_num]
  cases timeoutSeconds with
  | none => exact iff_of_true (by decide) nofun
  | some n =>
    by_cases hzero : n = 0
    · subst hzero
      exact iff_of_true (by decide) fun n hn => by cases hn; exact .inl rfl
    · have hgiven : timeoutOrDefault (.ofOption (some n)) = n := by
        simp [timeoutOrDefault, Field.ofOption, Field.ifTruthy, hzero]
      rw [hgiven]
      constructor
      · intro h m hm
        cases hm
        exact .inr h
      · exact fun h => (h n rfl).resolve_left hzero

theorem accepts_createdAt {text : String} :
    (Schema.string { format := some "date-time" }).Accepts d (.str text) ↔
      d.hasFormat "date-time" text = true := by
  refine Schema.accepts_str.trans ⟨fun h => h.2.2 _ rfl, fun h => ⟨nofun, nofun, ?_⟩⟩
  rintro format heq
  cases heq
  exact h

/-- The properties of the message with a job -/
def jobFields (job : Job) : List (String × Json) :=
  [("jobId", .str job.id),
    ("type", .str job.type.text),
    ("targetNodeId", (Field.ofOption job.nodeId).json .str),
    ("payload", (Field.ofOption job.payload).json id),
    ("createdAt", .str (Date.toISOString job.createdAt)),
    ("timeoutSeconds", .num (timeoutOrDefault (.ofOption job.timeoutSeconds)))]

/-- The message with a job is valid iff it fits. -/
theorem accepts_jobPayload {job : Job} :
    jobSchema.Accepts d (jobPayload job.entity) ↔ JobFits d job := by
  have hnodup : ((jobFields job).map Prod.fst).Nodup := by
    show ["jobId", "type", "targetNodeId", "payload", "createdAt", "timeoutSeconds"].Nodup
    decide
  rw [show jobPayload job.entity = .object (jobFields job) from rfl]
  -- one property after another; the id and the type are always as they should be
  refine (Schema.accepts_object_iff hnodup).trans ⟨?_, ?_⟩
  · rintro ⟨-, h⟩
    exact
      { nodeId := accepts_nodeId.mp
          (h ("targetNodeId", (Field.ofOption job.nodeId).json .str) (by simp [jobFields]))
        payload := accepts_payload.mp
          (h ("payload", (Field.ofOption job.payload).json id) (by simp [jobFields]))
        timeoutSeconds := accepts_timeout.mp
          (h ("timeoutSeconds", .num (timeoutOrDefault (.ofOption job.timeoutSeconds)))
            (by simp [jobFields]) nofun)
        createdAt := accepts_createdAt.mp
          (h ("createdAt", .str (Date.toISOString job.createdAt)) (by simp [jobFields]) nofun) }
  · intro h
    refine ⟨?_, fun entry hentry => ?_⟩
    · simp only [List.forall_mem_cons]
      exact ⟨nofun, nofun, nofun, nofun⟩
    · simp only [jobFields, List.mem_cons, List.not_mem_nil, or_false] at hentry
      rcases hentry with rfl | rfl | rfl | rfl | rfl | rfl
      · exact fun _ => accepts_plain
      · exact fun _ => accepts_type job.type
      · exact accepts_nodeId.mpr h.nodeId
      · exact accepts_payload.mpr h.payload
      · exact fun _ => accepts_createdAt.mpr h.createdAt
      · exact fun _ => accepts_timeout.mpr h.timeoutSeconds

/-- The jobs of a valid twin -/
theorem Valid.lists {desired : Desired} (h : Valid d desired) :
    ∃ jobs, ListsJobs desired jobs ∧ ∀ job ∈ jobs, jobSchema.Accepts d job := by
  by_cases hnone : desired "jobs" = .undefined
  · exact ⟨[], .inr ⟨hnone, rfl⟩, nofun⟩
  · obtain ⟨jobs, hjobs, hall⟩ := (Schema.accepts_obj.mp h).2 "jobs" hnone
    exact ⟨jobs, .inl hjobs, hall⟩

/-- Adding a job to a valid twin -/
theorem valid_addJob_iff {desired : Desired} (h : Valid d desired) (job : Json) :
    Valid d ((TwinCall.addJob job).apply desired desired) ↔ jobSchema.Accepts d job := by
  obtain ⟨jobs, hlists, hall⟩ := h.lists
  have hother : ∀ other, other ≠ "jobs" →
      (TwinCall.addJob job).apply desired desired other = desired other :=
    fun other hne => apply_self_of_ne _ desired hne
  refine (Schema.accepts_obj_congr h hother).trans ?_
  rw [apply_addJob_jobs hlists.jobsOf_eq]
  constructor
  · intro hjobs
    exact Schema.accepts_arr.mp (hjobs nofun) job (by simp)
  · intro hjob _
    refine Schema.accepts_arr.mpr fun elem helem => ?_
    rcases List.mem_append.mp helem with hold | hnew
    · exact hall elem hold
    · rw [List.mem_singleton.mp hnew]
      exact hjob

/-! ## A topology in the twin -/

theorem accepts_nodeMapping {m : NodeMapping} :
    nodeMappingSchema.Accepts d (.obj m.props) ↔
      ∃ text, m.props "sensorGroupId" = .str text := by
  refine (Schema.accepts_fields_iff (by decide)).trans ⟨fun ⟨hrequired, hlisted⟩ => ?_,
    fun ⟨group, hgroup⟩ => ⟨?_, ?_⟩⟩
  · have hgiven := hrequired "sensorGroupId" (by simp)
    obtain ⟨text, htext, -⟩ := hlisted ("sensorGroupId", .string {}) (by simp) hgiven
    exact ⟨text, htext⟩
  · obtain ⟨node, hnode⟩ := m.nodeId
    simp [hnode, hgroup]
  · obtain ⟨node, hnode⟩ := m.nodeId
    simp only [List.forall_mem_cons]
    refine ⟨fun _ => ?_, fun _ => ?_, nofun⟩
    · rw [hnode]
      exact accepts_plain
    · rw [hgroup]
      exact accepts_plain

/-- Setting the topology of a valid twin -/
theorem valid_topology_iff {desired : Desired} (h : Valid d desired) (siteId : String)
    (mappings : List NodeMapping) :
    Valid d ((TwinCall.topology (.str siteId) (mappingsJson mappings)).apply desired desired) ↔
      ∀ m ∈ mappings, ∃ text, m.props "sensorGroupId" = .str text := by
  have hother : ∀ other, other ≠ "topology" →
      (TwinCall.topology (.str siteId) (mappingsJson mappings)).apply desired desired other =
        desired other := fun other hne => apply_self_of_ne _ desired hne
  -- only the topology is new
  refine (Schema.accepts_obj_congr h hother).trans ?_
  obtain ⟨props, hprops, hsite, hmappings⟩ :=
    apply_topology siteId (mappings.map fun m => .obj m.props) desired
  rw [show (TwinCall.topology (.str siteId) (mappingsJson mappings)).apply desired desired
    "topology" = .obj props from hprops]
  constructor
  · intro htopology m hm
    have hlist := (Schema.accepts_obj.mp (htopology nofun)).2 "nodeMappings"
    rw [hmappings] at hlist
    exact accepts_nodeMapping.mp
      (Schema.accepts_arr.mp (hlist nofun) _ (List.mem_map_of_mem hm))
  · intro hall _
    refine (Schema.accepts_fields_iff (by decide)).mpr ⟨nofun, ?_⟩
    simp only [List.forall_mem_cons]
    refine ⟨fun _ => ?_, fun _ => ?_, nofun⟩
    · rw [hsite]
      exact accepts_plain
    · rw [hmappings]
      refine Schema.accepts_arr.mpr fun elem helem => ?_
      obtain ⟨m, hm, rfl⟩ := List.mem_map.mp helem
      exact accepts_nodeMapping.mpr (hall m hm)

/-! ## The two ways in which the backend writes to the twin -/

theorem twinsAfterSend_eq (a : Answers) (hubId : String) (job : Job)
    (twins : String → Desired) :
    twinsAfterSend a hubId job twins hubId =
      (TwinCall.addJob (jobPayload job.entity)).twinAfter updateTwin a (twins hubId) := by
  unfold twinsAfterSend sendJobToHub TwinCall.twinAfter
  rw [TwinCall.sendToTwin_eq]
  cases (TwinCall.addJob (jobPayload job.entity)).attempt updateTwin a (twins hubId) with
  | error message => rfl
  | ok desired => exact Function.update_self ..

/-- **Twins stay valid**: a valid twin is valid after a job is sent iff the call fails or the
job fits, and after a topology is set iff the call fails or every node mapping has a
`sensorGroupId` besides what its type asks for. -/
theorem schema_kept_iff (hubId : String) (twins : String → Desired)
    (hvalid : Valid d (twins hubId)) (a : Answers) :
    (∀ job : Job, Valid d (twinsAfterSend a hubId job twins hubId) ↔
      TwinCall.registryOk a = false ∨ JobFits d job) ∧
    ∀ (siteId : String) (mappings : List NodeMapping),
      Valid d ((TwinCall.topology (.str siteId) (mappingsJson mappings)).twinAfter updateTwin a
        (twins hubId)) ↔
        TwinCall.registryOk a = false ∨
          ∀ m ∈ mappings, ∃ text, m.props "sensorGroupId" = .str text := by
  constructor
  · intro job
    rw [twinsAfterSend_eq, twinAfter_updateTwin]
    cases TwinCall.registryOk a with
    -- a failed call leaves the twin as it was
    | false => exact iff_of_true hvalid (.inl rfl)
    | true =>
      rw [if_pos rfl, valid_addJob_iff hvalid, accepts_jobPayload]
      simp
  · intro siteId mappings
    rw [twinAfter_updateTwin]
    cases TwinCall.registryOk a with
    | false => exact iff_of_true hvalid (.inl rfl)
    | true =>
      rw [if_pos rfl, valid_topology_iff hvalid]
      simp

/-- A validator that takes every pattern and every format -/
def lenient : Dialect := ⟨fun _ _ => true, fun _ _ => true⟩

/-- A twin without desired properties is valid. -/
theorem valid_freshTwin : Valid lenient freshTwin :=
  Schema.accepts_obj.mpr ⟨nofun, fun _ h => absurd rfl h⟩

/-- A mapping as its type asks for it -/
def plainMapping : NodeMapping where
  props := fun name =>
    if name = "nodeId" then .str "AA:BB:CC:DD:EE:FF"
    else if name = "machineId" then .str "machine-1"
    else .undefined
  nodeId := ⟨_, rfl⟩
  machineId := ⟨_, rfl⟩

/-- A mapping that the schema takes -/
def groupMapping : NodeMapping where
  props := fun name => if name = "sensorGroupId" then .str "group-1" else plainMapping.props name
  nodeId := ⟨_, rfl⟩
  machineId := ⟨_, rfl⟩

/-- A job that is sent to the hub -/
def configJobRow (id : String) : Job where
  id
  type := .pushNodeConfig
  hubId := some "hub-001"
  nodeId := some "AA:BB:CC:DD:EE:FF"
  payload := some (.object [("reportIntervalSeconds", .num 60)])
  status := .queued
  startedAt := none
  completedAt := none
  timeoutSeconds := some 300
  errorCode := none
  errorMessage := none
  result := none
  createdBy := some "operator"
  createdAt := 0
  updatedAt := 0

theorem configJobRow_fits (id : String) : JobFits lenient (configJobRow id) where
  nodeId := rfl
  payload := ⟨_, rfl, .inr ⟨_, rfl⟩⟩
  timeoutSeconds n hn := by
    cases hn
    decide
  createdAt := rfl

/-- A twin with a topology and two jobs -/
def busyTwin : Desired :=
  [TwinCall.topology (.str "site-1") (mappingsJson [groupMapping]),
    .addJob (jobPayload (configJobRow "1").entity),
    .addJob (jobPayload (configJobRow "2").entity)].foldl
      (fun desired call => call.apply desired desired) freshTwin

theorem valid_busyTwin : Valid lenient busyTwin := by
  have htopology := (valid_topology_iff valid_freshTwin "site-1" [groupMapping]).mpr
    (by simp [groupMapping])
  have hfirst := (valid_addJob_iff htopology _).mpr (accepts_jobPayload.mpr (configJobRow_fits "1"))
  exact (valid_addJob_iff hfirst _).mpr (accepts_jobPayload.mpr (configJobRow_fits "2"))

/-- What is written to it -/
theorem schema_of_busyTwin :
    (∀ job : Job, Valid lenient (twinsAfterSend (updateAnswers none) "hub-001" job
        (fun _ => busyTwin) "hub-001") ↔
      TwinCall.registryOk (updateAnswers none) = false ∨ JobFits lenient job) ∧
    ∀ (siteId : String) (mappings : List NodeMapping),
      Valid lenient ((TwinCall.topology (.str siteId) (mappingsJson mappings)).twinAfter
        updateTwin (updateAnswers none) busyTwin) ↔
        TwinCall.registryOk (updateAnswers none) = false ∨
          ∀ m ∈ mappings, ∃ text, m.props "sensorGroupId" = .str text :=
  schema_kept_iff "hub-001" (fun _ => busyTwin) valid_busyTwin (updateAnswers none)

/-- A mapping of the declared type makes a valid twin invalid. -/
theorem mapping_not_valid :
    ¬ ∀ (d : Dialect) (desired : Desired) (a : Answers) (siteId : String)
      (mappings : List NodeMapping), Valid d desired →
        Valid d ((TwinCall.topology (.str siteId) (mappingsJson mappings)).twinAfter updateTwin a
          desired) := by
  intro h
  have hvalid := h lenient freshTwin (updateAnswers none) "site-1" [plainMapping] valid_freshTwin
  rw [twinAfter_updateTwin, show TwinCall.registryOk (updateAnswers none) = true from rfl,
    if_pos rfl, valid_topology_iff valid_freshTwin] at hvalid
  obtain ⟨text, htext⟩ := hvalid plainMapping (List.mem_singleton_self _)
  cases htext

end SensorNet.Backend
