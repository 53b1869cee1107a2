import SensorNet.Backend.JobIsolation

/-!
# Listing jobs (`GET api/jobs`)

`JobsController.getJobs` hands a request to one of two queries of the service: by hub if the
parameter `hubId` is not empty, else by status. So the two filters are never combined, and
where no filter is given the queued jobs are listed.

Of the database we assume that it lists rows in the order asked for, that jobs with the same
`createdAt` come in any order, and that it refuses to compare the column `status` with a text
that is none of its values.

`getJobs_iff`: for every store and every pair of parameters, when the list is the one that the
parameters ask for.
-/

namespace SensorNet.Backend

/-! ## The queries -/

/-- `order: { createdAt: 'DESC' }`: an order in which the rows of a result are listed. -/
structure NewestFirst where
  list : List Job → List Job
  perm : ∀ jobs, (list jobs).Perm jobs
  sorted : ∀ jobs, (list jobs).Pairwise fun a b => b.createdAt ≤ a.createdAt

/-- Does the first job come before the other one, or may it? -/
def Job.newer (a b : Job) : Bool := decide (b.createdAt ≤ a.createdAt)

/-- The order in which jobs of the same time stay as they are -/
def NewestFirst.stable : NewestFirst where
  list jobs := jobs.mergeSort Job.newer
  perm jobs := List.mergeSort_perm jobs Job.newer
  sorted jobs := by
    have htrans : ∀ a b c : Job, a.newer b → b.newer c → a.newer c := by
      intro a b c hab hbc
      exact decide_eq_true (Nat.le_trans (of_decide_eq_true hbc) (of_decide_eq_true hab))
    have htotal : ∀ a b : Job, a.newer b || b.newer a := by
      intro a b
      rw [Bool.or_eq_true]
      exact (Nat.le_total b.createdAt a.createdAt).imp decide_eq_true decide_eq_true
    exact (List.pairwise_mergeSort htrans htotal jobs).imp of_decide_eq_true

variable (order : NewestFirst)

/-- `findJobsByHub` -/
def findJobsByHub (hubId : String) (jobs : JobTable) : List Job :=
  order.list (jobs.filter fun job => job.hubId == some hubId).rows

/-- `findJobsByStatus` -/
def findJobsByStatus (status : String) (jobs : JobTable) : Except Failure (List Job) :=
  match JobStatus.ofText? status with
  | some status => .ok (order.list (jobs.filter fun job => job.status == status).rows)
  | none => .error .database

/-- `getJobs`, with the query parameters of the request; a parameter that is empty is false. -/
def getJobs (hubId status : Option String) (jobs : JobTable) : Except Failure (List Job) :=
  match hubId.filter truthyString with
  | some hubId => .ok (findJobsByHub order hubId jobs)
  | none =>
    match status.filter truthyString with
    | some status => findJobsByStatus order status jobs
    | none => findJobsByStatus order "queued" jobs

/-! ## The list asked for -/

variable {hubId status : Option String} {jobs : JobTable}

/-- The job matches every parameter that is given. -/
def Job.Matches (job : Job) (hubId status : Option String) : Prop :=
  (∀ id ∈ hubId, job.hubId = some id) ∧ ∀ text ∈ status, job.status.text = text

/-- The jobs that are listed:
1. those that are stored and match;
2. each once;
3. the newest first. -/
structure ListsMatching (listed : List Job) (hubId status : Option String) (jobs : JobTable) :
    Prop where
  mem : ∀ job, job ∈ listed ↔ job ∈ jobs.rows ∧ job.Matches hubId status
  once : listed.Nodup
  sorted : listed.Pairwise fun a b => b.createdAt ≤ a.createdAt

/-- The answer is the list that the parameters ask for. -/
def HonoursFilters (hubId status : Option String) (jobs : JobTable) : Prop :=
  ∃ listed, getJobs order hubId status jobs = .ok listed ∧ ListsMatching listed hubId status jobs

/-- The filters do no harm:
1. for a hub, all its jobs have the status, if one is given;
2. for a status and no hub, it is the name of one, and its jobs are of the hub if an empty one
   is given;
3. else the jobs that match are those that are queued. -/
def FiltersAgree (hubId status : Option String) (jobs : JobTable) : Prop :=
  match hubId.filter truthyString with
  | some id => ∀ job ∈ jobs.rows, job.hubId = some id → ∀ text ∈ status, job.status.text = text
  | none =>
    match status.filter truthyString with
    | some text => (JobStatus.ofText? text).isSome ∧
      ∀ job ∈ jobs.rows, job.status.text = text → ∀ id ∈ hubId, job.hubId = some id
    | none => ∀ job ∈ jobs.rows, job.status = .queued ↔ job.Matches hubId status

/-- A query that filters the stored jobs lists those that match iff its filter is that of the
parameters. -/
theorem listsMatching_filter_iff (p : Job → Bool) :
    ListsMatching (order.list (jobs.filter p).rows) hubId status jobs ↔
      ∀ job ∈ jobs.rows, p job = true ↔ job.Matches hubId status := by
  have hmem : ∀ job, job ∈ order.list (jobs.filter p).rows ↔ job ∈ jobs.rows ∧ p job = true :=
    fun job => (order.perm _).mem_iff.trans Table.mem_filter
  constructor
  · intro h job hjob
    have hiff := (hmem job).symm.trans (h.mem job)
    rwa [and_iff_right hjob, and_iff_right hjob] at hiff
  · intro h
    refine { mem := fun job => ?_, once := ?_, sorted := order.sorted _ }
    · rw [hmem]
      exact and_congr_right fun hjob => h job hjob
    · rw [(order.perm _).nodup_iff]
      exact (jobs.filter p).nodup.of_map

theorem honours_of_ok {listed : List Job} (h : getJobs order hubId status jobs = .ok listed) :
    HonoursFilters order hubId status jobs ↔ ListsMatching listed hubId status jobs := by
  constructor
  · rintro ⟨listed', h', hlists⟩
    rw [h] at h'
    cases h'
    exact hlists
  · intro hlists
    exact ⟨listed, h, hlists⟩

/-- Two states have the same name only if they are the same. -/
theorem JobStatus.text_inj {a b : JobStatus} : a.text = b.text ↔ a = b := by
  constructor
  · intro h
    have hsame := congrArg JobStatus.ofText? h
    rw [JobStatus.ofText?_text, JobStatus.ofText?_text] at hsame
    exact Option.some.inj hsame
  · exact congrArg JobStatus.text

/-- A request for a hub: the status is not looked at. -/
theorem honours_hub_iff {id : String} (hhub : hubId.filter truthyString = some id) :
    HonoursFilters order hubId status jobs ↔
      ∀ job ∈ jobs.rows, job.hubId = some id → ∀ text ∈ status, job.status.text = text := by
  have hgiven : hubId = some id := (Option.filter_eq_some_iff.mp hhub).1
  have hok : getJobs order hubId status jobs = .ok (findJobsByHub order id jobs) := by
    simp only [getJobs, hhub]
  rw [honours_of_ok order hok, findJobsByHub, listsMatching_filter_iff]
  refine forall_congr' fun job => imp_congr_right fun _ => ?_
  have hmatch : job.Matches hubId status ↔
      job.hubId = some id ∧ ∀ text ∈ status, job.status.text = text := by
    rw [Job.Matches, hgiven]
    simp only [Option.mem_def, Option.some.injEq, forall_eq']
  rw [beq_iff_eq, hmatch, iff_self_and]

/-- A request for a status that is none: the database refuses the text. -/
theorem not_honours_of_unknown {text : String} (hhub : hubId.filter truthyString = none)
    (hstatus : status.filter truthyString = some text) (hname : JobStatus.ofText? text = none) :
    ¬ HonoursFilters order hubId status jobs := by
  rintro ⟨listed, hok, -⟩
  simp only [getJobs, hhub, hstatus, findJobsByStatus, hname] at hok
  cases hok

/-- A request for a status -/
theorem honours_status_iff {text : String} {state : JobStatus}
    (hhub : hubId.filter truthyString = none) (hstatus : status.filter truthyString = some text)
    (hname : JobStatus.ofText? text = some state) :
    HonoursFilters order hubId status jobs ↔
      ∀ job ∈ jobs.rows, job.status.text = text → ∀ id ∈ hubId, job.hubId = some id := by
  have hgiven : status = some text := (Option.filter_eq_some_iff.mp hstatus).1
  have hlist : getJobs order hubId status jobs =
      .ok (order.list (jobs.filter fun job => job.status == state).rows) := by
    simp only [getJobs, hhub, hstatus, findJobsByStatus, hname]
  rw [honours_of_ok order hlist, listsMatching_filter_iff]
  refine forall_congr' fun job => imp_congr_right fun _ => ?_
  have hmatch : job.Matches hubId status ↔
      (∀ id ∈ hubId, job.hubId = some id) ∧ job.status.text = text := by
    rw [Job.Matches, hgiven]
    simp only [Option.mem_def, Option.some.injEq, forall_eq']
  have hstate : (job.status == state) = true ↔ job.status.text = text := by
    rw [beq_iff_eq, ← JobStatus.text_of_ofText? hname, JobStatus.text_inj]
  rw [hmatch, hstate, iff_and_self]

/-- A request for neither: the queued jobs are listed. -/
theorem honours_neither_iff (hhub : hubId.filter truthyString = none)
    (hstatus : status.filter truthyString = none) :
    HonoursFilters order hubId status jobs ↔
      ∀ job ∈ jobs.rows, job.status = .queued ↔ job.Matches hubId status := by
  have hlist : getJobs order hubId status jobs =
      .ok (order.list (jobs.filter fun job => job.status == .queued).rows) := by
    have hname : JobStatus.ofText? "queued" = some .queued := by decide
    simp only [getJobs, hhub, hstatus, findJobsByStatus, hname]
  rw [honours_of_ok order hlist, listsMatching_filter_iff]
  refine forall_congr' fun job => imp_congr_right fun _ => ?_
  rw [beq_iff_eq]

/-- **The filters of the job list**: for every store and every pair of parameters, the request
is answered with the jobs that match both of them, each once and the newest first, iff the
filters agree. -/
theorem getJobs_iff (hubId status : Option String) (jobs : JobTable) :
    HonoursFilters order hubId status jobs ↔ FiltersAgree hubId status jobs := by
  unfold FiltersAgree
  cases hhub : hubId.filter truthyString with
  | some id => exact honours_hub_iff order hhub
  | none =>
    dsimp only
    cases hstatus : status.filter truthyString with
    | some text =>
      dsimp only
      cases hname : JobStatus.ofText? text with
      | none =>
        refine iff_of_false (not_honours_of_unknown order hhub hstatus hname) fun h => ?_
        exact absurd h.1 (by decide)
      | some state =>
        rw [honours_status_iff order hhub hstatus hname]
        exact (and_iff_right rfl).symm
    | none => exact honours_neither_iff order hhub hstatus

/-- A queued job and a running one, of the same hub -/
def queuedAndRunning : JobTable :=
  (Table.empty.put (sampleJob "1" .queued)).put (sampleJob "2" .running)

/-- Asked for the queued jobs of the hub, the list has the running one as well. -/
theorem status_ignored :
    ¬ ∀ (order : NewestFirst) (hubId status : Option String) (jobs : JobTable),
      HonoursFilters order hubId status jobs := by
  intro h
  obtain ⟨listed, hok, hlists⟩ :=
    h .stable (some "hub-001") (some "queued") queuedAndRunning
  cases hok
  have hstored : sampleJob "2" .running ∈ queuedAndRunning.rows :=
    List.mem_cons_of_mem _ (List.mem_singleton_self _)
  have hlisted : sampleJob "2" .running ∈
      findJobsByHub .stable "hub-001" queuedAndRunning :=
    (NewestFirst.stable.perm _).mem_iff.mpr (Table.mem_filter.mpr ⟨hstored, by decide⟩)
  have hstatus := ((hlists.mem _).mp hlisted).2.2 "queued" rfl
  exact absurd hstatus (by decide)

end SensorNet.Backend
