import SensorNet.Backend.JobLifecycle
import SensorNet.Lib.Snapshot

/-!
# Concurrent updates of one job

`updateJobStatus` reads a row, sets some of its properties and saves all of them: as a
transaction on the table (`SensorNet.Lib.Snapshot`) it puts back what it read in the
columns that it does not set. Of two calls that read the same row the later write takes
away what the earlier one recorded (`update_lost`).

`CarriesRow` says when it does not: in the columns that a call does not set, what it read
is still there. `status_serializable`: in runs in which every write is so, the row is, up
to the times in it, what the calls leave one after another in some order, and nothing
recorded is erased.
-/

namespace SensorNet.Backend

open SensorNet.Js SensorNet.Snapshot

variable {n : Nat}

/-- The two steps of `updateJobStatus`: `findOne` in the table `read`, and `save` to the
table `jobs`. -/
def writeStatus (a : Answers) (args : StatusArgs) (read jobs : JobTable) : JobTable :=
  match findOne a args.id read with
  | .ok (some job) =>
    match save a.saveFails a (job.entity.setStatus a.now args) jobs with
    | .ok (_, jobs) => jobs
    | .error _ => jobs
  | _ => jobs

/-- The calls as transactions on the table. -/
def statusApply (calls : Fin n → Answers × StatusCall) (i : Fin n) :
    JobTable → JobTable → JobTable :=
  writeStatus (calls i).1 (calls i).2.args

/-- With nothing in between the two steps are the call. -/
theorem statusApply_self (calls : Fin n → Answers × StatusCall) (i : Fin n) (s : Store) :
    statusApply calls i s.jobs s.jobs = ((calls i).2.exec (calls i).1 s).jobs := by
  rw [StatusCall.exec_eq, statusApply]
  unfold writeStatus updateJobStatus
  cases findOne (calls i).1 (calls i).2.args.id s.jobs with
  | error e => rfl
  | ok found =>
    cases found with
    | none => rfl
    | some job =>
      dsimp only
      cases save (calls i).1.saveFails (calls i).1
        (job.entity.setStatus (calls i).1.now (calls i).2.args) s.jobs <;> rfl

/-- Running the transactions one after another is running the calls one after another. -/
theorem serial_statusApply (calls : Fin n → Answers × StatusCall) (s : Store)
    (order : List (Fin n)) :
    serial (statusApply calls) s.jobs order = (after s (order.map calls)).jobs := by
  induction order using List.reverseRecOn with
  | nil => rfl
  | append_singleton order i ih =>
    rw [serial_snoc, ih, List.map_append, List.map_singleton, after_snoc, statusApply_self]

/-! ## The row -/

/-- A row but for the times in it -/
def Job.untimed (job : Job) : Job :=
  { job with
    startedAt := job.startedAt.map fun _ => 0
    completedAt := job.completedAt.map fun _ => 0
    updatedAt := 0 }

/-- The columns of a row that no call sets -/
def Job.fixed (job : Job) : Job :=
  { job with
    status := .queued
    startedAt := none
    completedAt := none
    errorCode := none
    errorMessage := none
    result := none
    updatedAt := 0 }

/-- The row with the id, but for the times in it -/
def rowView (id : String) (jobs : JobTable) : Option Job := (jobs.find id).map Job.untimed

/-- The status with which the call stores the job in the place of one with `status`;
`none` if the database fails or refuses the status given. -/
def storedStatus (c : Answers × StatusCall) (status : JobStatus) : Option JobStatus :=
  if c.1.findFails = false ∧ c.1.saveFails = false then
    c.2.args.status.writeRequired JobStatus.ofText? (some status)
  else none

/-- What a call that read `job` makes of `row` -/
def rowAfter (c : Answers × StatusCall) (job row : Job) : Job :=
  match storedStatus c row.status with
  | some status => job.withStatus c.1.now c.2.args status
  | none => row

theorem find_statusApply {calls : Fin n → Answers × StatusCall} {i : Fin n} {id : String}
    (hid : (calls i).2.args.id = .value id) {read jobs : JobTable} {job row : Job}
    (hread : read.find id = some job) (hrow : jobs.find id = some row) :
    (statusApply calls i read jobs).find id = some (rowAfter (calls i) job row) := by
  obtain ⟨-, hkey⟩ := Table.find_eq_some_iff.mp hread
  unfold statusApply writeStatus rowAfter storedStatus
  rw [hid]
  cases hfind : (calls i).1.findFails with
  | true =>
    simp only [findOne, hfind, if_true, Bool.true_eq_false, false_and, if_false]
    exact hrow
  | false =>
    simp only [findOne, foundRow, hfind, hread, Bool.false_eq_true, if_false, true_and]
    cases hsave : (calls i).1.saveFails with
    | true =>
      simp only [save, if_true, Bool.true_eq_false, if_false]
      exact hrow
    | false =>
      -- the entity is the one read, and the row it is written over the present one
      have hentity : (job.entity.setStatus (calls i).1.now (calls i).2.args).id = .value id := by
        rw [← hkey]
        rfl
      have hset := setStatus_row job row (calls i).1.now (calls i).2.args
      rw [hkey] at hset
      simp only [save, Bool.false_eq_true, if_false, if_true, hentity, hrow, hset]
      cases (calls i).2.args.status.writeRequired JobStatus.ofText? (some row.status) with
      | none => exact hrow
      | some status =>
        have hput := Table.find_put_self jobs
          (job.withStatus (calls i).1.now (calls i).2.args status)
        rwa [show (job.withStatus (calls i).1.now (calls i).2.args status).id = id
          from hkey] at hput

/-- A call on a job that is not there does nothing. -/
theorem statusApply_of_missing {calls : Fin n → Answers × StatusCall} {i : Fin n} {id : String}
    (hid : (calls i).2.args.id = .value id) {read : JobTable} (hread : read.find id = none)
    (jobs : JobTable) : statusApply calls i read jobs = jobs := by
  unfold statusApply writeStatus
  rw [hid]
  cases hfind : (calls i).1.findFails with
  | true => simp only [findOne, hfind, if_true]
  | false => simp only [findOne, foundRow, hfind, hread, Bool.false_eq_true, if_false]

/-! ## What a late write takes away -/

/-- In the columns that the call does not set, what it read is, up to the times, what is
still in the row:
1. whether the job was started, unless the call says that it runs;
2. whether it was completed, unless the call completes it;
3. the error code, unless one is given;
4. the error message, unless one is given;
5. the result, unless one is given. -/
structure CarriesRow (args : StatusArgs) (read row : Job) : Prop where
  started : args.status ≠ .value "running" → read.startedAt.isSome = row.startedAt.isSome
  completed : ¬ args.Completes → read.completedAt.isSome = row.completedAt.isSome
  errorCode : args.errorCode.ifTruthy truthyString = none → read.errorCode = row.errorCode
  errorMessage : args.errorMessage.ifTruthy truthyString = none →
    read.errorMessage = row.errorMessage
  result : args.result.ifTruthy Json.truthy = none → read.result = row.result

theorem map_zero_eq_iff {o p : Option Date} :
    (o.map fun _ => (0 : Date)) = p.map (fun _ => 0) ↔ o.isSome = p.isSome := by
  cases o <;> cases p <;> simp

theorem untimed_eq_iff {job row : Job} :
    job.untimed = row.untimed ↔ job.fixed = row.fixed ∧ job.status = row.status ∧
      job.startedAt.isSome = row.startedAt.isSome ∧
      job.completedAt.isSome = row.completedAt.isSome ∧
      job.errorCode = row.errorCode ∧ job.errorMessage = row.errorMessage ∧
      job.result = row.result := by
  simp only [Job.untimed, Job.fixed, Job.mk.injEq, map_zero_eq_iff]
  tauto

/-- Whether a time is set, when the call sets it in some cases -/
theorem isSome_ite_congr {p : Prop} [Decidable p] {time time' : Date} {o o' : Option Date}
    (h : ¬ p → o.isSome = o'.isSome) :
    (if p then some time else o).isSome = (if p then some time' else o').isSome := by
  split
  · rfl
  · exact h ‹_›

/-- A column that is set if a value is given -/
theorem or_congr_of_none {α : Type} {given o o' : Option α} (h : given = none → o = o') :
    given.or o = given.or o' := by
  cases given with
  | none => exact h rfl
  | some value => rfl

/-- A call that carries the row leaves, up to the times, what it would leave if it had read
the row now. -/
theorem CarriesRow.withStatus_untimed {args : StatusArgs} {read row : Job}
    (h : CarriesRow args read row) (hfixed : read.fixed = row.fixed) (now : Date)
    (status : JobStatus) :
    (read.withStatus now args status).untimed = (row.withStatus now args status).untimed := by
  refine untimed_eq_iff.mpr ⟨hfixed, rfl, ?_, ?_, ?_, ?_, ?_⟩
  · exact isSome_ite_congr h.started
  · exact isSome_ite_congr h.completed
  · exact or_congr_of_none h.errorCode
  · exact or_congr_of_none h.errorMessage
  · exact or_congr_of_none h.result

theorem carriesRow_of_untimed {job row : Job} (args : StatusArgs)
    (h : job.untimed = row.untimed) : CarriesRow args job row := by
  obtain ⟨-, -, hstarted, hcompleted, hcode, hmessage, hresult⟩ := untimed_eq_iff.mp h
  exact ⟨fun _ => hstarted, fun _ => hcompleted, fun _ => hcode, fun _ => hmessage,
    fun _ => hresult⟩

theorem rowAfter_fixed {c : Answers × StatusCall} {job row : Job}
    (hfixed : job.fixed = row.fixed) : (rowAfter c job row).fixed = row.fixed := by
  unfold rowAfter
  cases storedStatus c row.status with
  | none => rfl
  | some status => exact hfixed

/-- What is seen of the row after a call by itself depends on what is seen of it before. -/
theorem rowView_statusApply {calls : Fin n → Answers × StatusCall} {i : Fin n} {id : String}
    (hid : (calls i).2.args.id = .value id) {jobs jobs' : JobTable}
    (h : rowView id jobs = rowView id jobs') :
    rowView id (statusApply calls i jobs jobs) = rowView id (statusApply calls i jobs' jobs') := by
  unfold rowView at h ⊢
  cases hrow : jobs.find id with
  | none =>
    rw [hrow, Option.map_none, eq_comm, Option.map_eq_none_iff] at h
    rw [statusApply_of_missing hid hrow, statusApply_of_missing hid h, hrow, h]
  | some row =>
    rw [hrow, Option.map_some, eq_comm, Option.map_eq_some_iff] at h
    obtain ⟨row', hrow', heq⟩ := h
    rw [find_statusApply hid hrow hrow, find_statusApply hid hrow' hrow', Option.map_some,
      Option.map_some]
    -- a row is carried by a call that has read one like it
    obtain ⟨hfixed, hstatus, -⟩ := untimed_eq_iff.mp heq
    unfold rowAfter
    rw [hstatus]
    cases storedStatus (calls i) row.status with
    | none => exact congrArg some heq.symm
    | some status =>
      exact congrArg some
        ((carriesRow_of_untimed _ heq.symm).withStatus_untimed hfixed.symm _ status)

/-- Every call that stores the job carries the row. -/
def WritesCarryRow (calls : Fin n → Answers × StatusCall) (id : String)
    (s : System JobTable n) : Event n → Prop
  | .read _ => True
  | .write i => ∀ jobs job row, s.phase i = .pending jobs → jobs.find id = some job →
      s.cell.find id = some row → (storedStatus (calls i) row.status).isSome →
      CarriesRow (calls i).2.args job row

/-- What one row says that happened, another says too. -/
structure Recorded (row later : Job) : Prop where
  startedAt : row.startedAt.isSome → later.startedAt.isSome
  completedAt : row.completedAt.isSome → later.completedAt.isSome
  errorCode : row.errorCode.isSome → later.errorCode.isSome
  result : row.result.isSome → later.result.isSome

theorem Recorded.refl (row : Job) : Recorded row row := ⟨id, id, id, id⟩

theorem Recorded.trans {row later last : Job} (h₁ : Recorded row later)
    (h₂ : Recorded later last) : Recorded row last where
  startedAt h := h₂.startedAt (h₁.startedAt h)
  completedAt h := h₂.completedAt (h₁.completedAt h)
  errorCode h := h₂.errorCode (h₁.errorCode h)
  result h := h₂.result (h₁.result h)

/-- Times do not matter for what is recorded. -/
theorem Recorded.of_untimed {row later seen : Job} (h : Recorded row later)
    (heq : seen.untimed = later.untimed) : Recorded row seen := by
  obtain ⟨-, -, hstarted, hcompleted, hcode, -, hresult⟩ := untimed_eq_iff.mp heq
  constructor
  · rw [hstarted]
    exact h.startedAt
  · rw [hcompleted]
    exact h.completedAt
  · rw [hcode]
    exact h.errorCode
  · rw [hresult]
    exact h.result

theorem isSome_ite {p : Prop} [Decidable p] {time : Date} {o : Option Date} (h : o.isSome) :
    (if p then some time else o).isSome := by
  split
  · rfl
  · exact h

theorem isSome_or {α : Type} {given o : Option α} (h : o.isSome) : (given.or o).isSome := by
  rw [Option.isSome_or, h, Bool.or_true]

/-- Setting a status takes nothing away. -/
theorem recorded_withStatus (row : Job) (now : Date) (args : StatusArgs) (status : JobStatus) :
    Recorded row (row.withStatus now args status) where
  startedAt h := isSome_ite h
  completedAt h := isSome_ite h
  errorCode h := isSome_or h
  result h := isSome_or h

/-! ## Runs in which every write carries the row -/

section
variable {calls : Fin n → Answers × StatusCall} {id : String}

/-- The job is there, with the columns that no call sets. -/
def HasJob (id : String) (job : Job) (jobs : JobTable) : Prop :=
  ∃ row, jobs.find id = some row ∧ row.fixed = job.fixed

theorem hasJob_statusApply (hid : ∀ i, (calls i).2.args.id = .value id) {job : Job} (i : Fin n)
    (read jobs : JobTable) (hread : HasJob id job read) (hjobs : HasJob id job jobs) :
    HasJob id job (statusApply calls i read jobs) := by
  obtain ⟨seen, hseen, hfixed⟩ := hread
  obtain ⟨row, hrow, hfixed'⟩ := hjobs
  exact ⟨_, find_statusApply (hid i) hseen hrow,
    (rowAfter_fixed (hfixed.trans hfixed'.symm)).trans hfixed'⟩

/-- A write that carries the row leaves, but for the times, what it would leave if it had
read the row now. -/
theorem rowView_write (hid : ∀ i, (calls i).2.args.id = .value id) {job : Job}
    {s : System JobTable n} (hcells : Cells (HasJob id job) s) {i : Fin n} {read : JobTable}
    (hread : s.phase i = .pending read) (hcarry : WritesCarryRow calls id s (.write i)) :
    rowView id (statusApply calls i read s.cell) =
      rowView id (statusApply calls i s.cell s.cell) := by
  obtain ⟨seen, hseen, hfixed⟩ := hcells.pending i read hread
  obtain ⟨row, hrow, hfixed'⟩ := hcells.cell
  have hC := hcarry read seen row hread hseen hrow
  unfold rowView
  rw [find_statusApply (hid i) hseen hrow, find_statusApply (hid i) hrow hrow,
    Option.map_some, Option.map_some]
  unfold rowAfter
  cases hstored : storedStatus (calls i) row.status with
  | none => rfl
  | some status =>
    rw [hstored] at hC
    exact congrArg some ((hC rfl).withStatus_untimed (hfixed.trans hfixed'.symm) _ status)

/-- A write that carries the row erases nothing. -/
theorem recorded_step (hid : ∀ i, (calls i).2.args.id = .value id) {job row : Job}
    {s v : System JobTable n} {e : Event n} (hcells : Cells (HasJob id job) s)
    (hrow : s.cell.find id = some row) (hcarry : WritesCarryRow calls id s e)
    (hstep : step (statusApply calls) s e = some v) :
    ∃ later, v.cell.find id = some later ∧ Recorded row later := by
  rcases step_cases hstep with ⟨i, -, -, rfl⟩ | ⟨i, read, rfl, hread, rfl⟩
  · exact ⟨row, hrow, .refl row⟩
  · have hview := rowView_write hid hcells hread hcarry
    unfold rowView at hview
    rw [find_statusApply (hid i) hrow hrow, Option.map_some, Option.map_eq_some_iff] at hview
    obtain ⟨later, hlater, heq⟩ := hview
    refine ⟨later, hlater, .of_untimed ?_ heq⟩
    unfold rowAfter
    cases storedStatus (calls i) row.status with
    | none => exact .refl row
    | some status => exact recorded_withStatus row _ _ status

/-- **Concurrent updates of a job**: in a run in which every write carries the row, once all
calls are done the row is, but for the times in it, the one that the calls leave one after
another in some order; and what the row says at any time to have happened, it says at the
end. -/
theorem status_serializable {store : Store} {job : Job} {es : List (Event n)}
    {s : System JobTable n} (hid : ∀ i, (calls i).2.args.id = .value id)
    (hjob : store.jobs.find id = some job)
    (hrun : run (step (statusApply calls)) (.start store.jobs) es = some s)
    (hdone : ∀ i, s.phase i = .done)
    (hcarry : Along (step (statusApply calls)) (WritesCarryRow calls id)
      (.start store.jobs) es) :
    (∃ order : List (Fin n), order.Perm (List.finRange n) ∧
      rowView id s.cell = rowView id (after store (order.map calls)).jobs) ∧
    ∀ k t row, run (step (statusApply calls)) (.start store.jobs) (es.take k) = some t →
      t.cell.find id = some row → ∃ later, s.cell.find id = some later ∧ Recorded row later := by
  have hstart : Cells (HasJob id job) (.start store.jobs : System JobTable n) :=
    cells_start ⟨job, hjob, rfl⟩
  have hcells : ∀ t e v, Cells (HasJob id job) t → step (statusApply calls) t e = some v →
      Cells (HasJob id job) v := fun t e v => cells_step (hasJob_statusApply hid)
  constructor
  · refine ⟨s.order, (orderInv_run hrun).perm hdone, ?_⟩
    rw [← serial_statusApply]
    refine view_of_unchanged (rowView id) (fun i _ _ => rowView_statusApply (hid i)) ?_ hrun
    refine along_of_inv hstart (fun t e v h _ => hcells t e v h) (fun t e ht hC => ?_) hcarry
    cases e with
    | read i => trivial
    | write i => exact fun read hread => rowView_write hid ht hread hC
  · intro k t row ht hrow
    -- the rest of the run, from what is reached after `k` steps
    rw [← List.take_append_drop k es, run_append, ht] at hrun
    rw [← List.take_append_drop k es, along_append] at hcarry
    have htcells := run_inv hstart hcells ht
    refine (run_inv_along (P := fun v => Cells (HasJob id job) v ∧
        ∃ later, v.cell.find id = some later ∧ Recorded row later)
      ⟨htcells, row, hrow, .refl row⟩ ?_ (hcarry.2 t ht) hrun).2
    rintro v e w ⟨hv, later, hlater, hrec⟩ hC hstep
    obtain ⟨last, hlast, hrec'⟩ := recorded_step hid hv hlater hC hstep
    exact ⟨hcells v e w hv hstep, last, hlast, hrec.trans hrec'⟩

end

/-- A store with one job that waits -/
def oneQueued : Store where
  jobs := Table.empty.put (sampleJob "1" .queued)
  twins := fun _ _ => .undefined

/-- The hub reports that the job has failed, and an operator that it runs. -/
def failedAndRunning : Fin 2 → Answers × StatusCall
  | 0 => (goodAnswers, .processJobResult "hub-001"
      { jobId := .value "1", status := .value "failed", errorCode := .value "E1" })
  | 1 => (goodAnswers, .updateJobStatus { id := .value "1", status := .value "running" })

theorem failedAndRunning_id (i : Fin 2) : (failedAndRunning i).2.args.id = .value "1" := by
  match i with
  | 0 => rfl
  | 1 => rfl

/-- The second call reads after the first has written. -/
theorem failed_then_running :
    ∃ s : System JobTable 2,
      run (step (statusApply failedAndRunning)) (.start oneQueued.jobs)
        [.read 0, .write 0, .read 1, .write 1] = some s ∧
      ((∃ order : List (Fin 2), order.Perm (List.finRange 2) ∧
        rowView "1" s.cell =
          rowView "1" (after oneQueued (order.map failedAndRunning)).jobs) ∧
      ∀ k t row, run (step (statusApply failedAndRunning)) (.start oneQueued.jobs)
          ([.read 0, .write 0, .read 1, .write 1].take k) = some t →
        t.cell.find "1" = some row →
          ∃ later, s.cell.find "1" = some later ∧ Recorded row later) := by
  obtain ⟨s, hrun⟩ : ∃ s : System JobTable 2,
      run (step (statusApply failedAndRunning)) (.start oneQueued.jobs)
        [.read 0, .write 0, .read 1, .write 1] = some s := ⟨_, rfl⟩
  refine ⟨s, hrun, status_serializable failedAndRunning_id rfl hrun ?_ ?_⟩
  · cases hrun
    intro i
    match i with
    | 0 => rfl
    | 1 => rfl
  · -- each call writes to the table that it has read
    have hfresh : ∀ {i : Fin 2} {jobs : JobTable} {phase order},
        phase i = .pending jobs →
        WritesCarryRow failedAndRunning "1" ⟨jobs, phase, order⟩ (.write i) := by
      intro i jobs phase order hphase read job row hread hjob hrow _
      rw [show phase i = .pending read from hread] at hphase
      cases hphase
      rw [show jobs.find "1" = some row from hrow] at hjob
      cases hjob
      exact carriesRow_of_untimed _ rfl
    refine ⟨trivial, fun t ht => ⟨?_, fun t' ht' => ⟨trivial, fun t'' ht'' => ⟨?_, ?_⟩⟩⟩⟩
    · cases ht
      exact hfresh rfl
    · cases ht
      cases ht'
      cases ht''
      exact hfresh rfl
    · exact fun _ _ => trivial

/-- Both calls read the waiting job, then the report that it failed is stored, and then that
it runs: the error code and the time of completion are gone. -/
theorem update_lost :
    ¬ ∀ (n : Nat) (calls : Fin n → Answers × StatusCall) (store : Store) (id : String)
      (job : Job) (es : List (Event n)) (s : System JobTable n),
      (∀ i, (calls i).2.args.id = .value id) → store.jobs.find id = some job →
        run (step (statusApply calls)) (.start store.jobs) es = some s →
        (∀ i, s.phase i = .done) →
        ∃ order : List (Fin n), order.Perm (List.finRange n) ∧
          rowView id s.cell = rowView id (after store (order.map calls)).jobs := by
  intro h
  obtain ⟨s, hrun⟩ : ∃ s : System JobTable 2,
      run (step (statusApply failedAndRunning)) (.start oneQueued.jobs)
        [.read 0, .read 1, .write 0, .write 1] = some s := ⟨_, rfl⟩
  have hdone : ∀ i, s.phase i = .done := by
    cases hrun
    intro i
    match i with
    | 0 => rfl
    | 1 => rfl
  obtain ⟨order, hperm, hrow⟩ := h 2 failedAndRunning oneQueued "1" _ _ s failedAndRunning_id
    rfl hrun hdone
  -- one after another, in either order, the calls leave an error code
  have hcode : (rowView "1" (after oneQueued (order.map failedAndRunning)).jobs).map
      Job.errorCode = some (some "E1") := by
    have hlen : order.length = 2 := hperm.length_eq
    match order, hlen with
    | [0, 0], _ => exact absurd hperm (by decide)
    | [0, 1], _ => rfl
    | [1, 0], _ => rfl
    | [1, 1], _ => exact absurd hperm (by decide)
  rw [← hrow] at hcode
  cases hrun
  exact absurd (Option.some.inj hcode) nofun

end SensorNet.Backend
