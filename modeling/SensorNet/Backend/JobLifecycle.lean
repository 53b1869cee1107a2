import SensorNet.Backend.Jobs
import Mathlib.Data.List.Induction

/-!
# The status of a job over runs

Three methods set the status of a job: `updateJobStatus`, and through it
`processJobResult` and `cancelJob`. None looks at the status that the job has: any
status of the column can follow any other, a finished job not excepted.

`statusOf_after`: after a run of such calls the status of a job is the one that the
last call wrote to it, and it was never another one iff no call wrote another one.
-/

namespace SensorNet.Backend

open SensorNet.Js

/-- A call of a method that sets the status of a job. -/
inductive StatusCall where
  | updateJobStatus (args : StatusArgs)
  | processJobResult (hubId : String) (jobResult : JobResult)
  | cancelJob (id : String)

namespace StatusCall

/-- What the call leaves. -/
def exec (a : Answers) (s : Store) : StatusCall → Store
  | updateJobStatus args => (Backend.updateJobStatus a args s).2
  | processJobResult hubId jobResult => Backend.processJobResult a hubId jobResult s
  | cancelJob id => (Backend.cancelJob a id s).2

/-- The arguments with which the call reaches `updateJobStatus`. -/
def args : StatusCall → StatusArgs
  | updateJobStatus args => args
  | processJobResult _ jobResult => jobResult.args
  | cancelJob id => cancelArgs id

theorem exec_eq (a : Answers) (s : Store) (c : StatusCall) :
    c.exec a s = (Backend.updateJobStatus a c.args s).2 := by
  cases c <;> rfl

end StatusCall

/-- The calls one after another, each with what it gets from outside. -/
def after (s : Store) (calls : List (Answers × StatusCall)) : Store :=
  calls.foldl (fun s c => c.2.exec c.1 s) s

theorem after_snoc (s : Store) (calls : List (Answers × StatusCall))
    (c : Answers × StatusCall) : after s (calls ++ [c]) = c.2.exec c.1 (after s calls) := by
  rw [after, List.foldl_append]
  rfl

/-- The status of the job with the id, if it is stored. -/
def Store.statusOf (s : Store) (id : String) : Option JobStatus :=
  (s.jobs.find id).map Job.status

/-- The status that a call writes to the job with the id: `none` if it is a call on
another job, if the database fails, or if it gives no status of the column's. -/
def written (id : String) (c : Answers × StatusCall) : Option JobStatus :=
  if c.2.args.id = .value id ∧ c.1.findFails = false ∧ c.1.saveFails = false then
    c.2.args.status.writeRequired JobStatus.ofText? none
  else none

/-- The status stored is the one given, or else the one that was there. -/
theorem getD_of_writeRequired {given : Field String} {old new : JobStatus}
    (h : given.writeRequired JobStatus.ofText? (some old) = some new) :
    (given.writeRequired JobStatus.ofText? none).getD old = new := by
  cases given with
  | undefined => exact Option.some.inj h
  | null => cases h
  | value s =>
    have hs : JobStatus.ofText? s = some new := h
    rw [Field.writeRequired, hs, Option.getD_some]

/-- A status that is refused writes nothing. -/
theorem eq_none_of_writeRequired {given : Field String} {old : JobStatus}
    (h : given.writeRequired JobStatus.ofText? (some old) = none) :
    given.writeRequired JobStatus.ofText? none = none := by
  cases given with
  | undefined => cases h
  | null => rfl
  | value s => exact h

/-- A call on the job with the id `named` writes nothing to another job. -/
theorem written_of_ne {a : Answers} {c : StatusCall} {named id : String}
    (hnamed : c.args.id = .value named) (hne : id ≠ named) : written id (a, c) = none := by
  rw [written, if_neg]
  rintro ⟨hid, -⟩
  rw [hnamed, Field.value.injEq] at hid
  exact hne hid.symm

/-- A call that the database refuses writes nothing. -/
theorem written_of_refused {a : Answers} {c : StatusCall} {s : Store} {id : String}
    (h : a.findFails = true ∨ a.saveFails = true ∨
      ∃ job, findOne a c.args.id s.jobs = .ok (some job) ∧
        c.args.status.writeRequired JobStatus.ofText? (some job.status) = none) :
    written id (a, c) = none := by
  rw [written]
  split
  · next hok =>
    rcases h with hfind | hsave | ⟨job, -, hstatus⟩
    · rw [hok.2.1] at hfind
      cases hfind
    · rw [hok.2.2] at hsave
      cases hsave
    · exact eq_none_of_writeRequired hstatus
  · rfl

/-- One call on a job named by its id: the status of each job is then what the call
wrote to it, or what it was. -/
theorem statusOf_step {a : Answers} {c : StatusCall} {s : Store} {named id : String}
    (hnamed : c.args.id = .value named) :
    (c.exec a s).statusOf id =
      (s.statusOf id).map fun status => (written id (a, c)).getD status := by
  rw [StatusCall.exec_eq]
  by_cases hid : id = named
  · subst hid
    rcases updateJobStatus_cases a c.args s with
      ⟨hfound, h⟩ | ⟨hfails, h⟩ | ⟨job, row, saved, hfound, hsave, hrow, -, hstatus, h⟩
    · -- no such job: none has a status, before or after
      rw [hnamed] at hfound
      rw [h, Store.statusOf, findOne_value_ok hfound]
      rfl
    · -- the call fails, and has written nothing
      rw [h, written_of_refused hfails]
      cases s.statusOf id <;> rfl
    · -- the job that it names is stored with the status given
      obtain ⟨hfind, hjob⟩ := findOne_ok hfound
      rw [hnamed] at hfound
      have hkey := (Table.find_eq_some_iff.mp (findOne_value_ok hfound)).2
      rw [hkey] at hjob hrow
      rw [h, Store.statusOf, Store.statusOf, hjob, ← hrow, Table.find_put_self]
      rw [hrow, written, if_pos ⟨hnamed, hfind, hsave⟩]
      simp only [Option.map_some]
      rw [getD_of_writeRequired hstatus]
  · -- a call leaves the jobs that it does not name
    rw [written_of_ne hnamed hid, Store.statusOf, updateJobStatus_find_of_ne hnamed hid,
      Store.statusOf]
    cases s.jobs.find id <;> rfl

/-- Each call names the job it is on. -/
def Named (calls : List (Answers × StatusCall)) : Prop :=
  ∀ c ∈ calls, ∃ id, c.2.args.id = .value id

/-- The status after a run: the last one written, or what it was. -/
theorem statusOf_run {calls : List (Answers × StatusCall)} (hnamed : Named calls)
    (s : Store) (id : String) :
    (after s calls).statusOf id = (s.statusOf id).map fun status =>
      (calls.filterMap (written id)).getLast?.getD status := by
  induction calls using List.reverseRecOn with
  | nil =>
    show s.statusOf id = _
    cases s.statusOf id <;> rfl
  | append_singleton calls c ih =>
    obtain ⟨named, hc⟩ := hnamed c (by simp)
    rw [after_snoc, statusOf_step hc, ih fun d hd => hnamed d (by simp [hd]), Option.map_map,
      List.filterMap_append]
    congr 1
    funext status
    show (written id c).getD _ = _
    cases hw : written id c with
    | none => simp [hw]
    | some new => simp [hw]

/-- **The last call decides**: after a run of calls the status of a job is the one that
the last call wrote to it; and throughout the run it is the one it was at first, finished
or not, iff no call writes another one. -/
theorem statusOf_after {calls : List (Answers × StatusCall)} {s : Store} {id : String}
    {status : JobStatus} (hnamed : Named calls) (hstatus : s.statusOf id = some status) :
    (after s calls).statusOf id =
        some ((calls.filterMap (written id)).getLast?.getD status) ∧
      ((∀ k, (after s (calls.take k)).statusOf id = some status) ↔
        ∀ c ∈ calls, ∀ new, written id c = some new → new = status) := by
  have hrun : ∀ run, (∀ c ∈ run, c ∈ calls) → (after s run).statusOf id =
      some ((run.filterMap (written id)).getLast?.getD status) := by
    intro run hsub
    rw [statusOf_run (fun c hc => hnamed c (hsub c hc)), hstatus, Option.map_some]
  refine ⟨hrun calls fun _ hc => hc, ?_, ?_⟩
  · intro hkept c hc new hnew
    -- the run up to this call
    obtain ⟨before, rest, rfl⟩ := List.append_of_mem hc
    have hk := hkept (before.length + 1)
    have htake : (before ++ c :: rest).take (before.length + 1) = before ++ [c] := by
      rw [List.take_append, List.take_of_length_le (Nat.le_succ _)]
      simp
    rw [htake, hrun _ (by simp +contextual [or_imp]), List.filterMap_append] at hk
    simpa [hnew] using hk
  · intro hall k
    rw [hrun _ fun c hc => List.mem_of_mem_take hc]
    cases hlast : ((calls.take k).filterMap (written id)).getLast? with
    | none => rfl
    | some new =>
      obtain ⟨c, hc, hnew⟩ := List.mem_filterMap.mp (List.mem_of_getLast? hlast)
      rw [Option.getD_some, hall c (List.mem_of_mem_take hc) new hnew]

/-- A row for a configuration job on one hub. -/
def sampleJob (id : String) (status : JobStatus) : Job where
  id
  type := .pushNodeConfig
  hubId := some "hub-001"
  nodeId := some "AA:BB:CC:DD:EE:FF"
  payload := none
  status
  startedAt := none
  completedAt := none
  timeoutSeconds := some 300
  errorCode := none
  errorMessage := none
  result := none
  createdBy := some "user-123"
  createdAt := 0
  updatedAt := 0

/-- A store with one cancelled job. -/
def oneCancelled : Store where
  jobs := Table.empty.put (sampleJob "1" .cancelled)
  twins := fun _ _ => .undefined

/-- Answers of a database and an IoT Hub that do not fail. -/
def goodAnswers : Answers := { now := 7, uuid := "2" }

/-- A late report of the hub. -/
def lateReport : List (Answers × StatusCall) :=
  [(goodAnswers,
    .processJobResult "hub-001" { jobId := .value "1", status := .value "succeeded" })]

/-- The job is cancelled once more, the late report comes, another job is to run, and at last
the database does not take it that the job is to run again. -/
def cancelledAndReported : List (Answers × StatusCall) :=
  (goodAnswers, .cancelJob "1") :: lateReport ++
    [(goodAnswers, .updateJobStatus { id := .value "2", status := .value "running" }),
      ({ goodAnswers with saveFails := true },
        .updateJobStatus { id := .value "1", status := .value "running" })]

/-- The report decides: the job has succeeded in the end. -/
theorem report_decides :
    (cancelledAndReported.filterMap (written "1")).getLast?.getD .cancelled = .succeeded ∧
      (after oneCancelled cancelledAndReported).statusOf "1" =
        some ((cancelledAndReported.filterMap (written "1")).getLast?.getD .cancelled) ∧
      ((∀ k, (after oneCancelled (cancelledAndReported.take k)).statusOf "1" =
          some .cancelled) ↔
        ∀ c ∈ cancelledAndReported, ∀ new, written "1" c = some new → new = .cancelled) := by
  have hnamed : Named cancelledAndReported := by
    unfold Named cancelledAndReported lateReport
    simp only [List.cons_append, List.nil_append, List.forall_mem_cons]
    exact ⟨⟨_, rfl⟩, ⟨_, rfl⟩, ⟨_, rfl⟩, ⟨_, rfl⟩, List.forall_mem_nil _⟩
  have hstatus : oneCancelled.statusOf "1" = some .cancelled := rfl
  exact ⟨by decide, statusOf_after hnamed hstatus⟩

/-- A report that comes late turns a cancelled job into one that has succeeded. -/
theorem cancelled_job_revived :
    ¬ ∀ (s : Store) (id : String) (status : JobStatus) (calls : List (Answers × StatusCall)),
      s.statusOf id = some status → status.finished = true →
      (∀ c ∈ calls, c.2.args.id = .value id) → (after s calls).statusOf id = some status := by
  intro h
  have hon : ∀ c ∈ lateReport, c.2.args.id = .value "1" := by
    intro c hc
    rw [lateReport, List.mem_singleton] at hc
    rw [hc]
    rfl
  have hlate : some JobStatus.succeeded = some .cancelled :=
    h oneCancelled "1" .cancelled lateReport rfl rfl hon
  cases hlate

end SensorNet.Backend
