import SensorNet.Backend.JobIsolation

/-!
# Job results that are delivered again

Reported properties of a twin persist, so `processJobResult` gets the same result many
times. `updateJobStatus` takes care of that for `startedAt`, which it sets once, but it
sets `completedAt` whenever the job is said to have succeeded, failed or timed out.

A result without an id is for whatever job the query gives, so the second delivery may come
to another job than the first one.

- `statusUpdate_again`: what a second delivery stores, for every store and result.
- `processJobResult_idempotent_iff`: it leaves what the first one did, `updatedAt` apart,
  iff nothing is stored, or the second delivery meets `ChangesNothing`.
-/

namespace SensorNet.Backend

open SensorNet.Js

variable {a : Answers} {s : Store} {args : StatusArgs} {job row : Job} {t₁ t₂ : Date}

/-! ## Setting a status twice -/

/-- A job as it is apart from `updatedAt` -/
def Job.undated (job : Job) : Job := { job with updatedAt := 0 }

/-- The stores are the same except for `updatedAt`. -/
def SameButUpdated (s s' : Store) : Prop :=
  s.jobs.rows.map Job.undated = s'.jobs.rows.map Job.undated ∧ s.twins = s'.twins

/-- A value that is set again where it has been set -/
theorem or_or_self {α : Type} (o old : Option α) : o.or (o.or old) = o.or old := by
  cases o <;> rfl

/-- The second of two equal settings of the status is the only one that `completedAt` and
`updatedAt` know of, and the first one the only one that `startedAt` does. -/
theorem withStatus_withStatus (job : Job) (t₁ t₂ : Date) (args : StatusArgs)
    (status : JobStatus) :
    (job.withStatus t₁ args status).withStatus t₂ args status =
      { job.withStatus t₁ args status with
        updatedAt := t₂
        completedAt := if args.Completes then some t₂ else job.completedAt } := by
  simp only [Job.withStatus, or_or_self, Job.mk.injEq, true_and, and_true]
  constructor
  · by_cases hrunning : args.status = .value "running"
    · rw [if_pos hrunning, if_pos hrunning, Option.getD_some]
    · rw [if_neg hrunning, if_neg hrunning]
  · by_cases hcomp : args.Completes
    · rw [if_pos hcomp, if_pos hcomp]
    · rw [if_neg hcomp, if_neg hcomp, if_neg hcomp]

/-- The row is as it was, `updatedAt` apart, iff it is not completed at another time. -/
theorem undated_withStatus_iff (job : Job) (args : StatusArgs) (status : JobStatus) :
    ((job.withStatus t₁ args status).withStatus t₂ args status).undated =
        (job.withStatus t₁ args status).undated ↔
      (args.Completes → t₁ = t₂) := by
  rw [withStatus_withStatus]
  constructor
  · intro h hcomp
    have hcompleted : (if args.Completes then some t₂ else job.completedAt) =
        if args.Completes then some t₁ else job.completedAt := congrArg Job.completedAt h
    rw [if_pos hcomp, if_pos hcomp] at hcompleted
    exact (Option.some.inj hcompleted).symm
  · intro h
    have hsame : (if args.Completes then some t₂ else job.completedAt) =
        (job.withStatus t₁ args status).completedAt := by
      by_cases hcomp : args.Completes
      · rw [if_pos hcomp, ← h hcomp]
        exact (if_pos hcomp).symm
      · rw [if_neg hcomp]
        exact (if_neg hcomp).symm
    rw [hsame]
    rfl

/-! ## The second delivery -/

/-- What a second delivery gets from outside: another time, and without an id another row -/
def Answers.again (a : Answers) (now : Date) (place : Nat) : Answers :=
  { a with now, anyRow := place }

/-- After a job has been stored again, a lookup gives what it gave before, or the new row of
this job. -/
theorem foundRow_put {place : Nat} {id : Field String} {jobs : JobTable}
    (hold : jobs.find row.id = some job) :
    foundRow place id (jobs.put row) =
      (foundRow place id jobs).map fun other => if other.id = row.id then row else other := by
  have hkey := (Table.find_eq_some_iff.mp hold).2
  unfold foundRow
  split
  · next id =>
    by_cases hid : id = row.id
    · rw [hid, Table.find_put_self, hold, Option.map_some, if_pos hkey]
    · rw [Table.find_put_of_ne hid]
      cases hfind : jobs.find id with
      | none => rfl
      | some other =>
        rw [Option.map_some, if_neg]
        rw [(Table.find_eq_some_iff.mp hfind).2]
        exact hid
  · rw [Table.length_put hold, Table.getElem?_put hold]

/-- What `statusUpdate` gives where the database does not fail -/
theorem statusUpdate_of_found (hfails : a.findFails = false) (hsave : a.saveFails = false)
    (hfound : foundRow a.anyRow args.id s.jobs = some job) :
    statusUpdate a args s =
      (args.status.writeRequired JobStatus.ofText? (some job.status)).map (job, ·) := by
  have hok := findOne_eq_ok_iff.mpr ⟨hfails, hfound⟩
  simp only [statusUpdate, hok, hsave, Bool.false_eq_true, if_false]

/-- Whether a status is accepted does not depend on the one that is there. -/
theorem writeRequired_isSome (given : Field String) (old new : JobStatus) :
    (given.writeRequired JobStatus.ofText? (some old)).isSome =
      (given.writeRequired JobStatus.ofText? (some new)).isSome := by
  cases given <;> rfl

/-- Without an id a lookup in a table gives a row wherever it looks, and with an id the same
one. -/
theorem foundRow_isSome {place : Nat} {id : Field String} {jobs : JobTable}
    (h : (foundRow place id jobs).isSome) (other : Nat) : (foundRow other id jobs).isSome := by
  unfold foundRow at h ⊢
  split at h
  · exact h
  · have hpos : 0 < jobs.rows.length := by
      by_contra hzero
      have hnil := List.length_eq_zero_iff.mp (Nat.eq_zero_of_not_pos hzero)
      rw [hnil] at h
      cases h
    exact Option.isSome_iff_exists.mpr
      ⟨_, List.getElem?_eq_getElem (Nat.mod_lt other hpos)⟩

/-- Where the first delivery stores nothing, the second one does not either. -/
theorem statusUpdate_again_none (h : statusUpdate a args s = none) (t : Date) (place : Nat) :
    statusUpdate (a.again t place) args s = none := by
  by_contra hne
  obtain ⟨⟨other, status⟩, hagain⟩ := Option.ne_none_iff_exists'.mp hne
  obtain ⟨hfound, hsave, hstatus⟩ := statusUpdate_eq_some hagain
  obtain ⟨hfails, hrow⟩ := findOne_eq_ok_iff.mp hfound
  obtain ⟨job, hjob⟩ := Option.isSome_iff_exists.mp
    (foundRow_isSome (Option.isSome_iff_exists.mpr ⟨other, hrow⟩) a.anyRow)
  have hfirst := statusUpdate_of_found (a := a) hfails hsave hjob
  rw [h, eq_comm, Option.map_eq_none_iff] at hfirst
  have haccepted := writeRequired_isSome args.status job.status other.status
  rw [hfirst, hstatus] at haccepted
  cases haccepted

/-- What a second delivery stores: the job that the lookup gives, as it was, or as the first
delivery left it, with the status set. -/
theorem statusUpdate_again {other : Job} {status : JobStatus} {place : Nat}
    (h : statusUpdate a args s = some (job, status))
    (hother : foundRow place args.id s.jobs = some other) :
    statusUpdate (a.again t₂ place) args
        { s with jobs := s.jobs.put (job.withStatus t₁ args status) } =
      if other.id = job.id then some (job.withStatus t₁ args status, status)
      else (args.status.writeRequired JobStatus.ofText? (some other.status)).map (other, ·) := by
  obtain ⟨hfound, hsave, hstatus⟩ := statusUpdate_eq_some h
  obtain ⟨hfails, hjob⟩ := findOne_ok hfound
  have hold : s.jobs.find (job.withStatus t₁ args status).id = some job := hjob
  -- in the new table the lookup gives the row of the first delivery, or another as it was
  have hput : foundRow place args.id (s.jobs.put (job.withStatus t₁ args status)) =
      some (if other.id = job.id then job.withStatus t₁ args status else other) := by
    rw [foundRow_put hold, hother]
    rfl
  have hagain := statusUpdate_of_found (a := a.again t₂ place)
    (s := { s with jobs := s.jobs.put (job.withStatus t₁ args status) }) hfails hsave hput
  rw [hagain]
  split
  · -- the status that is there is the one given, if one is given
    have hstays : args.status.writeRequired JobStatus.ofText?
        (some (job.withStatus t₁ args status).status) = some status := by
      cases hgiven : args.status with
      | undefined => rfl
      | null =>
        rw [hgiven] at hstatus
        cases hstatus
      | value text =>
        rw [hgiven] at hstatus
        exact hstatus
    rw [hstays, Option.map_some]
  · rfl

/-- The second delivery, at `t₂`, changes nothing but `updatedAt`:
1. if it comes to the job that the first one, at `t₁`, came to, it comes at the same time, or its
   status is not one that completes a job;
2. if it comes to another job, its status is refused, or all that it says of this job is
   there. -/
structure ChangesNothing (t₁ t₂ : Date) (args : StatusArgs) (job other : Job) : Prop where
  same : other = job → t₁ = t₂ ∨ ¬ args.Completes
  another : other ≠ job → ∀ status,
    args.status.writeRequired JobStatus.ofText? (some other.status) = some status →
      NothingNew t₂ args status { other with updatedAt := t₂ }

/-- To the same job, all that counts is the time of completion. -/
theorem changesNothing_self_iff :
    ChangesNothing t₁ t₂ args job job ↔ (args.Completes → t₁ = t₂) := by
  constructor
  · intro h hcomp
    exact (h.same rfl).resolve_right (not_not_intro hcomp)
  · intro h
    refine ⟨fun _ => ?_, fun hne => absurd rfl hne⟩
    by_cases hcomp : args.Completes
    · exact .inl (h hcomp)
    · exact .inr hcomp

/-- To another job, all that counts is what is said of it. -/
theorem changesNothing_other_iff {other : Job} (hne : other ≠ job) :
    ChangesNothing t₁ t₂ args job other ↔ ∀ status,
      args.status.writeRequired JobStatus.ofText? (some other.status) = some status →
        NothingNew t₂ args status { other with updatedAt := t₂ } :=
  ⟨fun h => h.another hne, fun h => ⟨fun heq => absurd heq hne, fun _ => h⟩⟩

/-- A status that completes a job is accepted. -/
theorem StatusArgs.Completes.accepted (h : args.Completes) (old : JobStatus) :
    (args.status.writeRequired JobStatus.ofText? (some old)).isSome := by
  rcases h with h | h | h <;> rw [h] <;> rfl

/-- A status that is refused once is refused again, and does not complete a job. -/
theorem changesNothing_of_refused {other : Job}
    (h : args.status.writeRequired JobStatus.ofText? (some job.status) = none) :
    ChangesNothing t₁ t₂ args job other where
  same _ := by
    refine .inr fun hcomp => ?_
    have haccepted := hcomp.accepted job.status
    rw [h] at haccepted
    cases haccepted
  another _ status hstatus := by
    have haccepted := writeRequired_isSome args.status job.status other.status
    rw [h, hstatus] at haccepted
    cases haccepted

/-- The row is as it was, `updatedAt` apart, iff all that is said of it is there. -/
theorem undated_eq_iff {other : Job} {status : JobStatus} :
    (other.withStatus t₂ args status).undated = other.undated ↔
      NothingNew t₂ args status { other with updatedAt := t₂ } := by
  rw [← withStatus_eq_self_iff]
  constructor
  · intro h
    exact congrArg (fun job : Job => { job with updatedAt := t₂ }) h
  · intro h
    have hundated := congrArg Job.undated h
    exact hundated

/-- A store in which one row is stored again is the same, `updatedAt` apart, iff this row is. -/
theorem sameButUpdated_put_iff {old : Job} (hold : s.jobs.find row.id = some old) :
    SameButUpdated { s with jobs := s.jobs.put row } s ↔ row.undated = old.undated :=
  (and_iff_left rfl).trans (Table.map_put_eq_iff hold)

/-- **Idempotence**: a result that is processed at `t₁` and again at `t₂` leaves the store that
it leaves when it is processed once, at `t₁`, `updatedAt` apart, iff the database refuses to
save, or the first lookup finds no job, or the second delivery changes nothing of the job that
the second lookup finds. -/
theorem processJobResult_idempotent_iff (a : Answers) (hubId : String) (r : JobResult)
    (s : Store) (t₁ t₂ : Date) (place : Nat) :
    SameButUpdated
        (processJobResult (a.again t₂ place) hubId r
          (processJobResult { a with now := t₁ } hubId r s))
        (processJobResult { a with now := t₁ } hubId r s) ↔
      a.saveFails = true ∨ ∀ job other, findOne a r.jobId s.jobs = .ok (some job) →
        foundRow place r.jobId s.jobs = some other → ChangesNothing t₁ t₂ r.args job other := by
  unfold processJobResult
  rw [updateJobStatus_store { a with now := t₁ }]
  cases hupdate : statusUpdate a r.args s with
  | none =>
    -- nothing is stored, now or then
    rw [show statusUpdate { a with now := t₁ } r.args s = none from hupdate]
    dsimp only
    rw [updateJobStatus_store, statusUpdate_again_none hupdate]
    refine iff_of_true ⟨rfl, rfl⟩ (or_iff_not_imp_left.mpr fun hsave job other hjob _ => ?_)
    obtain ⟨hfails, hrow⟩ := findOne_eq_ok_iff.mp hjob
    rw [statusUpdate_of_found hfails (Bool.eq_false_iff.mpr hsave) hrow,
      Option.map_eq_none_iff] at hupdate
    exact changesNothing_of_refused hupdate
  | some update =>
    obtain ⟨job, status⟩ := update
    rw [show statusUpdate { a with now := t₁ } r.args s = some (job, status) from hupdate]
    dsimp only
    obtain ⟨hfound, hsave, -⟩ := statusUpdate_eq_some hupdate
    have hrow := (findOne_eq_ok_iff.mp hfound).2
    obtain ⟨-, hjob⟩ := findOne_ok hfound
    obtain ⟨other, hother⟩ := Option.isSome_iff_exists.mp
      (foundRow_isSome (Option.isSome_iff_exists.mpr ⟨job, hrow⟩) place)
    have hcond : (a.saveFails = true ∨ ∀ job other, findOne a r.jobId s.jobs = .ok (some job) →
        foundRow place r.jobId s.jobs = some other → ChangesNothing t₁ t₂ r.args job other) ↔
          ChangesNothing t₁ t₂ r.args job other := by
      have hfound' : findOne a r.jobId s.jobs = .ok (some job) := hfound
      have hother' : foundRow place r.jobId s.jobs = some other := hother
      simp [hsave, hfound', hother']
    rw [hcond, updateJobStatus_store, statusUpdate_again hupdate hother]
    by_cases hsame : other.id = job.id
    · -- the second delivery comes to the row that the first one left
      obtain rfl : other = job := s.jobs.eq_of_key_eq (foundRow_mem hother)
        (Table.find_eq_some_iff.mp hjob).1 hsame
      rw [if_pos rfl, changesNothing_self_iff, ← undated_withStatus_iff other r.args status]
      exact sameButUpdated_put_iff (Table.find_put_self s.jobs (other.withStatus t₁ r.args status))
    · -- it comes to a row that the first one left alone
      have hdiffers : other.id ≠ (job.withStatus t₁ r.args status).id := hsame
      have hkept : (s.jobs.put (job.withStatus t₁ r.args status)).find other.id = some other :=
        (Table.find_put_of_ne hdiffers).trans
          (Table.find_eq_some_iff.mpr ⟨foundRow_mem hother, rfl⟩)
      rw [if_neg hsame, changesNothing_other_iff fun h => hsame (congrArg Job.id h)]
      cases hwritten : r.args.status.writeRequired JobStatus.ofText? (some other.status) with
      | none => exact iff_of_true ⟨rfl, rfl⟩ nofun
      | some given =>
        refine (sameButUpdated_put_iff hkept).trans (undated_eq_iff.trans ?_)
        simp only [Option.some.injEq, forall_eq']
        exact Iff.rfl

/-- The report that the job has succeeded -/
def succeededReport : JobResult := { jobId := .value "1", status := .value "succeeded" }

/-- A report that is delivered twice gives the job another time of completion. -/
theorem completedAt_overwritten :
    ¬ ∀ (a : Answers) (hubId : String) (r : JobResult) (s : Store) (t₁ t₂ : Date)
      (status : JobStatus), status.finished = true → r.status = .value status.text → t₁ ≤ t₂ →
      SameButUpdated
        (processJobResult { a with now := t₂ } hubId r
          (processJobResult { a with now := t₁ } hubId r s))
        (processJobResult { a with now := t₁ } hubId r s) := by
  intro h
  have hsame := h goodAnswers "hub-001" succeededReport oneRunning 7 8 .succeeded rfl rfl
    (by decide)
  -- the job was completed at 7, and now at 8
  have hcompleted : [some 8] = [some 7] := congrArg (List.map Job.completedAt) hsame.1
  exact absurd hcompleted (by decide)

end SensorNet.Backend
