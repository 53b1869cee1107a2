import SensorNet.Backend.TwinConcurrency
import SensorNet.Backend.TwinEdits
import SensorNet.Lib.Lineage

/-!
# Which jobs reach a hub under concurrent updates of its twin

Every update of a twin sends back the list of the jobs that it has read: `addJobToTwin` with one
job more, `updateTopologyMapping` and `updateHubPolicies` as it was (if there was none, they
send none). So a job is on the twin only as long as who writes has read it there.

`twin_lineage`: after every interleaving of updates of one twin, its jobs are those that were
there first, and those added in the lineage of the twin (`SensorNet.Lib.Lineage`), in the order
of the writes. When `addJobToTwin` writes, the jobs that were added since it read the twin are
lost, though none of the calls fails. They come back if a call writes later that has read them.
-/

namespace SensorNet.Backend

open SensorNet.Js SensorNet.Snapshot

variable {n : Nat}

/-- What an update does to the list of the jobs -/
def jobsManner (calls : Fin n → TwinCall) (i : Fin n) (read : Desired) : Manner :=
  match (calls i).job?, read "jobs" with
  | none, .undefined => .idle
  | _, _ => .putsBack

theorem jobsOf_congr {desired desired' : Desired} (h : desired "jobs" = desired' "jobs") :
    jobsOf desired = jobsOf desired' := by
  rw [jobsOf, currentJobs, h]
  rfl

section
variable {calls : Fin n → TwinCall} {i : Fin n}

/-- An update that has read no list, and adds no job, leaves the list. -/
theorem jobs_of_idle {read desired : Desired} (h : jobsManner calls i read = .idle) :
    twinApply calls i read desired "jobs" = desired "jobs" := by
  have hmeta : Json.isMeta "jobs" = false := by decide
  unfold jobsManner at h
  split at h
  · next hjob hnone =>
    unfold twinApply
    cases hcall : calls i with
    | addJob job =>
      rw [hcall] at hjob
      cases hjob
    | topology siteId nodeMappings =>
      simp [TwinCall.apply, TwinCall.sends, updateTopologyMapping, updateTwin, hmeta, hnone]
    | policies value =>
      simp [TwinCall.apply, TwinCall.sends, updateHubPolicies, updateTwin, hmeta, hnone]
  · cases h

/-- Every other update leaves the list that it has read, with its job behind it. -/
theorem jobs_of_putsBack {read desired : Desired} {jobs : List Json}
    (hlists : ListsJobs read jobs) (h : jobsManner calls i read = .putsBack) :
    twinApply calls i read desired "jobs" = .arr (jobs ++ (calls i).job?.toList) := by
  have hmeta : Json.isMeta "jobs" = false := by decide
  -- what is read is a list, unless the update adds a job
  have hread : (calls i).job? = none → read "jobs" = .arr jobs := by
    intro hnone
    rcases hlists with harr | ⟨hundefined, -⟩
    · exact harr
    · rw [jobsManner, hnone, hundefined] at h
      cases h
  unfold twinApply
  cases hcall : calls i with
  | addJob job =>
    simp [TwinCall.apply, TwinCall.sends, addJobToTwin_eq job hlists.jobsOf_eq, updateTwin, hmeta,
      TwinCall.job?]
  | topology siteId nodeMappings =>
    rw [hcall] at hread
    simp [TwinCall.apply, TwinCall.sends, updateTopologyMapping, updateTwin, hmeta,
      hread rfl, TwinCall.job?]
  | policies value =>
    rw [hcall] at hread
    simp [TwinCall.apply, TwinCall.sends, updateHubPolicies, updateTwin, hmeta,
      hread rfl, TwinCall.job?]

theorem jobsManner_cases (calls : Fin n → TwinCall) (i : Fin n) (read : Desired) :
    jobsManner calls i read = .idle ∨ jobsManner calls i read = .putsBack := by
  unfold jobsManner
  split
  · exact .inl rfl
  · exact .inr rfl

/-- In the view of the jobs, the updates write as `jobsManner` says. -/
theorem twin_writesAs (calls : Fin n → TwinCall) :
    WritesAs jobsOf (fun desired => ∃ jobs, ListsJobs desired jobs) (twinApply calls)
      (jobsManner calls) where
  keeps i read desired hread hdesired := by
    obtain ⟨jobs, hjobs⟩ := hdesired
    obtain ⟨jobs', hjobs'⟩ := hread
    rcases jobsManner_cases calls i read with hidle | hback
    · refine ⟨jobs, ?_⟩
      unfold ListsJobs
      rw [jobs_of_idle hidle]
      exact hjobs
    · exact ⟨_, .inl (jobs_of_putsBack hjobs' hback)⟩
  alone i desired desired' hdesired hdesired' hsame := by
    obtain ⟨jobs, hjobs⟩ := hdesired
    have hsame' : jobsOf desired' = some jobs := hsame.symm.trans hjobs.jobsOf_eq
    exact (jobsOf_apply hjobs.jobsOf_eq).trans (jobsOf_apply hsame').symm
  idle i read desired _ _ hidle := jobsOf_congr (jobs_of_idle hidle)
  inPlace i read desired _ _ hplace := by
    -- no update changes the list in place
    rcases jobsManner_cases calls i read with hidle | hback
    · rw [hidle] at hplace
      cases hplace
    · rw [hback] at hplace
      cases hplace
  putsBack i read desired hread _ hback := by
    obtain ⟨jobs, hjobs⟩ := hread
    exact jobsOf_congr
      ((jobs_of_putsBack hjobs hback).trans (jobs_of_putsBack hjobs hback).symm)

end

/-- An update that adds a job puts back the list that it has read. -/
theorem jobsManner_addJob {calls : Fin n → TwinCall} {i : Fin n} {job : Json}
    (hcall : calls i = .addJob job) (read : Desired) : jobsManner calls i read = .putsBack := by
  rw [jobsManner, hcall]
  rfl

/-- **Which jobs reach the hub**: after every interleaving of updates of its twin,
1. the jobs are those that were there first, and those added in the lineage of the twin,
2. in the order of the writes;
3. if the run ends with a job being added, the jobs that were added since this update read the
twin are not among them. -/
theorem twin_lineage {calls : Fin n → TwinCall} {desired : Desired} {jobs : List Json}
    {es : List (Event n)} {s : System Desired n} (hlists : ListsJobs desired jobs)
    (hrun : run (step (twinApply calls)) (.start desired) es = some s) :
    jobsOf s.cell = some (jobs ++
        (lineage (twinApply calls) (jobsManner calls) desired es).filterMap fun i =>
          (calls i).job?) ∧
      (lineage (twinApply calls) (jobsManner calls) desired es).Sublist s.order ∧
      ∀ es₁ es₂ i job, es = es₁ ++ .read i :: es₂ ++ [.write i] → calls i = .addJob job →
        ∀ j, .write j ∈ es₂ → j ∉ lineage (twinApply calls) (jobsManner calls) desired es := by
  refine ⟨?_, lineage_sublist hrun, ?_⟩
  · rw [view_lineage (twin_writesAs calls) ⟨jobs, hlists⟩ hrun]
    exact jobsOf_serial hlists.jobsOf_eq _
  · rintro es₁ es₂ i job rfl hcall j hj
    have hbefore := hrun
    rw [List.append_assoc, run_append] at hbefore
    obtain ⟨t, ht, -⟩ := Option.bind_eq_some_iff.mp hbefore
    exact not_mem_lineage ht hrun (jobsManner_addJob hcall t.cell) hj

/-- Of two jobs that are added at the same time, the first is lost. -/
theorem overlapping_lineage :
    ∃ s : System Desired 2,
      run (step (twinApply twoJobs)) (.start emptyTwin) overlapping = some s ∧
      lineage (twinApply twoJobs) (jobsManner twoJobs) emptyTwin overlapping = [1] ∧
      (jobsOf s.cell = some ([] ++
          (lineage (twinApply twoJobs) (jobsManner twoJobs) emptyTwin overlapping).filterMap
            fun i => (twoJobs i).job?) ∧
        (lineage (twinApply twoJobs) (jobsManner twoJobs) emptyTwin overlapping).Sublist s.order ∧
        ∀ es₁ es₂ i job, overlapping = es₁ ++ .read i :: es₂ ++ [.write i] →
          twoJobs i = .addJob job → ∀ j, .write j ∈ es₂ →
            j ∉ lineage (twinApply twoJobs) (jobsManner twoJobs) emptyTwin overlapping) := by
  obtain ⟨s, hrun⟩ : ∃ s,
      run (step (twinApply twoJobs)) (.start emptyTwin) overlapping = some s := ⟨_, rfl⟩
  exact ⟨s, hrun, rfl, twin_lineage (.inr ⟨rfl, rfl⟩) hrun⟩

end SensorNet.Backend
