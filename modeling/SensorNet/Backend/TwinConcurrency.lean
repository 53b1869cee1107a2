import SensorNet.Backend.IotHub
import SensorNet.Lib.Snapshot

/-!
# Concurrent updates of one device twin

Calls of `addJobToTwin`, `updateTopologyMapping` and `updateHubPolicies` on one
device are transactions that read the twin and write it without a check
(`SensorNet.Lib.Snapshot`). Every call sends back all properties it read, so a
write that comes late puts old values back.

`CarriesCurrent` says when it does not: putting back the properties it read, other
than the one it is about, changes nothing, and a new job is appended to the
current list. `twin_serializable`: in runs in which every write is so, the
calls have the effect of running one after another, and no job is lost.
-/

namespace SensorNet.Backend

open SensorNet.Js SensorNet.Snapshot

variable {n : Nat}

/-- The calls as transactions on the desired properties. -/
def twinApply (calls : Fin n → TwinCall) (i : Fin n) : Desired → Desired → Desired :=
  (calls i).apply

/-- The call, writing now, carries nothing stale:
1. each other property it read can be merged back without effect (it is still what
   it was, or an object to which members were added);
2. the jobs a new job is appended to are the current ones. -/
structure CarriesCurrent (call : TwinCall) (read desired : Desired) : Prop where
  others : ∀ name, name ≠ call.sets → Json.isMeta name = false →
    (desired name).merge (read name) = desired name
  jobs : call.job?.isSome = true → currentJobs read = currentJobs desired

/-- Every write carries nothing stale. -/
def NothingStale (calls : Fin n → TwinCall) (s : System Desired n) : Event n → Prop
  | .read _ => True
  | .write i => ∀ read, s.phase i = .pending read → CarriesCurrent (calls i) read s.cell

/-- An update leaves what it would leave if the other properties had just been read,
when putting them back has no effect. -/
theorem updateTwin_congr {read desired : Desired} {name : String} {value : Json}
    (h : ∀ other, other ≠ name → Json.isMeta other = false →
      (desired other).merge (read other) = desired other) :
    updateTwin desired (Function.update read name value) =
      updateTwin desired (Function.update desired name value) := by
  funext other
  rw [updateTwin, updateTwin]
  by_cases hmeta : Json.isMeta other = true
  · rw [if_pos hmeta, if_pos hmeta]
  · rw [if_neg hmeta, if_neg hmeta]
    by_cases hname : other = name
    · subst hname
      rw [Function.update_self, Function.update_self]
    · rw [Function.update_of_ne hname, Function.update_of_ne hname, Json.merge_self]
      exact h other hname (by simpa using hmeta)

/-- A write that carries nothing stale does what it would do on fresh data. -/
theorem CarriesCurrent.apply_eq {call : TwinCall} {read desired : Desired}
    (h : CarriesCurrent call read desired) :
    call.apply read desired = call.apply desired desired := by
  cases call with
  | addJob job =>
    have hjobs : currentJobs read = currentJobs desired := h.jobs rfl
    simp only [TwinCall.apply, TwinCall.sends, addJobToTwin, hjobs]
    cases (currentJobs desired).spread with
    | none => rfl
    | some jobs => exact updateTwin_congr h.others
  | topology siteId nodeMappings => exact updateTwin_congr h.others
  | policies value => exact updateTwin_congr h.others

/-- The jobs listed after a serial run: the first ones, and those added, in order. -/
theorem jobsOf_serial {calls : Fin n → TwinCall} {desired : Desired} {jobs : List Json}
    (h : jobsOf desired = some jobs) (order : List (Fin n)) :
    jobsOf (serial (twinApply calls) desired order) =
      some (jobs ++ order.filterMap fun i => (calls i).job?) := by
  induction order using List.reverseRecOn with
  | nil =>
    rw [List.filterMap_nil, List.append_nil]
    exact h
  | append_singleton order i ih =>
    rw [serial_snoc, twinApply, jobsOf_apply ih, List.filterMap_append, List.append_assoc]
    rfl

/-- **Concurrent updates without loss**: in a run in which every write carries
nothing stale, once all calls are done the desired properties are those that the
calls, run one after another in some order, leave; and the jobs are the first ones
and each job added, once for each time it was added. -/
theorem twin_serializable {calls : Fin n → TwinCall} {desired : Desired}
    {es : List (Event n)} {s : System Desired n}
    (hrun : run (step (twinApply calls)) (.start desired) es = some s)
    (hdone : ∀ i, s.phase i = .done)
    (hstale : Along (step (twinApply calls)) (NothingStale calls) (.start desired) es) :
    ∃ order : List (Fin n), order.Perm (List.finRange n) ∧
      s.cell = serial (twinApply calls) desired order ∧
      ∀ jobs, jobsOf desired = some jobs →
        jobsOf s.cell = some (jobs ++ order.filterMap fun i => (calls i).job?) := by
  have hun : Along (step (twinApply calls)) (Unchanged (twinApply calls))
      (.start desired) es := by
    refine along_of_inv (P := fun _ => True) trivial (fun _ _ _ _ _ _ => trivial) ?_ hstale
    intro t e _ hC
    cases e with
    | read i => trivial
    | write i => exact fun read hread => (hC read hread).apply_eq
  have hcell := serial_of_unchanged hun hrun
  refine ⟨s.order, (orderInv_run hrun).perm hdone, hcell, fun jobs hjobs => ?_⟩
  rw [hcell]
  exact jobsOf_serial hjobs s.order

theorem CarriesCurrent.refl (call : TwinCall) (desired : Desired) :
    CarriesCurrent call desired desired := ⟨fun _ _ _ => Json.merge_self _, fun _ => rfl⟩

/-- Two jobs for the same device. -/
def twoJobs : Fin 2 → TwinCall := fun i => .addJob (.num i.val)

/-- A twin without desired properties. -/
def emptyTwin : Desired := fun _ => .undefined

/-- The second call reads after the first has written. -/
def inTurn : List (Event 2) := [.read 0, .write 0, .read 1, .write 1]

/-- Both calls read before either writes. -/
def overlapping : List (Event 2) := [.read 0, .read 1, .write 0, .write 1]

/-- Two jobs added in turn are both there. -/
theorem jobs_added_in_turn :
    ∃ s : System Desired 2,
      run (step (twinApply twoJobs)) (.start emptyTwin) inTurn = some s ∧
      ∃ order : List (Fin 2), order.Perm (List.finRange 2) ∧
        s.cell = serial (twinApply twoJobs) emptyTwin order ∧
        ∀ jobs, jobsOf emptyTwin = some jobs →
          jobsOf s.cell = some (jobs ++ order.filterMap fun i => (twoJobs i).job?) := by
  obtain ⟨s, hrun⟩ : ∃ s, run (step (twinApply twoJobs)) (.start emptyTwin) inTurn = some s :=
    ⟨_, rfl⟩
  refine ⟨s, hrun, twin_serializable hrun ?_ ?_⟩
  · cases hrun
    intro i
    match i with
    | 0 => rfl
    | 1 => rfl
  · -- each call writes what it has read from the twin as it still is
    refine ⟨trivial, fun t ht => ⟨?_, fun t' ht' => ⟨trivial, fun t'' ht'' => ⟨?_, ?_⟩⟩⟩⟩
    · cases ht
      intro read hread
      cases hread
      exact .refl _ _
    · cases ht
      cases ht'
      cases ht''
      intro read hread
      cases hread
      exact .refl _ _
    · exact fun _ _ => trivial

/-- Two calls that both read before either writes: the job of the first is lost. -/
theorem job_lost :
    ¬ ∀ (n : Nat) (calls : Fin n → TwinCall) (desired : Desired) (es : List (Event n))
      (s : System Desired n), run (step (twinApply calls)) (.start desired) es = some s →
        (∀ i, s.phase i = .done) →
        ∃ order : List (Fin n), order.Perm (List.finRange n) ∧
          s.cell = serial (twinApply calls) desired order := by
  intro h
  obtain ⟨s, hrun⟩ : ∃ s,
      run (step (twinApply twoJobs)) (.start emptyTwin) overlapping = some s := ⟨_, rfl⟩
  have hdone : ∀ i, s.phase i = .done := by
    cases hrun
    intro i
    match i with
    | 0 => rfl
    | 1 => rfl
  obtain ⟨order, hperm, hcell⟩ := h 2 twoJobs emptyTwin overlapping s hrun hdone
  -- a serial run lists two jobs, this one lists the second only
  have hserial : jobsOf (serial (twinApply twoJobs) emptyTwin order) =
      some ([] ++ order.filterMap fun i => (twoJobs i).job?) := jobsOf_serial rfl order
  have htwo : (order.filterMap fun i => (twoJobs i).job?).length = 2 :=
    (hperm.filterMap _).length_eq
  have hone : jobsOf s.cell = some [Json.num 1] := by
    cases hrun
    rfl
  rw [hcell, hserial] at hone
  rw [show order.filterMap (fun i => (twoJobs i).job?) = [Json.num 1] from
    Option.some.inj hone] at htwo
  cases htwo

end SensorNet.Backend
