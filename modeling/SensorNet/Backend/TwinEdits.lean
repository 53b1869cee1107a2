import SensorNet.Backend.Jobs
import Mathlib.Data.List.Induction

/-!
# Updates of one device twin, one after another

An update of a twin is two calls of the registry: `getTwin`, and `updateTwin` with all
properties read and one of them changed. `TwinCall.attempt` is the whole of it, for any
registry; if a call of the registry fails, the update throws, and the twin is as before.

Of the registry we assume that it merges, as `updateTwin` does, as long as there is no
`null` in the twin or in what is sent: a `null` may delete a property. `twin_edits_compose`:
updates one after another leave the jobs in the order of the calls, the last topology, the
policies merged one into the other, and all else as it was.
-/

namespace SensorNet.Backend

open SensorNet.Js

/-- What the registry makes of the desired properties and a patch for them -/
abbrev Registry := Desired → Desired → Desired

namespace TwinCall

/-- The update of a twin: what the registry leaves, or the message of what is thrown. -/
def attempt (registry : Registry) (a : Answers) (call : TwinCall) (desired : Desired) :
    Except String Desired :=
  match a.getTwinFails with
  | some message => .error message
  | none =>
    match call.sends desired with
    | none => .error "currentJobs is not iterable"
    | some sent =>
      match a.updateTwinFails with
      | some message => .error message
      | none => .ok (registry desired sent)

/-- The twin after that -/
def twinAfter (registry : Registry) (a : Answers) (call : TwinCall) (desired : Desired) :
    Desired :=
  match call.attempt registry a desired with
  | .ok desired => desired
  | .error _ => desired

/-- `addJobToTwin` on one of many twins -/
theorem sendToTwin_eq (a : Answers) (hubId : String) (job : Json) (twins : String → Desired) :
    sendToTwin a hubId job twins =
      ((addJob job).attempt updateTwin a (twins hubId)).map (Function.update twins hubId) := by
  unfold sendToTwin attempt
  rw [show (addJob job).sends (twins hubId) = addJobToTwin job (twins hubId) from rfl]
  cases a.getTwinFails with
  | some message => rfl
  | none =>
    cases addJobToTwin job (twins hubId) with
    | none => rfl
    | some sent => cases a.updateTwinFails <;> rfl

/-- The calls of the registry succeed. -/
def registryOk (a : Answers) : Bool := a.getTwinFails.isNone && a.updateTwinFails.isNone

/-- The topology that the call sets -/
def topology? : TwinCall → Option (Json × Json)
  | topology siteId nodeMappings => some (siteId, nodeMappings)
  | _ => none

/-- The policies that the call sets -/
def policies? : TwinCall → Option Json
  | policies value => some value
  | _ => none

/-- The arguments are of the declared types, policies are an object, and without `null`. -/
def Declared : TwinCall → Prop
  | addJob _ => True
  | topology siteId nodeMappings =>
    (∃ text, siteId = .str text) ∧ ∃ mappings, nodeMappings = .arr mappings
  | policies value => (∃ props, value = .obj props) ∧ value.NullFree

end TwinCall

/-! ## One update -/

/-- There is no `null` in the desired properties. -/
def NullFree (desired : Desired) : Prop := ∀ name, (desired name).NullFree

/-- The registry merges where there is no `null`. -/
def Merges (registry : Registry) : Prop :=
  ∀ desired sent, NullFree desired → NullFree sent → registry desired sent = updateTwin desired sent

/-- If a call of the registry fails, the update throws, and the twin is as before. -/
theorem attempt_fails {registry : Registry} {a : Answers} (hfails : TwinCall.registryOk a = false)
    (call : TwinCall) (desired : Desired) :
    (∃ message, call.attempt registry a desired = .error message) ∧
      call.twinAfter registry a desired = desired := by
  have herror : ∃ message, call.attempt registry a desired = .error message := by
    unfold TwinCall.attempt
    unfold TwinCall.registryOk at hfails
    cases hget : a.getTwinFails with
    | some message => exact ⟨message, rfl⟩
    | none =>
      cases hupdate : a.updateTwinFails with
      | none =>
        rw [hget, hupdate] at hfails
        cases hfails
      | some message => cases call.sends desired <;> exact ⟨_, rfl⟩
  obtain ⟨message, hmessage⟩ := herror
  refine ⟨⟨message, hmessage⟩, ?_⟩
  unfold TwinCall.twinAfter
  rw [hmessage]

/-- If the calls of the registry succeed, the twin is what the registry makes of what is
sent, or as before if there is nothing to send. -/
theorem twinAfter_of_ok (registry : Registry) {a : Answers} (hok : TwinCall.registryOk a = true)
    (call : TwinCall) (desired : Desired) :
    call.twinAfter registry a desired =
      match call.sends desired with
      | some sent => registry desired sent
      | none => desired := by
  obtain ⟨hget, hupdate⟩ := Bool.and_eq_true_iff.mp hok
  rw [Option.isNone_iff_eq_none] at hget hupdate
  unfold TwinCall.twinAfter TwinCall.attempt
  rw [hget, hupdate]
  cases call.sends desired <;> rfl

/-- With a registry that merges whatever it gets, the update is a merge, or fails. -/
theorem twinAfter_updateTwin (a : Answers) (call : TwinCall) (desired : Desired) :
    call.twinAfter updateTwin a desired =
      if TwinCall.registryOk a then call.apply desired desired else desired := by
  cases hok : TwinCall.registryOk a with
  | false => exact (attempt_fails hok call desired).2
  | true =>
    rw [twinAfter_of_ok updateTwin hok, if_pos rfl]
    rfl

/-- The jobs that a twin lists, or none -/
def ListsJobs (desired : Desired) (jobs : List Json) : Prop :=
  desired "jobs" = .arr jobs ∨ (desired "jobs" = .undefined ∧ jobs = [])

theorem ListsJobs.jobsOf_eq {desired : Desired} {jobs : List Json} (h : ListsJobs desired jobs) :
    jobsOf desired = some jobs := by
  unfold jobsOf currentJobs
  rcases h with h | ⟨h, rfl⟩
  · rw [h]
    rfl
  · rw [h]
    rfl

theorem sends_nullFree {call : TwinCall} {desired sent : Desired} (hnull : NullFree desired)
    (hargs : call.Declared) (hsends : call.sends desired = some sent) : NullFree sent := by
  -- every call sends the desired properties with one of them replaced
  have hupdate : ∀ {name : String} {value : Json}, value.NullFree →
      NullFree (Function.update desired name value) := by
    intro name value hvalue other
    by_cases hname : other = name
    · subst hname
      rw [Function.update_self]
      exact hvalue
    · rw [Function.update_of_ne hname]
      exact hnull other
  cases call with
  | addJob job =>
    obtain ⟨jobs, -, hsent⟩ := Option.bind_eq_some_iff.mp hsends
    cases hsent
    exact hupdate trivial
  | topology siteId nodeMappings =>
    obtain ⟨⟨text, rfl⟩, mappings, rfl⟩ := hargs
    cases hsends
    refine hupdate fun name => ?_
    dsimp only
    split
    · trivial
    · split <;> trivial
  | policies value =>
    cases hsends
    exact hupdate hargs.2

theorem updateTwin_nullFree {desired sent : Desired} (hnull : NullFree desired)
    (hsent : NullFree sent) : NullFree (updateTwin desired sent) := by
  intro name
  unfold updateTwin
  split
  · exact hnull name
  · exact (hnull name).merge (hsent name)

/-- An update in which the calls of the registry succeed does what a merge does. -/
theorem twinAfter_eq_apply {registry : Registry} {a : Answers} {call : TwinCall}
    {desired : Desired} (hmerges : Merges registry) (hok : TwinCall.registryOk a = true)
    (hnull : NullFree desired) (hargs : call.Declared) :
    call.twinAfter registry a desired = call.apply desired desired := by
  rw [twinAfter_of_ok registry hok]
  unfold TwinCall.apply
  cases hsends : call.sends desired with
  | none => rfl
  | some sent => exact hmerges desired sent hnull (sends_nullFree hnull hargs hsends)

/-! ## Updates one after another -/

/-- The twin after updates one after another -/
def edits (registry : Registry) (calls : List (Answers × TwinCall)) (desired : Desired) :
    Desired :=
  calls.foldl (fun desired c => c.2.twinAfter registry c.1 desired) desired

/-- The calls in which the registry does not fail -/
def succeeded (calls : List (Answers × TwinCall)) : List TwinCall :=
  (calls.filter fun c => TwinCall.registryOk c.1).map Prod.snd

/-- What the calls `done` make of the desired properties `first` with the jobs `jobs`:
1. the jobs are those there were and those added, in the order of the calls;
2. the site and the mappings are those of the last topology;
3. the topology is what it was if none is set;
4. the policies are merged one into the other;
5. all other properties are what they were. -/
structure Composed (first : Desired) (jobs : List Json) (done : List TwinCall)
    (desired : Desired) : Prop where
  jobs : ListsJobs desired (jobs ++ done.filterMap TwinCall.job?)
  lastTopology : ∀ siteId nodeMappings,
    (done.filterMap TwinCall.topology?).getLast? = some (siteId, nodeMappings) →
      (desired "topology").prop "siteId" = siteId ∧
      (desired "topology").prop "nodeMappings" = nodeMappings
  topology : done.filterMap TwinCall.topology? = [] → desired "topology" = first "topology"
  policies : desired "policies" =
    (done.filterMap TwinCall.policies?).foldl Json.merge (first "policies")
  others : ∀ name, name ≠ "jobs" → name ≠ "topology" → name ≠ "policies" →
    desired name = first name

theorem composed_nil {first : Desired} {jobs : List Json} (h : ListsJobs first jobs) :
    Composed first jobs [] first where
  jobs := by rwa [List.filterMap_nil, List.append_nil]
  lastTopology _ _ h := nomatch h
  topology _ := rfl
  policies := rfl
  others _ _ _ _ := rfl

/-- The topology after it is set -/
theorem apply_topology (siteId : String) (nodeMappings : List Json) (desired : Desired) :
    ∃ props, (TwinCall.topology (.str siteId) (.arr nodeMappings)).apply desired desired
        "topology" = .obj props ∧
      props "siteId" = .str siteId ∧ props "nodeMappings" = .arr nodeMappings := by
  have hmeta : Json.isMeta "topology" = false := by decide
  have happly : (TwinCall.topology (.str siteId) (.arr nodeMappings)).apply desired desired
      "topology" = (desired "topology").merge (topology (.str siteId) (.arr nodeMappings)) := by
    show updateTwin desired (Function.update desired "topology" _) "topology" = _
    rw [updateTwin, hmeta, if_neg Bool.false_ne_true, Function.update_self]
  rw [happly]
  unfold topology
  rw [Json.merge_obj]
  exact ⟨_, rfl, Json.merge_str ((desired "topology").prop "siteId") siteId,
    Json.merge_arr ((desired "topology").prop "nodeMappings") nodeMappings⟩

/-- The policies after they are set -/
theorem apply_policies (value : Json) (desired : Desired) :
    (TwinCall.policies value).apply desired desired "policies" =
      (desired "policies").merge value := by
  have hmeta : Json.isMeta "policies" = false := by decide
  show updateTwin desired (Function.update desired "policies" _) "policies" = _
  rw [updateTwin, hmeta, if_neg Bool.false_ne_true, Function.update_self]

theorem filterMap_snoc_none {α β : Type} {f : α → Option β} {x : α} (h : f x = none)
    (xs : List α) : (xs ++ [x]).filterMap f = xs.filterMap f := by
  rw [List.filterMap_append, List.filterMap_cons_none h, List.filterMap_nil, List.append_nil]

theorem filterMap_snoc_some {α β : Type} {f : α → Option β} {x : α} {y : β} (h : f x = some y)
    (xs : List α) : (xs ++ [x]).filterMap f = xs.filterMap f ++ [y] := by
  rw [List.filterMap_append, List.filterMap_cons_some h, List.filterMap_nil]

variable {first desired : Desired} {jobs : List Json} {done : List TwinCall}

/-- A call that is not about the jobs leaves them. -/
theorem Composed.jobs_snoc (h : Composed first jobs done desired) {call : TwinCall}
    (hkeep : call.apply desired desired "jobs" = desired "jobs") (hjob : call.job? = none) :
    ListsJobs (call.apply desired desired)
      (jobs ++ (done ++ [call]).filterMap TwinCall.job?) := by
  unfold ListsJobs
  rw [hkeep, filterMap_snoc_none hjob]
  exact h.jobs

/-- A call that is not about the topology leaves it. -/
theorem Composed.topology_snoc (h : Composed first jobs done desired) {call : TwinCall}
    (hkeep : call.apply desired desired "topology" = desired "topology")
    (htopology : call.topology? = none) :
    (∀ siteId nodeMappings,
      ((done ++ [call]).filterMap TwinCall.topology?).getLast? = some (siteId, nodeMappings) →
        (call.apply desired desired "topology").prop "siteId" = siteId ∧
        (call.apply desired desired "topology").prop "nodeMappings" = nodeMappings) ∧
    ((done ++ [call]).filterMap TwinCall.topology? = [] →
      call.apply desired desired "topology" = first "topology") := by
  rw [hkeep, filterMap_snoc_none htopology]
  exact ⟨h.lastTopology, h.topology⟩

/-- A call that is not about the policies leaves them. -/
theorem Composed.policies_snoc (h : Composed first jobs done desired) {call : TwinCall}
    (hkeep : call.apply desired desired "policies" = desired "policies")
    (hpolicies : call.policies? = none) :
    call.apply desired desired "policies" =
      ((done ++ [call]).filterMap TwinCall.policies?).foldl Json.merge (first "policies") := by
  rw [hkeep, filterMap_snoc_none hpolicies]
  exact h.policies

/-- One more call: it is about one of the three properties, and leaves the others. -/
theorem composed_snoc (h : Composed first jobs done desired) {call : TwinCall}
    (hargs : call.Declared) :
    Composed first jobs (done ++ [call]) (call.apply desired desired) := by
  cases call with
  | addJob job =>
    have hkeep : ∀ name, name ≠ "jobs" →
        (TwinCall.addJob job).apply desired desired name = desired name :=
      fun name hne => apply_self_of_ne _ desired hne
    obtain ⟨hlast, hnone⟩ := h.topology_snoc (hkeep "topology" (by decide)) rfl
    refine ⟨.inl ?_, hlast, hnone, h.policies_snoc (hkeep "policies" (by decide)) rfl,
      fun name hjobs htopology hpolicies => ?_⟩
    · rw [apply_addJob_jobs h.jobs.jobsOf_eq,
        filterMap_snoc_some (f := TwinCall.job?) rfl, List.append_assoc]
    · rw [hkeep name hjobs]
      exact h.others name hjobs htopology hpolicies
  | topology siteId nodeMappings =>
    obtain ⟨⟨text, rfl⟩, mappings, rfl⟩ := hargs
    have hkeep : ∀ name, name ≠ "topology" →
        (TwinCall.topology (.str text) (.arr mappings)).apply desired desired name = desired name :=
      fun name hne => apply_self_of_ne _ desired hne
    refine ⟨h.jobs_snoc (hkeep "jobs" (by decide)) rfl, fun siteId nodeMappings hlast => ?_,
      fun hnone => ?_, h.policies_snoc (hkeep "policies" (by decide)) rfl,
      fun name hjobs htopology hpolicies => ?_⟩
    · -- the properties of the topology are replaced
      rw [filterMap_snoc_some (f := TwinCall.topology?) rfl, List.getLast?_concat] at hlast
      cases hlast
      obtain ⟨props, hprops, hsite, hmappings⟩ := apply_topology text mappings desired
      rw [hprops]
      exact ⟨hsite, hmappings⟩
    · rw [filterMap_snoc_some (f := TwinCall.topology?) rfl] at hnone
      exact absurd hnone (by simp)
    · rw [hkeep name htopology]
      exact h.others name hjobs htopology hpolicies
  | policies value =>
    have hkeep : ∀ name, name ≠ "policies" →
        (TwinCall.policies value).apply desired desired name = desired name :=
      fun name hne => apply_self_of_ne _ desired hne
    obtain ⟨hlast, hnone⟩ := h.topology_snoc (hkeep "topology" (by decide)) rfl
    refine ⟨h.jobs_snoc (hkeep "jobs" (by decide)) rfl, hlast, hnone, ?_,
      fun name hjobs htopology hpolicies => ?_⟩
    · -- the policies given are merged into those that are there
      rw [apply_policies, h.policies, filterMap_snoc_some (f := TwinCall.policies?) rfl,
        List.foldl_append]
      rfl
    · rw [hkeep name hpolicies]
      exact h.others name hjobs htopology hpolicies

theorem apply_nullFree {call : TwinCall} (hnull : NullFree desired) (hargs : call.Declared) :
    NullFree (call.apply desired desired) := by
  unfold TwinCall.apply
  cases hsends : call.sends desired with
  | none => exact hnull
  | some sent => exact updateTwin_nullFree hnull (sends_nullFree hnull hargs hsends)

/-- **Updates one after another**: with a registry that merges, from properties without `null`,
the updates in which the registry does not fail compose: jobs are appended in order, the last
topology stays, policies are merged one into the other, and all else is as it was. And an
update in which the registry fails throws, and leaves the twin as it was. -/
theorem twin_edits_compose {registry : Registry} {calls : List (Answers × TwinCall)}
    (hmerges : Merges registry) (hjobs : ListsJobs first jobs) (hnull : NullFree first)
    (hargs : ∀ c ∈ calls, c.2.Declared) :
    Composed first jobs (succeeded calls) (edits registry calls first) ∧
      ∀ a, TwinCall.registryOk a = false → ∀ (call : TwinCall) (desired : Desired),
        (∃ message, call.attempt registry a desired = .error message) ∧
          call.twinAfter registry a desired = desired := by
  refine ⟨?_, fun a hfails call desired => attempt_fails hfails call desired⟩
  -- that no property is `null` goes along: a `null` in an update would delete its property
  suffices hgen : NullFree (edits registry calls first) ∧
      Composed first jobs (succeeded calls) (edits registry calls first) from hgen.2
  -- on the last call: one that succeeds is applied, and one that fails changes nothing
  induction calls using List.reverseRecOn with
  | nil => exact ⟨hnull, composed_nil hjobs⟩
  | append_singleton calls c ih =>
    obtain ⟨a, call⟩ := c
    have hdeclared : call.Declared := hargs (a, call) (by simp)
    obtain ⟨hbefore, hcomposed⟩ := ih fun c hc => hargs c (List.mem_append_left _ hc)
    have hedits : edits registry (calls ++ [(a, call)]) first =
        call.twinAfter registry a (edits registry calls first) := by
      unfold edits
      rw [List.foldl_append]
      rfl
    rw [hedits]
    cases hok : TwinCall.registryOk a with
    | true =>
      have hdone : succeeded (calls ++ [(a, call)]) = succeeded calls ++ [call] := by
        unfold succeeded
        rw [List.filter_append, List.map_append]
        simp [hok]
      rw [hdone, twinAfter_eq_apply hmerges hok hbefore hdeclared]
      exact ⟨apply_nullFree hbefore hdeclared, composed_snoc hcomposed hdeclared⟩
    | false =>
      have hdone : succeeded (calls ++ [(a, call)]) = succeeded calls := by
        unfold succeeded
        rw [List.filter_append, List.map_append]
        simp [hok]
      rw [hdone, (attempt_fails hok call _).2]
      exact ⟨hbefore, hcomposed⟩

/-- A twin without desired properties -/
def freshTwin : Desired := fun _ => .undefined

/-- What a call gets whose update fails with a message, or succeeds -/
def updateAnswers (updateTwinFails : Option String) : Answers :=
  { now := 7, uuid := "2", updateTwinFails }

/-- A job, a job that the registry refuses, policies, and a topology -/
def sampleEdits : List (Answers × TwinCall) :=
  [(updateAnswers none, .addJob (.str "job-1")),
    (updateAnswers (some "quota exceeded"), .addJob (.str "job-2")),
    (updateAnswers none, .policies (.object [("scanIntervalSeconds", .num 60)])),
    (updateAnswers none, .topology (.str "site-1") (.arr []))]

/-- What they leave of a twin without desired properties -/
theorem sampleEdits_compose :
    Composed freshTwin [] (succeeded sampleEdits) (edits updateTwin sampleEdits freshTwin) ∧
      ∀ a, TwinCall.registryOk a = false → ∀ (call : TwinCall) (desired : Desired),
        (∃ message, call.attempt updateTwin a desired = .error message) ∧
          call.twinAfter updateTwin a desired = desired := by
  refine twin_edits_compose (fun _ _ _ _ => rfl) (.inr ⟨rfl, rfl⟩) (fun _ => trivial) ?_
  simp only [sampleEdits, List.forall_mem_cons]
  refine ⟨trivial, trivial, ⟨⟨_, rfl⟩, fun name => ?_⟩, ⟨⟨_, rfl⟩, _, rfl⟩, nofun⟩
  dsimp only
  rw [List.lookup_cons]
  cases name == "scanIntervalSeconds" <;> trivial

end SensorNet.Backend
