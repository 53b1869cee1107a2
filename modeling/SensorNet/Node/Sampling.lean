import SensorNet.Node.Main
import Mathlib.Data.List.TakeWhile

/-!
# Sampling until six failures

The sampling work counts failures in `diagnostics.c`, clears the count at every
success, enters `STATE_FAULT` when it exceeds 5, and schedules itself again only in
`STATE_OPERATIONAL`. `sampling_until_fault`: so a node that booted in
`STATE_OPERATIONAL` samples until six failures in a row, and then never again,
whatever connections come and go.
-/

namespace SensorNet.Node

/-- The results of `sensor_read` in a run. -/
def outcomes (es : List NodeEvent) : List Int :=
  es.filterMap fun
    | .sample ret => some ret
    | _ => none

/-- The number of failures at the end of a list of results. -/
def failureRun (rets : List Int) : Nat := (rets.reverse.takeWhile (· < 0)).length

/-- The last six results are failures. -/
def LastSixFailed (rets : List Int) : Prop :=
  6 ≤ rets.length ∧ ∀ ret ∈ rets.drop (rets.length - 6), ret < 0

theorem outcomes_append (es fs : List NodeEvent) :
    outcomes (es ++ fs) = outcomes es ++ outcomes fs := List.filterMap_append

/-- A result lengthens the run of failures or ends it. -/
theorem failureRun_snoc (rets : List Int) (ret : Int) :
    failureRun (rets ++ [ret]) = if ret < 0 then failureRun rets + 1 else 0 := by
  unfold failureRun
  rw [List.reverse_append, List.reverse_singleton, List.singleton_append, List.takeWhile_cons]
  by_cases hret : ret < 0
  · rw [if_pos (decide_eq_true hret), if_pos hret, List.length_cons]
  · rw [if_neg (by simpa using hret), if_neg hret, List.length_nil]

/-- A prefix satisfies a condition iff the longest such prefix is as long. -/
theorem le_length_takeWhile {α : Type} {p : α → Bool} {l : List α} {n : Nat} :
    n ≤ (l.takeWhile p).length ↔ n ≤ l.length ∧ ∀ a ∈ l.take n, p a = true := by
  induction l generalizing n with
  | nil =>
    cases n <;> simp
  | cons a l ih =>
    cases n with
    | zero => simp
    | succ n =>
      rw [List.takeWhile_cons, List.take_succ_cons]
      by_cases ha : p a = true
      · simp [ha, ih]
      · simp [ha]

theorem lastSixFailed_iff {rets : List Int} : LastSixFailed rets ↔ 6 ≤ failureRun rets := by
  unfold LastSixFailed failureRun
  rw [le_length_takeWhile, List.length_reverse, List.take_reverse]
  simp

/-! ## The sampling invariant -/

/-- A node that booted in `STATE_OPERATIONAL`, after sampling `rets`:
1. the fault count is the length of the run of failures;
2. the node is operational with its next sample scheduled, or in its fault state with
   none, after exactly six failures in a row. -/
structure SampleInv (rets : List Int) (s : NodeState) : Prop where
  count : s.faultCount = failureRun rets
  state : (s.appState = .operational ∧ s.sampleWork.isSome ∧ failureRun rets ≤ 5) ∨
    (s.appState = .fault ∧ s.sampleWork = none ∧ failureRun rets = 6)

theorem sampleInv_sample {rets : List Int} {s : NodeState} (h : SampleInv rets s)
    (hwork : s.sampleWork.isSome) (ret : Int) :
    SampleInv (rets ++ [ret]) (sampleWorkHandler ret { s with sampleWork := none }) := by
  have hcount := h.count
  rcases h.state with ⟨hop, -, hle⟩ | ⟨-, hnone, -⟩
  · unfold sampleWorkHandler diagnosticsGetFaultCount diagnosticsRecordFault
      diagnosticsClearFaultCount
    dsimp only
    by_cases hret : ret < 0
    · have hrun : failureRun (rets ++ [ret]) = failureRun rets + 1 := by
        rw [failureRun_snoc, if_pos hret]
      rw [if_pos hret]
      by_cases hsix : s.faultCount + 1 > 5
      · -- the sixth failure in a row
        rw [if_pos hsix, if_neg (by intro hc; cases hc)]
        exact ⟨by rw [hrun, hcount]; rfl, .inr ⟨rfl, rfl, by omega⟩⟩
      · rw [if_neg hsix, if_pos hop]
        exact ⟨by rw [hrun]; show s.faultCount + 1 = _; rw [hcount]; rfl,
          .inl ⟨hop, rfl, by omega⟩⟩
    · -- a success clears the count
      have hrun : failureRun (rets ++ [ret]) = 0 := by
        rw [failureRun_snoc, if_neg hret]
      rw [if_neg hret, if_pos hop]
      exact ⟨by rw [hrun]; rfl, .inl ⟨hop, rfl, by omega⟩⟩
  · -- in the fault state no sample is scheduled
    rw [hnone] at hwork
    cases hwork

/-- Connections leave the sampling alone. -/
theorem sampleInv_congr {rets : List Int} {s t : NodeState} (h : SampleInv rets s)
    (happ : t.appState = s.appState) (hfault : t.faultCount = s.faultCount)
    (hwork : t.sampleWork = s.sampleWork) : SampleInv rets t := by
  refine ⟨?_, ?_⟩
  · rw [hfault]
    exact h.count
  · rw [happ, hwork]
    exact h.state

theorem sampleInv_step {es : List NodeEvent} {s v : NodeState} {e : NodeEvent}
    (h : SampleInv (outcomes es) s) (hstep : nodeStep s e = some v) :
    SampleInv (outcomes (es ++ [e])) v := by
  rw [outcomes_append]
  cases e with
  | sample ret =>
    obtain ⟨hwork, hv⟩ := Option.ite_none_right_eq_some.mp hstep
    cases hv
    exact sampleInv_sample h hwork ret
  | connected =>
    obtain ⟨-, hv⟩ := Option.ite_none_left_eq_some.mp hstep
    cases hv
    show SampleInv (outcomes es ++ []) _
    rw [List.append_nil]
    exact sampleInv_congr h rfl rfl rfl
  | disconnected reason =>
    obtain ⟨-, hv⟩ := Option.ite_none_right_eq_some.mp hstep
    cases hv
    show SampleInv (outcomes es ++ []) _
    rw [List.append_nil]
    -- advertising may be resumed, which the sampling does not look at
    unfold disconnected
    split
    · exact sampleInv_congr h rfl rfl rfl
    · exact sampleInv_congr h rfl rfl rfl

/-- The fault state is never left. -/
theorem fault_step {s v : NodeState} {e : NodeEvent}
    (h : s.appState = .fault ∧ s.sampleWork = none) (hstep : nodeStep s e = some v) :
    v.appState = .fault ∧ v.sampleWork = none := by
  cases e with
  | sample ret =>
    obtain ⟨hwork, -⟩ := Option.ite_none_right_eq_some.mp hstep
    rw [h.2] at hwork
    cases hwork
  | connected =>
    obtain ⟨-, hv⟩ := Option.ite_none_left_eq_some.mp hstep
    cases hv
    exact h
  | disconnected reason =>
    obtain ⟨-, hv⟩ := Option.ite_none_right_eq_some.mp hstep
    cases hv
    unfold disconnected
    split
    · exact h
    · exact h

theorem sampleInv_after {env : BootResults} {s₀ s : NodeState} {es : List NodeEvent}
    (hboot : main env = .ok s₀) (hop : s₀.appState = .operational)
    (hrun : run nodeStep s₀ es = some s) : SampleInv (outcomes es) s := by
  have h₀ := main_eq_ok hboot
  refine run_inv_history (P := fun es s => SampleInv (outcomes es) s) ?_
    (fun es t e v h hstep => sampleInv_step h hstep) hrun
  by_cases hload : env.configManagerLoad < 0
  · rw [h₀, if_pos hload] at hop
    cases hop
  · rw [h₀, if_neg hload]
    exact ⟨rfl, .inl ⟨rfl, rfl, Nat.zero_le _⟩⟩

/-! ## What the node does -/

/-- The `k`-th event of the run takes the node to its fault state. -/
def EntersFault (s₀ : NodeState) (es : List NodeEvent) (k : Nat) : Prop :=
  k < es.length ∧
    (∃ t, run nodeStep s₀ (es.take k) = some t ∧ t.appState ≠ .fault) ∧
    ∃ u, run nodeStep s₀ (es.take (k + 1)) = some u ∧ u.appState = .fault

/-- A node in its fault state stays there, and takes no more samples. -/
theorem fault_run {s u : NodeState} {more : List NodeEvent}
    (h : s.appState = .fault ∧ s.sampleWork = none) (hrun : run nodeStep s more = some u) :
    u.appState = .fault ∧ outcomes more = [] := by
  have hend := run_inv_history
    (P := fun es t => (t.appState = .fault ∧ t.sampleWork = none) ∧ outcomes es = [])
    ⟨h, rfl⟩ ?_ hrun
  · exact ⟨hend.1.1, hend.2⟩
  · rintro es t e v ⟨ht, hes⟩ hstep
    refine ⟨fault_step ht hstep, ?_⟩
    rw [outcomes_append, hes, List.nil_append]
    cases e with
    | sample ret =>
      obtain ⟨hwork, -⟩ := Option.ite_none_right_eq_some.mp hstep
      rw [ht.2] at hwork
      cases hwork
    | connected => rfl
    | disconnected reason => rfl

theorem SampleInv.fault_none {rets : List Int} {s : NodeState} (h : SampleInv rets s)
    (hfault : s.appState = .fault) : s.appState = .fault ∧ s.sampleWork = none := by
  rcases h.state with ⟨hop, -, -⟩ | ⟨-, hnone, -⟩
  · rw [hop] at hfault
    cases hfault
  · exact ⟨hfault, hnone⟩

theorem SampleInv.operational_iff {rets : List Int} {s : NodeState} (h : SampleInv rets s) :
    s.appState = .operational ↔ s.sampleWork.isSome := by
  rcases h.state with ⟨hop, hwork, -⟩ | ⟨hfault, hnone, -⟩
  · exact iff_of_true hop hwork
  · rw [hfault, hnone]
    exact iff_of_false (by intro hc; cases hc) Bool.false_ne_true

/-- The fault state is entered at one event at most. -/
theorem entersFault_unique {env : BootResults} {s₀ : NodeState} {es : List NodeEvent}
    (hboot : main env = .ok s₀) (hop : s₀.appState = .operational) {i j : Nat}
    (hi : EntersFault s₀ es i) (hj : EntersFault s₀ es j) : ¬ i < j := by
  intro hlt
  obtain ⟨-, -, u, hu, hfault⟩ := hi
  obtain ⟨-, ⟨t, ht, hnot⟩, -⟩ := hj
  -- the events up to `j` go through the state after event `i`
  have hsplit : es.take j = es.take (i + 1) ++ (es.take j).drop (i + 1) := by
    have htake : (es.take j).take (i + 1) = es.take (i + 1) := by
      rw [List.take_take, Nat.min_eq_left hlt]
    rw [← htake, List.take_append_drop]
  rw [hsplit, run_append, hu] at ht
  have hnone := (sampleInv_after hboot hop hu).fault_none hfault
  exact hnot (fault_run hnone ht).1

/-- **Sampling until six failures**: take a node booted in `STATE_OPERATIONAL`, and any
run of it.
1. It is in its fault state iff the last six results were failures, and operational
   otherwise.
2. While it is operational, and only then, the next sample is scheduled and will run.
3. The fault count is the length of the run of failures.
4. The fault state is never left, no more samples are taken in it, and it is entered
   once at most. -/
theorem sampling_until_fault {env : BootResults} {s₀ s : NodeState} {es : List NodeEvent}
    (hboot : main env = .ok s₀) (hop : s₀.appState = .operational)
    (hrun : run nodeStep s₀ es = some s) :
    ((s.appState = .fault ↔ LastSixFailed (outcomes es)) ∧
      (s.appState = .operational ∨ s.appState = .fault)) ∧
    ((s.appState = .operational ↔ s.sampleWork.isSome) ∧
      ∀ ret, (nodeStep s (.sample ret)).isSome ↔ s.appState = .operational) ∧
    s.faultCount = failureRun (outcomes es) ∧
    ((s.appState = .fault → ∀ more u, run nodeStep s more = some u →
        u.appState = .fault ∧ outcomes more = []) ∧
      ∀ i j, EntersFault s₀ es i → EntersFault s₀ es j → i = j) := by
  have h := sampleInv_after hboot hop hrun
  refine ⟨⟨?_, ?_⟩, ⟨h.operational_iff, fun ret => ?_⟩, h.count, ?_, ?_⟩
  · rw [lastSixFailed_iff]
    rcases h.state with ⟨hstate, -, hle⟩ | ⟨hstate, -, hsix⟩
    · rw [hstate]
      exact iff_of_false (by intro hc; cases hc) (by omega)
    · exact iff_of_true hstate hsix.ge
  · exact h.state.imp And.left And.left
  · rw [h.operational_iff]
    unfold nodeStep
    cases s.sampleWork <;> simp
  · exact fun hfault more u hmore => fault_run (h.fault_none hfault) hmore
  · intro i j hi hj
    -- neither comes before the other
    have hij := entersFault_unique hboot hop hi hj
    have hji := entersFault_unique hboot hop hj hi
    omega

/-- A success and six failures. -/
def sixFailures : List NodeEvent := .sample 0 :: List.replicate 6 (.sample (-5))

/-- The node is in its fault state after six failures. -/
theorem fault_after_sixFailures :
    ∃ s₀ s, main (bootWith 0) = .ok s₀ ∧ run nodeStep s₀ sixFailures = some s ∧
      LastSixFailed (outcomes sixFailures) ∧ s.appState = .fault ∧
      s.faultCount = failureRun (outcomes sixFailures) := by
  refine ⟨_, _, rfl, rfl, ?_⟩
  have h := sampling_until_fault (rfl : main (bootWith 0) = _) rfl
    (rfl : run nodeStep _ sixFailures = _)
  exact ⟨h.1.1.mp rfl, rfl, h.2.2.1⟩

end SensorNet.Node
