import SensorNet.Node.Main

/-!
# Is the node discoverable?

A node without a connection should be advertising, in every application state. It
is after booting, and `connected` stops advertising only for the time of the
connection; but `disconnected` resumes it in `STATE_OPERATIONAL` alone, so the
first connection that ends while the node is uncommissioned or in its fault state
silences it. `discoverable_iff`: it is silent at some time iff such a connection
ended.
-/

namespace SensorNet.Node

/-- A node without a connection is advertising. -/
def Discoverable (s : NodeState) : Prop := s.connected = false → s.advertising = true

/-- A connection ends in `STATE_OPERATIONAL` only. -/
def EndsOperational (s : NodeState) : NodeEvent → Prop
  | .disconnected _ => s.appState = .operational
  | _ => True

instance : ∀ s e, Decidable (EndsOperational s e)
  | s, .disconnected _ => inferInstanceAs (Decidable (s.appState = .operational))
  | _, .sample _ | _, .connected => isTrue trivial

/-- The node does not advertise while it is connected. -/
def SilentWhileConnected (s : NodeState) : Prop :=
  s.connected = true → s.advertising = false

/-- Sampling leaves connection and advertising alone. -/
theorem sampleWorkHandler_radio (ret : Int) (s : NodeState) :
    (sampleWorkHandler ret s).connected = s.connected ∧
    (sampleWorkHandler ret s).advertising = s.advertising := by
  unfold sampleWorkHandler
  dsimp only
  split <;> split <;> (try split) <;> exact ⟨rfl, rfl⟩

theorem silent_step {s v : NodeState} {e : NodeEvent} (h : SilentWhileConnected s)
    (hstep : nodeStep s e = some v) : SilentWhileConnected v := by
  cases e with
  | sample ret =>
    obtain ⟨-, hv⟩ := Option.ite_none_right_eq_some.mp hstep
    cases hv
    unfold SilentWhileConnected
    rw [(sampleWorkHandler_radio ..).1, (sampleWorkHandler_radio ..).2]
    exact h
  | connected =>
    obtain ⟨-, hv⟩ := Option.ite_none_left_eq_some.mp hstep
    cases hv
    exact fun _ => rfl
  | disconnected reason =>
    obtain ⟨-, hv⟩ := Option.ite_none_right_eq_some.mp hstep
    cases hv
    unfold disconnected
    split <;> exact fun hc => nomatch hc

/-- A step of a discoverable node leads to one iff it does not end a connection outside of
`STATE_OPERATIONAL`. -/
theorem discoverable_step {s v : NodeState} {e : NodeEvent} (hsilent : SilentWhileConnected s)
    (h : Discoverable s) (hstep : nodeStep s e = some v) :
    Discoverable v ↔ EndsOperational s e := by
  cases e with
  | sample ret =>
    obtain ⟨-, hv⟩ := Option.ite_none_right_eq_some.mp hstep
    cases hv
    refine iff_of_true ?_ trivial
    -- the sampling work does not touch the radio
    unfold Discoverable
    rw [(sampleWorkHandler_radio ..).1, (sampleWorkHandler_radio ..).2]
    exact h
  | connected =>
    obtain ⟨-, hv⟩ := Option.ite_none_left_eq_some.mp hstep
    cases hv
    exact iff_of_true (fun hc => nomatch hc) trivial
  | disconnected reason =>
    obtain ⟨hconn, hv⟩ := Option.ite_none_right_eq_some.mp hstep
    cases hv
    by_cases hop : s.appState = .operational
    · have hresumed : disconnected reason { s with connected := false } =
          { s with connected := false, advertising := true } := if_pos hop
      rw [hresumed]
      exact iff_of_true (fun _ => rfl) hop
    · -- a node that is not operational stays silent
      have hquiet : disconnected reason { s with connected := false } =
          { s with connected := false } := if_neg hop
      rw [hquiet]
      refine iff_of_false (fun hd => ?_) hop
      rw [hsilent hconn] at hd
      exact Bool.false_ne_true (hd rfl)

/-- **Discoverability**: a node that has booted is discoverable whenever it has no
connection iff every connection ends in `STATE_OPERATIONAL`. -/
theorem discoverable_iff {env : BootResults} {s₀ s : NodeState} {es : List NodeEvent}
    (hboot : main env = .ok s₀) (hrun : run nodeStep s₀ es = some s) :
    (∀ k t, run nodeStep s₀ (es.take k) = some t → Discoverable t) ↔
      Along nodeStep EndsOperational s₀ es := by
  have h₀ := main_eq_ok hboot
  have hstart : s₀.connected = false ∧ s₀.advertising = true := by
    rw [h₀]
    split <;> exact ⟨rfl, rfl⟩
  refine prefixes_iff_along (J := SilentWhileConnected) (fun _ => hstart.2) ?_
    (fun t e v hJ hstep => silent_step hJ hstep)
    (fun t e v hJ hP hstep => discoverable_step hJ hP hstep) hrun
  intro hc
  rw [hstart.1] at hc
  cases hc

/-- A central connects and leaves again. -/
def visit : List NodeEvent := [.connected, .disconnected 19]

/-- A commissioned node stays discoverable. -/
theorem discoverable_after_visit :
    ∃ s₀, main (bootWith 0) = .ok s₀ ∧
      ∀ k t, run nodeStep s₀ (visit.take k) = some t → Discoverable t := by
  refine ⟨_, rfl, (discoverable_iff (rfl : main (bootWith 0) = _) rfl).mpr ?_⟩
  decide

/-- An uncommissioned one does not. -/
theorem silent_after_visit :
    ¬ ∀ env s₀ es s, main env = .ok s₀ → run nodeStep s₀ es = some s → Discoverable s := by
  intro hall
  have hsilent := hall (bootWith (-1)) _ visit _ rfl rfl rfl
  cases hsilent

end SensorNet.Node
