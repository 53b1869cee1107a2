import SensorNet.Cellular.Starvation

/-!
# Does the hub notice that it lost the network?

`lte_handler` keeps `connected` up to date, but only `lte_connection_connect` looks
at it, and the hub never leaves `OPERATIONAL`: a network lost there, or on the way
from `LTE_CONNECTING`, is not connected to again.

So `reconnects_iff`: no step that begins without a network ends in `OPERATIONAL` iff
the hub is registered when it connects to the IoT Hub and at every later step.
-/

namespace SensorNet.Cellular

/-! ## Reaching and keeping `OPERATIONAL` -/

/-- A step that ends in `OPERATIONAL` began there, or connected to the IoT Hub. -/
theorem runStateMachine_operational {env : Results} {h : Hub}
    (hop : (runStateMachine env h).currentState = .operational) :
    h.currentState = .operational ∨
      h.currentState = .iotHubConnecting ∧ env.iotHubConnect = 0 := by
  revert hop
  unfold runStateMachine
  cases hstate : h.currentState with
  | hubInit =>
    dsimp only
    split <;> exact fun hop => nomatch hop
  | lteConnecting =>
    intro hop
    by_cases hasync : env.lteLcConnectAsync = 0
    · -- waiting for the network leaves the state alone
      obtain ⟨connected, hwait⟩ := waitConnected_spec connectLooks env.waiting h
      have hconnect : lteConnectionConnect env h =
          waitConnected connectLooks env.waiting h := if_neg (by simpa using hasync)
      dsimp only at hop
      rw [hconnect, hwait] at hop
      split at hop
      · split at hop <;> cases hop
      · exact .inl (hstate.symm.trans hop)
    · -- the request fails at once
      have hconnect : lteConnectionConnect env h = (env.lteLcConnectAsync, h) := if_pos hasync
      dsimp only at hop
      rw [hconnect, if_neg hasync] at hop
      exact .inl (hstate.symm.trans hop)
  | dpsProvisioning =>
    intro hop
    dsimp only at hop
    split at hop
    · cases hop
    · exact .inl (hstate.symm.trans hop)
  | iotHubConnecting =>
    intro hop
    by_cases hconn : env.iotHubConnect = 0
    · -- the only way in
      exact .inr ⟨rfl, hconn⟩
    · dsimp only at hop
      rw [if_neg hconn] at hop
      exact .inl (hstate.symm.trans hop)
  | operational => exact fun _ => .inl rfl
  | error => exact fun hop => nomatch hop

/-- The connection to the IoT Hub is the way into `OPERATIONAL`. -/
theorem runStateMachine_connects {env : Results} {h : Hub}
    (hstate : h.currentState = .iotHubConnecting) (hconn : env.iotHubConnect = 0) :
    runStateMachine env h = { scheduleTwinSync h with currentState := .operational } := by
  unfold runStateMachine
  rw [hstate]
  exact if_pos hconn

/-- What the modem has told the hub in the course of `es`. -/
def lteEvents (es : List HubEvent) : List LteEvent :=
  es.filterMap fun e =>
    match e with
    | .lte evt => some evt
    | _ => none

/-- From `OPERATIONAL` on nothing but the modem changes what the hub knows of the network. -/
theorem run_operational {h v : Hub} {es : List HubEvent}
    (hop : h.currentState = .operational) (hrun : run hubStep h es = some v) :
    v.currentState = .operational ∧
      v.connected = registered h.connected (lteEvents es) := by
  refine run_inv_history
    (P := fun es v => v.currentState = .operational ∧
      v.connected = registered h.connected (lteEvents es))
    ⟨hop, rfl⟩ ?_ hrun
  -- only the modem sets `connected`, and no event but a step looks at the state
  rintro es t e v ⟨hstate, hconn⟩ hstep
  have hsnoc : lteEvents (es ++ [e]) = lteEvents es ++ lteEvents [e] :=
    List.filterMap_append
  rw [hsnoc, registered_append, ← hconn]
  cases e with
  | lte evt =>
    cases hstep
    have hhandled := foldl_lteHandler t [evt]
    rw [List.foldl_cons, List.foldl_nil] at hhandled
    rw [hhandled]
    exact ⟨hstate, rfl⟩
  | step env =>
    cases hstep
    rw [runStateMachine_feeds hstate]
    exact ⟨hstate, rfl⟩
  | twinSync =>
    obtain ⟨-, hv⟩ := Option.ite_none_right_eq_some.mp hstep
    cases hv
    unfold twinSyncWorker
    dsimp only
    rw [if_pos hstate]
    exact ⟨hstate, rfl⟩

/-- A run from a boot that ends in `OPERATIONAL` has connected to the IoT Hub. -/
theorem run_connects {v : Hub} {es : List HubEvent} (hrun : run hubStep {} es = some v)
    (hop : v.currentState = .operational) :
    ∃ pre env post t, es = pre ++ .step env :: post ∧ run hubStep {} pre = some t ∧
      t.currentState = .iotHubConnecting ∧ env.iotHubConnect = 0 := by
  induction es using List.reverseRecOn generalizing v with
  | nil =>
    cases hrun
    cases hop
  | append_singleton es e ih =>
    obtain ⟨u, hu, hstep⟩ := run_snoc_eq_some.mp hrun
    -- the last event connects, or the hub was operational before it
    have hbefore : u.currentState = .operational ∨
        ∃ env, e = .step env ∧ u.currentState = .iotHubConnecting ∧ env.iotHubConnect = 0 := by
      cases e with
      | lte evt =>
        cases hstep
        have hhandled := foldl_lteHandler u [evt]
        rw [List.foldl_cons, List.foldl_nil] at hhandled
        rw [hhandled] at hop
        exact .inl hop
      | step env =>
        cases hstep
        exact (runStateMachine_operational hop).imp_right fun hconn => ⟨env, rfl, hconn⟩
      | twinSync =>
        obtain ⟨-, hv⟩ := Option.ite_none_right_eq_some.mp hstep
        cases hv
        unfold twinSyncWorker at hop
        dsimp only at hop
        split at hop
        · exact .inl ‹_›
        · exact .inl hop
    rcases hbefore with huop | ⟨env, rfl, hstate, hconn⟩
    · obtain ⟨pre, env, post, t, rfl, ht⟩ := ih hu huop
      exact ⟨pre, env, post ++ [e], t, by simp, ht⟩
    · exact ⟨es, env, [], u, rfl, hu, hstate, hconn⟩

/-! ## Losing the network -/

/-- No step that begins without a network ends in `OPERATIONAL`. -/
def Reconnects (es : List HubEvent) : Prop :=
  ∀ pre env post t, es = pre ++ .step env :: post → run hubStep {} pre = some t →
    lteConnectionIsConnected t = false → (runStateMachine env t).currentState ≠ .operational

/-- The hub is registered when it connects to the IoT Hub, and at every later step. -/
def KeepsNetwork (es : List HubEvent) : Prop :=
  ∀ pre env post t, es = pre ++ .step env :: post → run hubStep {} pre = some t →
    t.currentState = .iotHubConnecting → env.iotHubConnect = 0 →
      t.connected = true ∧
      ∀ mid env' rest, post = mid ++ .step env' :: rest →
        registered true (lteEvents mid) = true

/-- The hub after connecting to the IoT Hub at `env` and the events `mid`. -/
theorem run_after_connect {pre mid : List HubEvent} {env : Results} {t v : Hub}
    (ht : run hubStep {} pre = some t) (hstate : t.currentState = .iotHubConnecting)
    (hconn : env.iotHubConnect = 0)
    (hrun : run hubStep {} (pre ++ .step env :: mid) = some v) :
    v.currentState = .operational ∧ v.connected = registered t.connected (lteEvents mid) := by
  rw [run_append, ht] at hrun
  have hmid : run hubStep (runStateMachine env t) mid = some v := hrun
  rw [runStateMachine_connects hstate hconn] at hmid
  exact run_operational
    (h := { scheduleTwinSync t with currentState := .operational }) rfl hmid

/-- **Lost networks**: in every run all steps that begin without a network end outside of
`OPERATIONAL` iff the hub is registered when it connects to the IoT Hub and at every later
step. -/
theorem reconnects_iff {es : List HubEvent} {h : Hub} (hrun : run hubStep {} es = some h) :
    Reconnects es ↔ KeepsNetwork es := by
  constructor
  · intro hre pre env post t hes ht hstate hconn
    have hnow : t.connected = true := by
      by_contra hlost
      refine hre pre env post t hes ht (Bool.eq_false_iff.mpr hlost) ?_
      rw [runStateMachine_connects hstate hconn]
    refine ⟨hnow, fun mid env' rest hpost => ?_⟩
    -- the run up to the later step
    have hcut : es = (pre ++ .step env :: mid) ++ .step env' :: rest := by
      rw [hes, hpost, List.append_assoc, List.cons_append]
    rw [hcut, run_append] at hrun
    obtain ⟨v, hv, -⟩ := Option.bind_eq_some_iff.mp hrun
    obtain ⟨hop, hlater⟩ := run_after_connect ht hstate hconn hv
    rw [hnow] at hlater
    by_contra hlost
    refine hre _ env' rest v hcut hv (hlater.trans (Bool.eq_false_iff.mpr hlost)) ?_
    rw [runStateMachine_feeds hop]
    exact hop
  · intro hkeeps pre env post t hes ht hlost hop
    rcases runStateMachine_operational hop with hbefore | ⟨hstate, hconn⟩
    · -- the step that connected lies before
      obtain ⟨pre₀, env₀, mid, t₀, hpre, ht₀, hstate, hconn⟩ := run_connects ht hbefore
      have hcut : es = pre₀ ++ .step env₀ :: (mid ++ .step env :: post) := by
        rw [hes, hpre, List.append_assoc, List.cons_append]
      obtain ⟨hnow, hlater⟩ := hkeeps pre₀ env₀ _ t₀ hcut ht₀ hstate hconn
      rw [hpre] at ht
      have hthen := (run_after_connect ht₀ hstate hconn ht).2
      rw [hnow, hlater mid env post rfl] at hthen
      exact absurd (hthen.symm.trans hlost) (by decide)
    · have hnow := (hkeeps pre env post t hes ht hstate hconn).1
      exact absurd (hnow.symm.trans hlost) (by decide)

/-- A boot into a network that stays. -/
theorem reconnects_after_boot : Reconnects (bootInto 0) ↔ KeepsNetwork (bootInto 0) :=
  reconnects_iff (rfl : run hubStep {} (bootInto 0) = _)

/-- The network is lost right after the boot, and the next step stays in `OPERATIONAL`. -/
theorem lost_network_not_noticed :
    ¬ Reconnects (bootInto 0 ++ [.lte (.nwRegStatus .other), .step (registersAt 0)]) := by
  intro hre
  exact hre (bootInto 0 ++ [.lte (.nwRegStatus .other)]) (registersAt 0) [] _ rfl rfl rfl rfl

end SensorNet.Cellular
