import SensorNet.Cellular.Reconnect

/-!
# How soon is the hub operational?

Three steps bring the hub from `HUB_INIT` to `OPERATIONAL` if all calls succeed and it has been
provisioned. Everything else is a setback: a call that fails is made again at the next step, a
failed initialisation takes a step in `ERROR` besides, and a hub that has not been provisioned
takes a step to register.

`hub_progress`: in every run these account for all steps outside of `OPERATIONAL`; and the twin
is about to be synchronised exactly while the hub is operational.
-/

namespace SensorNet.Cellular

/-- The steps to `OPERATIONAL` if there is no setback -/
def stepsLeft : HubState → Nat
  | .operational => 0
  | .iotHubConnecting => 1
  | .dpsProvisioning => 2
  | .lteConnecting => 2
  | .hubInit => 3
  | .error => 4

/-- A step outside of `OPERATIONAL` -/
def stepsOutside (h : Hub) : HubEvent → Nat
  | .step _ => if h.currentState = .operational then 0 else 1
  | _ => 0

/-- The steps more that a step makes necessary -/
def setbacks (h : Hub) : HubEvent → Nat
  | .step env =>
    match h.currentState with
    | .hubInit => if lteConnectionInit env = 0 then 0 else 2
    | .lteConnecting =>
      if (lteConnectionConnect env h).1 = 0 ∧ env.provisioningIsProvisioned then 0 else 1
    | .dpsProvisioning => if env.provisioningRegister = 0 then 0 else 1
    | .iotHubConnecting => if env.iotHubConnect = 0 then 0 else 1
    | .operational | .error => 0
  | _ => 0

/-- Connecting leaves the state of the hub, and what is scheduled, alone. -/
theorem lteConnectionConnect_keeps (env : Results) (h : Hub) :
    (lteConnectionConnect env h).2.currentState = h.currentState ∧
      (lteConnectionConnect env h).2.twinSyncWork = h.twinSyncWork := by
  unfold lteConnectionConnect
  split
  · exact ⟨rfl, rfl⟩
  · obtain ⟨connected, hwait⟩ := waitConnected_spec connectLooks env.waiting h
    rw [hwait]
    exact ⟨rfl, rfl⟩

/-- What a step does to the state: it goes on by one, but for the setbacks. -/
theorem runStateMachine_steps (env : Results) (h : Hub) :
    stepsLeft (runStateMachine env h).currentState + stepsOutside h (.step env) =
      stepsLeft h.currentState + setbacks h (.step env) := by
  unfold runStateMachine stepsOutside setbacks
  cases hstate : h.currentState with
  | hubInit =>
    by_cases hinit : lteConnectionInit env = 0
    · simp [hinit, stepsLeft]
    · simp [hinit, stepsLeft]
  | lteConnecting =>
    -- waiting for the network changes the flag, and not the state
    have hkept : (lteConnectionConnect env h).2.currentState = .lteConnecting := by
      rw [(lteConnectionConnect_keeps env h).1, hstate]
    by_cases hconn : (lteConnectionConnect env h).1 = 0
    · cases hprov : env.provisioningIsProvisioned with
      | true => simp [hconn, hprov, stepsLeft]
      | false => simp [hconn, hprov, stepsLeft]
    · simp [hconn, hkept, stepsLeft]
  | dpsProvisioning =>
    by_cases hreg : env.provisioningRegister = 0
    · simp [hreg, stepsLeft]
    · simp [hreg, hstate, kSleep, stepsLeft]
  | iotHubConnecting =>
    by_cases hconn : env.iotHubConnect = 0
    · simp [hconn, stepsLeft]
    · simp [hconn, hstate, kSleep, stepsLeft]
  | operational => simp [hstate, kSleep, feedWatchdog]
  | error => simp [stepsLeft]

/-- An event of the modem or of the twin synchronisation leaves the state of the hub alone. -/
theorem hubStep_steps {h v : Hub} {e : HubEvent} (hstep : hubStep h e = some v) :
    stepsLeft v.currentState + stepsOutside h e = stepsLeft h.currentState + setbacks h e := by
  cases e with
  | lte evt =>
    cases hstep
    have hhandled := foldl_lteHandler h [evt]
    rw [List.foldl_cons, List.foldl_nil] at hhandled
    rw [hhandled]
    rfl
  | step env =>
    cases hstep
    exact runStateMachine_steps env h
  | twinSync =>
    obtain ⟨-, hv⟩ := Option.ite_none_right_eq_some.mp hstep
    cases hv
    unfold twinSyncWorker
    dsimp only
    split <;> rfl

/-! ## The twin synchronisation -/

/-- The twin synchronisation is scheduled exactly in `OPERATIONAL`. -/
def SyncsTwin (h : Hub) : Prop := h.twinSyncWork = true ↔ h.currentState = .operational

theorem syncsTwin_runStateMachine {env : Results} {h : Hub} (hsync : SyncsTwin h) :
    SyncsTwin (runStateMachine env h) := by
  by_cases hop : (runStateMachine env h).currentState = .operational
  · refine iff_of_true ?_ hop
    rcases runStateMachine_operational hop with hbefore | ⟨hstate, hconn⟩
    · rw [runStateMachine_feeds hbefore]
      exact hsync.mpr hbefore
    · rw [runStateMachine_connects hstate hconn]
      rfl
  · refine iff_of_false ?_ hop
    -- nothing but entering `OPERATIONAL` schedules it, and the hub has not been there
    have hnot : h.currentState ≠ .operational := by
      intro hstate
      rw [runStateMachine_feeds hstate] at hop
      exact hop hstate
    have hbefore : h.twinSyncWork = false :=
      Bool.eq_false_iff.mpr fun hwork => hnot (hsync.mp hwork)
    have hkept : (runStateMachine env h).twinSyncWork = h.twinSyncWork := by
      revert hop
      unfold runStateMachine
      cases hstate : h.currentState with
      | hubInit =>
        intro _
        dsimp only
        split <;> rfl
      | lteConnecting =>
        intro _
        have hwork := (lteConnectionConnect_keeps env h).2
        dsimp only
        split
        · split <;> exact hwork
        · exact hwork
      | dpsProvisioning =>
        intro _
        dsimp only
        split <;> rfl
      | iotHubConnecting =>
        intro hop
        dsimp only at hop ⊢
        split
        · next hconn => exact absurd (by rw [if_pos hconn]) hop
        · rfl
      | operational => exact absurd hstate hnot
      | error => exact fun _ => rfl
    rw [hkept, hbefore]
    exact Bool.false_ne_true

theorem syncsTwin_step {h v : Hub} {e : HubEvent} (hsync : SyncsTwin h)
    (hstep : hubStep h e = some v) : SyncsTwin v := by
  cases e with
  | lte evt =>
    cases hstep
    have hhandled := foldl_lteHandler h [evt]
    rw [List.foldl_cons, List.foldl_nil] at hhandled
    rw [hhandled]
    exact hsync
  | step env =>
    cases hstep
    exact syncsTwin_runStateMachine hsync
  | twinSync =>
    obtain ⟨hwork, hv⟩ := Option.ite_none_right_eq_some.mp hstep
    cases hv
    unfold twinSyncWorker
    dsimp only
    rw [if_pos (hsync.mp hwork)]
    exact iff_of_true rfl (hsync.mp hwork)

/-! ## Runs -/

/-- **Progress**: in every run the steps taken outside of `OPERATIONAL`, and those still to be
taken if nothing fails, are three and one for each setback (two for a failed initialisation). So
the hub is operational iff it has taken so many; and exactly then, the twin synchronisation is
scheduled. -/
theorem hub_progress {es : List HubEvent} {h : Hub} (hrun : run hubStep {} es = some h) :
    stepsLeft h.currentState + runTotal hubStep stepsOutside {} es =
      3 + runTotal hubStep setbacks {} es ∧
    (h.currentState = .operational ↔
      runTotal hubStep stepsOutside {} es = 3 + runTotal hubStep setbacks {} es) ∧
    (h.twinSyncWork = true ↔ h.currentState = .operational) := by
  have hsteps : stepsLeft h.currentState + runTotal hubStep stepsOutside {} es =
      3 + runTotal hubStep setbacks {} es :=
    @run_potential _ _ _ (fun h => stepsLeft h.currentState) _ _ _ _ _
      (fun _ _ _ hstep => hubStep_steps hstep) hrun
  have hzero : h.currentState = .operational ↔ stepsLeft h.currentState = 0 := by
    cases h.currentState <;> decide
  have hsync : SyncsTwin h :=
    run_inv (P := SyncsTwin) (iff_of_false Bool.false_ne_true (by decide))
      (fun _ _ _ hs hstep => syncsTwin_step hs hstep) hrun
  refine ⟨hsteps, ?_, hsync⟩
  rw [hzero]
  omega

/-- An initialisation that fails, and then a boot into a network -/
def failedInit : List HubEvent :=
  .step { registersAt 0 with lteLcInit := -5 } :: .step (registersAt 0) :: bootInto 0

/-- The setback takes two steps, and the hub is operational after five. -/
theorem operational_after_failedInit :
    ∃ h, run hubStep {} failedInit = some h ∧
      (h.currentState = .operational ↔
        runTotal hubStep stepsOutside {} failedInit = 3 + runTotal hubStep setbacks {} failedInit) ∧
      runTotal hubStep setbacks {} failedInit = 2 := by
  obtain ⟨h, hrun⟩ := Option.isSome_iff_exists.mp
    (show (run hubStep {} failedInit).isSome = true by decide +kernel)
  exact ⟨h, hrun, (hub_progress hrun).2.1, by decide +kernel⟩

end SensorNet.Cellular
