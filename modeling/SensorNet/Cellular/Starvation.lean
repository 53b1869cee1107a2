import SensorNet.Cellular.Main

/-!
# Does the hub starve its watchdog?

The watchdog resets the hub 30 seconds after the last feed, but only
`OPERATIONAL` feeds it: all that is slept before the hub first gets there counts
against one window, which a single step of `ERROR`, a single failed registration
with any other setback, or a network that takes more than 30 of the 60 looks of
`lte_connection_connect` exceeds.

The hub never leaves `OPERATIONAL`, and feeds ten times a second there. So
`fed_iff`: the watchdog is fed in time iff the setbacks on the way cost no more
than 30 seconds.
-/

namespace SensorNet.Cellular

open WatchdogAction

/-! ## Registration -/

/-- Whether the hub is registered with the network after `evts`: what the last
registration status says, and without one as it `was`. -/
def registered (was : Bool) (evts : List LteEvent) : Bool :=
  evts.foldl (fun was evt =>
    match evt with
    | .nwRegStatus status => decide (status = .registeredHome ∨ status = .registeredRoaming)
    | _ => was) was

theorem registered_append (was : Bool) (evts more : List LteEvent) :
    registered was (evts ++ more) = registered (registered was evts) more :=
  List.foldl_append

/-- `lte_handler` keeps `connected` up to date, and does nothing else. -/
theorem foldl_lteHandler (h : Hub) (evts : List LteEvent) :
    evts.foldl lteHandler h = { h with connected := registered h.connected evts } := by
  induction evts generalizing h with
  | nil => rfl
  | cons evt evts ih =>
    rw [List.foldl_cons, ih]
    cases evt with
    | nwRegStatus status => cases status <;> rfl
    | psmUpdate => rfl
    | other => rfl

/-- The number of looks, out of `n`, before one finds the hub registered. -/
def looksMissed (n : Nat) (was : Bool) (waiting : Nat → List LteEvent) : Nat :=
  ((List.range n).takeWhile fun i =>
    !registered was ((List.range (i + 1)).flatMap waiting)).length

theorem looksMissed_succ (n : Nat) (was : Bool) (waiting : Nat → List LteEvent) :
    looksMissed (n + 1) was waiting =
      if registered was (waiting 0) then 0
      else looksMissed n (registered was (waiting 0)) (fun i => waiting (i + 1)) + 1 := by
  -- the looks but the first
  have hlater : ∀ i, (List.range (i + 1 + 1)).flatMap waiting =
      waiting 0 ++ (List.range (i + 1)).flatMap fun j => waiting (j + 1) := by
    intro i
    rw [List.range_succ_eq_map, List.flatMap_cons, List.flatMap_map]
  have hfirst : (List.range 1).flatMap waiting = waiting 0 := List.append_nil _
  unfold looksMissed
  rw [List.range_succ_eq_map]
  cases hnow : registered was (waiting 0) with
  | true =>
    rw [List.takeWhile_cons_of_neg (by rw [hfirst, hnow]; decide)]
    rfl
  | false =>
    rw [List.takeWhile_cons_of_pos (by rw [hfirst, hnow]; rfl), if_neg Bool.false_ne_true,
      List.length_cons, List.takeWhile_map, List.length_map]
    congr 3
    funext i
    rw [Function.comp_apply, hlater, registered_append, hnow]

/-- Waiting sleeps a second for each look missed. -/
theorem waitConnected_spec (n : Nat) (waiting : Nat → List LteEvent) (h : Hub) :
    ∃ connected, (waitConnected n waiting h).2 =
      { h with
        connected := connected
        actions := h.actions ++
          List.replicate (looksMissed n h.connected waiting) (.sleep 1000) } := by
  induction n generalizing waiting h with
  | zero => exact ⟨h.connected, by simp [waitConnected, looksMissed]⟩
  | succ n ih =>
    unfold waitConnected
    rw [foldl_lteHandler, looksMissed_succ]
    cases hnow : registered h.connected (waiting 0) with
    | true => exact ⟨true, by simp⟩
    | false =>
      obtain ⟨connected, hrest⟩ := ih (fun i => waiting (i + 1))
        (kSleep 1000 { h with connected := false })
      refine ⟨connected, ?_⟩
      show (waitConnected n _ (kSleep 1000 { h with connected := false })).2 = _
      rw [hrest, if_neg Bool.false_ne_true, List.replicate_succ]
      show Hub.mk .. = Hub.mk ..
      simp [kSleep]

/-! ## Setbacks -/

/-- The looks of `lte_connection_connect` that do not find the hub registered. -/
def missedLooks (h : Hub) : HubEvent → Nat
  | .step env =>
    if h.currentState = .lteConnecting ∧ env.lteLcConnectAsync = 0 then
      looksMissed connectLooks h.connected env.waiting
    else 0
  | _ => 0

/-- `provisioning_register` fails. -/
def failedRegistrations (h : Hub) : HubEvent → Nat
  | .step env =>
    if h.currentState = .dpsProvisioning ∧ env.provisioningRegister ≠ 0 then 1 else 0
  | _ => 0

/-- `iot_hub_connect` fails. -/
def failedConnects (h : Hub) : HubEvent → Nat
  | .step env => if h.currentState = .iotHubConnecting ∧ env.iotHubConnect ≠ 0 then 1 else 0
  | _ => 0

/-- A step in `ERROR`. -/
def errorSteps (h : Hub) : HubEvent → Nat
  | .step _ => if h.currentState = .error then 1 else 0
  | _ => 0

/-- What an event costs, in seconds. -/
def secondsLost (h : Hub) (e : HubEvent) : Nat :=
  missedLooks h e + 30 * failedRegistrations h e + 10 * failedConnects h e +
    60 * errorSteps h e

/-! ## The starvation invariant -/

/-- Outside of `OPERATIONAL` the hub sleeps for the seconds lost and does not feed. -/
theorem runStateMachine_sleeps {h : Hub} (hop : h.currentState ≠ .operational)
    (env : Results) :
    ∃ sleeps, feed ∉ sleeps ∧ totalSleep sleeps = 1000 * secondsLost h (.step env) ∧
      (runStateMachine env h).actions = h.actions ++ sleeps := by
  unfold runStateMachine secondsLost missedLooks failedRegistrations failedConnects errorSteps
  cases hstate : h.currentState with
  | hubInit =>
    refine ⟨[], by simp, by simp, ?_⟩
    dsimp only
    split <;> exact (List.append_nil _).symm
  | lteConnecting =>
    by_cases hasync : env.lteLcConnectAsync = 0
    · -- one second for each look at the flag that finds it unset
      obtain ⟨connected, hwait⟩ := waitConnected_spec connectLooks env.waiting h
      refine ⟨List.replicate (looksMissed connectLooks h.connected env.waiting) (.sleep 1000),
        by simp [List.mem_replicate], by simp [hasync, Nat.mul_comm], ?_⟩
      have hconnect : lteConnectionConnect env h =
          waitConnected connectLooks env.waiting h := if_neg (by simpa using hasync)
      dsimp only
      rw [hconnect, hwait]
      split <;> (try split) <;> rfl
    · refine ⟨[], by simp, by simp [hasync], ?_⟩
      have hconnect : lteConnectionConnect env h = (env.lteLcConnectAsync, h) := if_pos hasync
      dsimp only
      rw [hconnect, if_neg hasync, List.append_nil]
  | dpsProvisioning =>
    by_cases hreg : env.provisioningRegister = 0
    · exact ⟨[], by simp, by simp [hreg], by simp [hreg]⟩
    · exact ⟨[.sleep 30000], by simp, by simp [hreg], by simp [hreg, kSleep]⟩
  | iotHubConnecting =>
    by_cases hconn : env.iotHubConnect = 0
    · exact ⟨[], by simp, by simp [hconn], by simp [hconn, scheduleTwinSync]⟩
    · exact ⟨[.sleep 10000], by simp, by simp [hconn], by simp [hconn, kSleep]⟩
  | operational => exact absurd hstate hop
  | error => exact ⟨[.sleep 60000], by simp, by simp, by simp [kSleep]⟩

/-- In `OPERATIONAL` it feeds and sleeps for a tenth of a second. -/
theorem runStateMachine_feeds {h : Hub} (hop : h.currentState = .operational)
    (env : Results) :
    runStateMachine env h = { h with actions := h.actions ++ feed :: [.sleep 100] } := by
  unfold runStateMachine
  rw [hop]
  show Hub.mk .. = Hub.mk ..
  simp [feedWatchdog, hop]

/-- The hub after setbacks of `lost` seconds: either it has not fed its watchdog and
slept for so long, or it is operational, and has fed it in time iff they were not too many. -/
def StarvationInv (lost : Nat) (h : Hub) : Prop :=
  (feed ∉ h.actions ∧ totalSleep h.actions = 1000 * lost) ∨
    (h.currentState = .operational ∧ (Fed wdtWindowMax h.actions ↔ lost ≤ 30))

theorem StarvationInv.inTime_iff {lost : Nat} {h : Hub} (hinv : StarvationInv lost h) :
    Fed wdtWindowMax h.actions ↔ lost ≤ 30 := by
  rcases hinv with ⟨hno, htotal⟩ | ⟨-, hfed⟩
  · rw [fed_iff_of_not_mem hno, htotal]
    unfold wdtWindowMax
    omega
  · exact hfed

/-- What leaves the actions and the state alone leaves the invariant. -/
theorem starvationInv_congr {lost : Nat} {h v : Hub} (hinv : StarvationInv lost h)
    (hstate : v.currentState = h.currentState) (hactions : v.actions = h.actions) :
    StarvationInv lost v := by
  unfold StarvationInv
  rw [hstate, hactions]
  exact hinv

theorem starvationInv_step {lost : Nat} {h v : Hub} {e : HubEvent}
    (hinv : StarvationInv lost h) (hstep : hubStep h e = some v) :
    StarvationInv (lost + secondsLost h e) v := by
  cases e with
  | lte evt =>
    cases hstep
    have hhandled := foldl_lteHandler h [evt]
    rw [List.foldl_cons, List.foldl_nil] at hhandled
    rw [hhandled]
    exact starvationInv_congr hinv rfl rfl
  -- the worker leaves the state and the actions
  | twinSync =>
    obtain ⟨-, hv⟩ := Option.ite_none_right_eq_some.mp hstep
    cases hv
    unfold twinSyncWorker
    dsimp only
    split <;> exact starvationInv_congr hinv rfl rfl
  | step env =>
    cases hstep
    by_cases hop : h.currentState = .operational
    · -- the feed closes the first window, and the sleep behind it fits into another
      have hcost : secondsLost h (.step env) = 0 := by
        simp [secondsLost, missedLooks, failedRegistrations, failedConnects, errorSteps, hop]
      have hrest : Fed wdtWindowMax [.sleep 100] :=
        (fed_iff_of_not_mem (by simp)).mpr (by decide)
      rw [runStateMachine_feeds hop, hcost]
      refine .inr ⟨hop, ?_⟩
      rw [fed_append_feed, hinv.inTime_iff]
      exact and_iff_left hrest
    · -- nothing but sleeps is added, and there was no feed before
      obtain ⟨sleeps, hno, htotal, hactions⟩ := runStateMachine_sleeps hop env
      rcases hinv with ⟨hunfed, hslept⟩ | ⟨hop', -⟩
      · refine .inl ⟨?_, ?_⟩
        · rw [hactions, List.mem_append]
          exact not_or.mpr ⟨hunfed, hno⟩
        · rw [hactions, totalSleep_append, hslept, htotal, Nat.mul_add]
      · exact absurd hop' hop

/-- **Watchdog starvation**: in every run the watchdog is fed in time iff no step is taken
in `ERROR`, and the looks missed (a second each), the failed registrations (30 seconds) and
the failed connections (10 seconds) cost at most 30 seconds. -/
theorem fed_iff {es : List HubEvent} {h : Hub} (hrun : run hubStep {} es = some h) :
    Fed wdtWindowMax h.actions ↔
      runTotal hubStep errorSteps {} es = 0 ∧
        runTotal hubStep missedLooks {} es + 30 * runTotal hubStep failedRegistrations {} es +
          10 * runTotal hubStep failedConnects {} es ≤ 30 := by
  have hinv : StarvationInv (runTotal hubStep secondsLost {} es) h :=
    run_inv_total (.inl ⟨by simp, rfl⟩) (fun _ _ _ _ => starvationInv_step) hrun
  have htotal : runTotal hubStep secondsLost {} es =
      runTotal hubStep missedLooks {} es + 30 * runTotal hubStep failedRegistrations {} es +
        10 * runTotal hubStep failedConnects {} es + 60 * runTotal hubStep errorSteps {} es := by
    unfold secondsLost
    simp only [runTotal_add, runTotal_mul]
  rw [hinv.inTime_iff, htotal]
  omega

/-- A boot into a network that registers the hub before the `look`-th look, up to the first
feed. -/
def bootInto (look : Nat) : List HubEvent :=
  List.replicate 4 (.step (registersAt look))

/-- A network that answers in three seconds. -/
theorem fed_in_quick_network : ∃ h, run hubStep {} (bootInto 3) = some h ∧
    Fed wdtWindowMax h.actions :=
  ⟨_, rfl, (fed_iff (rfl : run hubStep {} (bootInto 3) = _)).mpr (by decide)⟩

/-- A network that takes 40 seconds. -/
theorem starved_in_slow_network : ∃ h, run hubStep {} (bootInto 40) = some h ∧
    h.currentState = .operational ∧ ¬ Fed wdtWindowMax h.actions := by
  refine ⟨_, rfl, rfl, fun hfed => ?_⟩
  have htoo : 40000 ≤ wdtWindowMax :=
    hfed [] (List.replicate 40 (.sleep 1000)) [feed, .sleep 100] (by decide) (by decide)
  exact absurd htoo (by decide)

end SensorNet.Cellular
