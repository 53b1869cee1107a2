import SensorNet.Node.SensorControl

/-!
# The sensor is powered while it is sampled

`sensor_read` returns from the middle of its loop when a call of the ADC fails. Each call
has the same shape all the same: power-up and warm-up, then reads and pauses, then
power-down, then no more of either (`powerGated_of_shape`). `sensor_powerGated` says what
follows for the trace of every call, and for its result.
-/

namespace SensorNet.Node

open C (Stop)

namespace HardwareAction

/-- It switches the sensor. -/
def isSwitch : HardwareAction → Bool
  | gpioPinSet _ => true
  | _ => false

/-- It is a call of the ADC. -/
def isAdcRead : HardwareAction → Bool
  | .adcReadVoltage _ => true
  | .adcReadBattery _ => true
  | _ => false

end HardwareAction

open HardwareAction

/-- Whether the sensor has power after the actions. `sensor_init` configures the pin as
inactive. -/
def powered (trace : List HardwareAction) : Bool :=
  trace.foldl (fun on action =>
    match action with
    | .gpioPinSet value => value != 0
    | _ => on) false

/-- The number of reads of a burst of `n`: the first one that fails is the last. -/
def readsMade (env : SensorEnv) (n : Nat) : Nat :=
  match (List.range n).find? fun k => decide ((env.adc k).ret < 0) with
  | some k => k + 1
  | none => n

/-- The reads of a burst of `n`, each with what the ADC returned -/
def burstReads (env : SensorEnv) (n : Nat) : List HardwareAction :=
  (List.range (readsMade env n)).map fun k => .adcReadVoltage (env.adc k).ret

/-- The power during a call:
1. it is switched on once, before the delay for the warm-up, and that is before all else;
2. the reads of the sensor are those of the burst, up to the first one that fails;
3. they are all made while the power is on;
4. it is switched off once, with no read behind that;
5. at the end it is off. -/
structure PowerGated (env : SensorEnv) (config : NodeConfig) (trace : List HardwareAction) :
    Prop where
  onFirst : ∃ rest, trace = .gpioPinSet 1 :: .kMsleep config.sampling.warmupMs.toNat :: rest ∧
    ∀ action ∈ rest, action.isSwitch = true → action = .gpioPinSet 0
  reads : trace.filter isVoltageRead = burstReads env (samplesOf config)
  readsPowered : ∀ pre ret post, trace = pre ++ .adcReadVoltage ret :: post → powered pre = true
  offOnce : trace.count (.gpioPinSet 0) = 1
  offLast : ∀ pre post, trace = pre ++ .gpioPinSet 0 :: post →
    ∀ action ∈ post, action.isVoltageRead = false
  off : powered trace = false

/-- The result of a call:
1. it is an error exactly when a read of the burst fails;
2. that read's error is returned, no further call of the ADC is made, and the reading is
   left alone;
3. otherwise the call succeeds, unless the sum for the mean overflows. -/
structure ReportsFailure (env : SensorEnv) (config : NodeConfig) (reading : SensorReading)
    (stop : Stop) (s : SensorReadState) : Prop where
  error_iff : (∃ ret, ret < 0 ∧ stop = .returned ret) ↔
    ∃ k < samplesOf config, (env.adc k).ret < 0
  atFailure : ∀ pre ret post, s.trace = pre ++ .adcReadVoltage ret :: post → ret < 0 →
    stop = .returned ret ∧ (∀ action ∈ post, action.isAdcRead = false) ∧ s.reading = reading
  otherwise : (∀ k < samplesOf config, 0 ≤ (env.adc k).ret) →
    stop = .returned 0 ∨
      (stop = .undefined .overflow ∧ config.sampling.aggregation = 0 ∧
        ¬ SumsInRange (samples env (samplesOf config)) (samplesOf config))

/-! ## The shape of a trace -/

/-- Where two lists are cut, one cut is before the other, or they are the same. -/
theorem append_cons_eq_append_cons {α : Type} {pre post mid tail : List α} {a b : α}
    (h : pre ++ a :: post = mid ++ b :: tail) :
    (∃ x, mid = pre ++ a :: x ∧ post = x ++ b :: tail) ∨
      (pre = mid ∧ a = b ∧ post = tail) ∨ ∃ x, pre = mid ++ b :: x ∧ tail = x ++ a :: post := by
  rcases List.append_eq_append_iff.mp h with ⟨x, hmid, hpost⟩ | ⟨x, hpre, htail⟩
  · cases x with
    | nil =>
      rw [List.nil_append, List.cons.injEq] at hpost
      rw [List.append_nil] at hmid
      exact .inr (.inl ⟨hmid.symm, hpost⟩)
    | cons c x =>
      rw [List.cons_append, List.cons.injEq] at hpost
      obtain ⟨rfl, hpost⟩ := hpost
      exact .inl ⟨x, hmid, hpost⟩
  · cases x with
    | nil =>
      rw [List.nil_append, List.cons.injEq] at htail
      rw [List.append_nil] at hpre
      exact .inr (.inl ⟨hpre, htail.1.symm, htail.2.symm⟩)
    | cons c x =>
      rw [List.cons_append, List.cons.injEq] at htail
      obtain ⟨rfl, htail⟩ := htail
      exact .inr (.inr ⟨x, hpre, htail⟩)

theorem powered_append (trace : List HardwareAction) {more : List HardwareAction}
    (hmore : ∀ action ∈ more, action.isSwitch = false) :
    powered (trace ++ more) = powered trace := by
  unfold powered
  rw [List.foldl_append]
  generalize trace.foldl _ false = on
  induction more generalizing on with
  | nil => rfl
  | cons action more ih =>
    have hfirst := hmore action (List.mem_cons_self ..)
    have hrest := fun a ha => hmore a (List.mem_cons_of_mem _ ha)
    cases action with
    | gpioPinSet value => cases hfirst
    | kMsleep ms => exact ih hrest on
    | adcReadVoltage ret => exact ih hrest on
    | adcReadBattery ret => exact ih hrest on
    | kUptimeGet => exact ih hrest on

/-- A power-down ends the power. -/
theorem powered_append_off (trace : List HardwareAction) :
    powered (trace ++ [.gpioPinSet 0]) = false := by
  unfold powered
  rw [List.foldl_append]
  rfl

theorem not_mem_of_isSwitch {actions : List HardwareAction}
    (h : ∀ action ∈ actions, action.isSwitch = false) (value : Int) :
    .gpioPinSet value ∉ actions :=
  fun hmem => Bool.noConfusion (h _ hmem)

/-- A read behind the warm-up is made with the power on. -/
theorem powered_at_read {config : NodeConfig} {mid pre x : List HardwareAction} {ret : Int}
    (hmid : ∀ action ∈ mid, action.isSwitch = false)
    (h : warmUp config ++ mid = pre ++ .adcReadVoltage ret :: x) : powered pre = true := by
  -- the two actions of the warm-up are no reads
  match pre, h with
  | [], h => cases h
  | [_], h => cases h
  | _ :: _ :: pre, h =>
    unfold warmUp at h
    rw [List.cons_append, List.cons_append, List.nil_append, List.cons_append,
      List.cons_append, List.cons.injEq, List.cons.injEq] at h
    obtain ⟨rfl, rfl, h⟩ := h
    exact powered_append (warmUp config) fun action ha =>
      hmid action (h ▸ List.mem_append_left _ ha)

/-- Power-up and warm-up, the reads of the burst and pauses, power-down, and no more of either -/
theorem powerGated_of_shape {env : SensorEnv} {config : NodeConfig}
    {mid tail : List HardwareAction}
    (hmid : ∀ action ∈ mid, action.isSwitch = false)
    (hreads : mid.filter isVoltageRead = burstReads env (samplesOf config))
    (htail : ∀ action ∈ tail, action.isSwitch = false ∧ action.isVoltageRead = false) :
    PowerGated env config (warmUp config ++ mid ++ .gpioPinSet 0 :: tail) := by
  have htailSwitch := fun action ha => (htail action ha).1
  have htailReads : tail.filter isVoltageRead = [] :=
    List.filter_eq_nil_iff.mpr fun action ha => by
      rw [(htail action ha).2]
      exact Bool.false_ne_true
  have hbefore : HardwareAction.gpioPinSet 0 ∉ warmUp config ++ mid := by
    rw [List.mem_append]
    rintro (hin | hin)
    · simp [warmUp] at hin
    · exact not_mem_of_isSwitch hmid 0 hin
  have hbehind := not_mem_of_isSwitch htailSwitch 0
  refine ⟨⟨mid ++ .gpioPinSet 0 :: tail, rfl, ?_⟩, ?_, ?_, ?_, ?_, ?_⟩
  · intro action ha hswitch
    rcases List.mem_append.mp ha with hin | hin
    · exact absurd hswitch (by rw [hmid action hin]; nofun)
    · rcases List.mem_cons.mp hin with rfl | hin
      · rfl
      · exact absurd hswitch (by rw [htailSwitch action hin]; nofun)
  · rw [List.filter_append, List.filter_append, hreads, List.filter_cons_of_neg (by decide),
      htailReads, List.append_nil]
    rfl
  · intro pre ret post h
    rcases append_cons_eq_append_cons h.symm with ⟨x, hx, -⟩ | ⟨-, hx, -⟩ | ⟨x, -, hx⟩
    · exact powered_at_read hmid hx
    · cases hx
    · -- there is no read behind the power-down
      have hread := (htail (.adcReadVoltage ret) (by rw [hx]; simp)).2
      cases hread
  · rw [List.count_append, List.count_cons_self, List.count_eq_zero.mpr hbefore,
      List.count_eq_zero.mpr hbehind]
  · intro pre post h
    -- the power is switched off once, so the cut is there
    obtain ⟨-, -, rfl⟩ := (List.append_cons_inj_of_notMem hbefore hbehind).mp h
    exact fun action ha => (htail action ha).2
  · rw [← List.singleton_append, ← List.append_assoc, powered_append _ htailSwitch]
    exact powered_append_off _

/-! ## The burst -/

variable {env : SensorEnv} {config : NodeConfig} {reading : SensorReading}

theorem mem_burstTrace {n i : Nat} {action : HardwareAction} (h : action ∈ burstTrace env n i) :
    (∃ k < i, action = .adcReadVoltage (env.adc k).ret) ∨ action = .kMsleep 10 := by
  obtain ⟨k, hk, haction⟩ := List.mem_flatMap.mp h
  rcases List.mem_cons.mp haction with rfl | hpause
  · exact .inl ⟨k, List.mem_range.mp hk, rfl⟩
  · split at hpause
    · exact .inr (List.mem_singleton.mp hpause)
    · cases hpause

theorem burstTrace_isSwitch {n i : Nat} :
    ∀ action ∈ burstTrace env n i, action.isSwitch = false := by
  intro action h
  rcases mem_burstTrace h with ⟨k, -, rfl⟩ | rfl <;> rfl

/-- The reads among the actions of the first rounds -/
theorem filter_burstTrace (n i : Nat) :
    (burstTrace env n i).filter isVoltageRead =
      (List.range i).map fun k => .adcReadVoltage (env.adc k).ret := by
  induction i with
  | zero => rfl
  | succ i ih =>
    rw [burstTrace_succ, List.filter_append, ih, List.range_succ, List.map_append,
      List.map_singleton]
    -- the pause behind the read, if there is one, is none
    split <;> rfl

/-- Without a failure all reads of the burst are made. -/
theorem readsMade_of_succeeded {n : Nat} (h : ∀ k < n, 0 ≤ (env.adc k).ret) :
    readsMade env n = n := by
  have hnone : ((List.range n).find? fun k => decide ((env.adc k).ret < 0)) = none := by
    rw [List.find?_eq_none]
    intro k hk hfails
    exact absurd (of_decide_eq_true hfails) (Int.not_lt.mpr (h k (List.mem_range.mp hk)))
  rw [readsMade, hnone]

/-- The first failure is the last read. -/
theorem Failed.readsMade {stop : Stop} {s : SensorReadState} {k : Nat}
    (h : Failed env config reading k stop s) : readsMade env (samplesOf config) = k + 1 := by
  have hfirst : ((List.range (samplesOf config)).find? fun k =>
      decide ((env.adc k).ret < 0)) = some k := by
    rw [List.find?_range_eq_some]
    refine ⟨decide_eq_true h.failed, List.mem_range.mpr h.lt, fun j hj => ?_⟩
    rw [decide_eq_false (Int.not_lt.mpr (h.succeeded j hj)), Bool.not_false]
  rw [Node.readsMade, hfirst]

/-- Where the first reads succeed, no failing read is among the actions up to there. -/
theorem ret_of_mem_burst {n i : Nat} (hsucceeded : ∀ k < i, 0 ≤ (env.adc k).ret) {ret : Int}
    (h : .adcReadVoltage ret ∈ warmUp config ++ burstTrace env n i) : 0 ≤ ret := by
  rcases List.mem_append.mp h with h | h
  · simp [warmUp] at h
  · rcases mem_burstTrace h with ⟨k, hk, heq⟩ | heq
    · cases heq
      exact hsucceeded k hk
    · cases heq

/-- A read that is made is one of the burst. -/
theorem exists_of_mem_reads {trace : List HardwareAction} {n : Nat} {ret : Int}
    (hreads : trace.filter isVoltageRead = burstReads env n) (h : .adcReadVoltage ret ∈ trace) :
    ∃ k < readsMade env n, ret = (env.adc k).ret := by
  have hmem : .adcReadVoltage ret ∈ burstReads env n := by
    rw [← hreads]
    exact List.mem_filter.mpr ⟨h, rfl⟩
  obtain ⟨k, hk, heq⟩ := List.mem_map.mp hmem
  cases heq
  exact ⟨k, List.mem_range.mp hk, rfl⟩

theorem powerGated_sampledTrace (hsucceeded : ∀ k < samplesOf config, 0 ≤ (env.adc k).ret)
    {tail : List HardwareAction}
    (htail : ∀ action ∈ tail, action.isSwitch = false ∧ action.isVoltageRead = false) :
    PowerGated env config (sampledTrace env config ++ tail) := by
  have hreads : (burstTrace env (samplesOf config) (samplesOf config)).filter isVoltageRead =
      burstReads env (samplesOf config) := by
    rw [filter_burstTrace, burstReads, readsMade_of_succeeded hsucceeded]
  unfold sampledTrace
  rw [List.append_assoc]
  exact powerGated_of_shape burstTrace_isSwitch hreads htail

/-- Nothing fails: what is left of `ReportsFailure`. -/
theorem reportsFailure_of_succeeded {stop : Stop} {s : SensorReadState}
    (hsucceeded : ∀ k < samplesOf config, 0 ≤ (env.adc k).ret)
    (hgated : PowerGated env config s.trace)
    (hstop : ∀ ret, stop = .returned ret → 0 ≤ ret)
    (hend : stop = .returned 0 ∨
      (stop = .undefined .overflow ∧ config.sampling.aggregation = 0 ∧
        ¬ SumsInRange (samples env (samplesOf config)) (samplesOf config))) :
    ReportsFailure env config reading stop s := by
  refine ⟨?_, ?_, fun _ => hend⟩
  · constructor
    · rintro ⟨ret, hneg, hret⟩
      exact absurd (hstop ret hret) (Int.not_le.mpr hneg)
    · rintro ⟨k, hk, hneg⟩
      exact absurd (hsucceeded k hk) (Int.not_le.mpr hneg)
  · intro pre ret post h hneg
    have hmem : .adcReadVoltage ret ∈ s.trace := by
      rw [h]
      exact List.mem_append_right _ List.mem_cons_self
    obtain ⟨k, hk, rfl⟩ := exists_of_mem_reads hgated.reads hmem
    rw [readsMade_of_succeeded hsucceeded] at hk
    exact absurd (hsucceeded k hk) (Int.not_le.mpr hneg)

theorem Failed.reports {stop : Stop} {s : SensorReadState} {k : Nat}
    (h : Failed env config reading k stop s) : ReportsFailure env config reading stop s := by
  refine ⟨?_, ?_, fun hall => absurd (hall k h.lt) (Int.not_le.mpr h.failed)⟩
  · exact iff_of_true ⟨_, h.failed, h.stop⟩ ⟨k, h.lt, h.failed⟩
  · intro pre ret post hcut hneg
    rw [h.trace] at hcut
    rcases append_cons_eq_append_cons hcut.symm with ⟨x, hx, -⟩ | ⟨-, hx, hpost⟩ | ⟨x, -, hx⟩
    · -- the reads before round `k` succeeded
      have hmem : .adcReadVoltage ret ∈ warmUp config ++ burstTrace env (samplesOf config) k := by
        rw [hx]
        simp
      exact absurd (ret_of_mem_burst h.succeeded hmem) (Int.not_le.mpr hneg)
    · cases hx
      refine ⟨h.stop, ?_, h.reading⟩
      rw [hpost]
      intro action ha
      rw [List.mem_singleton.mp ha]
      rfl
    · -- behind it is the power-down only
      match x, hx with
      | [], hx => cases hx
      | _ :: x, hx => cases x <;> cases hx

theorem Failed.powerGated {stop : Stop} {s : SensorReadState} {k : Nat}
    (h : Failed env config reading k stop s) : PowerGated env config s.trace := by
  rw [h.trace, ← List.singleton_append, ← List.append_assoc, List.append_assoc (warmUp config)]
  refine powerGated_of_shape (fun action ha => ?_) ?_ fun action ha => absurd ha List.not_mem_nil
  · rcases List.mem_append.mp ha with ha | ha
    · exact burstTrace_isSwitch action ha
    · rw [List.mem_singleton.mp ha]
      rfl
  · -- the reads before round `k`, and the one that fails
    rw [List.filter_append, filter_burstTrace, burstReads, h.readsMade, List.range_succ,
      List.map_append, List.map_singleton]
    rfl

/-- **The sensor is powered exactly while it is sampled, and a failing read is the last
thing that a call does with it.** -/
theorem sensor_powerGated (env : SensorEnv) (config : NodeConfig) (reading : SensorReading) :
    PowerGated env config (sensorRead env config reading).2.trace ∧
      ReportsFailure env config reading (sensorRead env config reading).1
        (sensorRead env config reading).2 := by
  rcases sensorRead_cases env config reading with h | ⟨k, hfailed⟩ | ⟨hmean, hsucceeded, hover⟩
  · have hgated : PowerGated env config (sensorRead env config reading).2.trace := by
      rw [h.trace]
      exact powerGated_sampledTrace h.succeeded (by simp [isSwitch, isVoltageRead])
    refine ⟨hgated, reportsFailure_of_succeeded h.succeeded hgated (fun ret hret => ?_)
      (.inl h.stop)⟩
    rw [h.stop] at hret
    cases hret
    exact le_rfl
  · -- a read fails: the power is switched off on the way out
    exact ⟨hfailed.powerGated, hfailed.reports⟩
  · -- the sum overflows after the power-down
    have hlen := length_samples env (samplesOf config)
    have hsums := hover.sums
    rw [hlen] at hsums
    have hgated : PowerGated env config (sensorRead env config reading).2.trace := by
      rw [hover.trace, ← List.append_nil (sampledTrace env config)]
      exact powerGated_sampledTrace hsucceeded fun action ha => absurd ha List.not_mem_nil
    refine ⟨hgated, reportsFailure_of_succeeded hsucceeded hgated (fun ret hret => ?_)
      (.inr ⟨hover.stop, hmean, hsums⟩)⟩
    rw [hover.stop] at hret
    cases hret

end SensorNet.Node
