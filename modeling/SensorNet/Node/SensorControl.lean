import SensorNet.Lib.BubbleSort
import SensorNet.Lib.CProgram
import Mathlib.Algebra.Ring.Int.Defs

/-!
# Reading the sensor (`node_nrf54l15/src/sensor/sensor_control.c`)

`sensor_read` switches the sensor on for a burst of ADC reads, aggregates them and fills in
the reading. The hardware answers each call (`SensorEnv`), and the actions on it form a trace.
The local array `adc_values` is without values at first, and arithmetic of `int32_t` is
checked: `sensorReadBody` is undefined where C is.

`sensorRead_cases` says once what a call can do. Log messages are left out.
-/

namespace SensorNet.Node

open C (Prog Stop Undefined Triple)

/-! ## The data of `sensor_control.h` -/

/-- `struct sensor_reading` -/
structure SensorReading where
  value : Float32
  unit : String
  rawValue : Int
  timestampMs : UInt32
  batteryMv : UInt16
  faults : UInt8

/-- `sampling` of `struct node_config`, without the interval -/
structure SamplingConfig where
  warmupMs : UInt16
  burstCount : UInt8
  /-- 0 = mean, 1 = median -/
  aggregation : UInt8

/-- `calibration` of `struct node_config` -/
structure CalibrationConfig where
  offset : Float32
  slope : Float32
  polyA : Float32
  polyB : Float32

/-- `alarms` of `struct node_config` -/
structure AlarmConfig where
  highThreshold : Float32
  lowThreshold : Float32
  enableHigh : Bool
  enableLow : Bool

/-- `struct node_config` -/
structure NodeConfig where
  sampling : SamplingConfig
  calibration : CalibrationConfig
  alarms : AlarmConfig

/-! ## The hardware -/

/-- What a call of the ADC returns, and the value that it writes. -/
structure AdcResult where
  ret : Int
  valueMv : Int
  deriving DecidableEq, Repr

/-- How the hardware answers during a call of `sensor_read`:
- `adc`: the calls of `adc_read_voltage_mv`, in their order;
- `battery`: that of `adc_read_battery_mv`;
- `uptime`: that of `k_uptime_get_32`. -/
structure SensorEnv where
  adc : Nat → AdcResult
  battery : AdcResult
  uptime : UInt32

/-- The actions on the hardware, and what the calls of the ADC returned:
`gpioPinSet` is that of the power pin of the sensor. -/
inductive HardwareAction where
  | gpioPinSet (value : Int)
  | kMsleep (ms : Int)
  | adcReadVoltage (ret : Int)
  | adcReadBattery (ret : Int)
  | kUptimeGet
  deriving DecidableEq, Repr

/-- It reads the sensor. -/
def HardwareAction.isVoltageRead : HardwareAction → Bool
  | .adcReadVoltage _ => true
  | _ => false

/-- The state of a call: the trace, the local variables of the loops, and the structure that
`reading` points to. -/
structure SensorReadState where
  trace : List HardwareAction := []
  adcValues : C.Cells 10 := C.Cells.uninitialised 10
  sum : Int := 0
  reading : SensorReading

/-- Statements of `sensor_read` -/
abbrev SensorProg (α : Type) : Type := Prog SensorReadState α

/-- An action on the hardware -/
def act (action : HardwareAction) : SensorProg Unit :=
  modify fun s => { s with trace := s.trace ++ [action] }

/-- `adc_read_voltage_mv(&adc_values[i])` -/
def adcReadVoltageMv (env : SensorEnv) (i : Nat) : SensorProg Int := do
  let s ← get
  let result := env.adc (s.trace.countP HardwareAction.isVoltageRead)
  let adcValues ← C.eval (s.adcValues.store i result.valueMv)
  set { s with adcValues, trace := s.trace ++ [HardwareAction.adcReadVoltage result.ret] }
  return result.ret

/-! ## `sensor_read` -/

/-- `burst_count`, after the two checks -/
def clampBurstCount (burstCount : UInt8) : UInt8 :=
  let burstCount := if burstCount = 0 then 1 else burstCount
  if burstCount > 10 then 10 else burstCount

/-- The body of the loop that acquires the samples -/
def acquireSample (env : SensorEnv) (burstCount i : Nat) : SensorProg Unit := do
  let ret ← adcReadVoltageMv env i
  if ret < 0 then
    act (.gpioPinSet 0)
    C.returning ret
  else if (i : Int) < burstCount - 1 then
    act (.kMsleep 10)
  else
    pure ()

/-- `sum += adc_values[i]` -/
def sumSample (i : Nat) : SensorProg Unit := do
  let s ← get
  let value ← C.eval (s.adcValues.load i)
  let sum ← C.eval (C.addInt32 s.sum value)
  set { s with sum }

/-- The body of the loops of the bubble sort -/
def compareSwapSamples (j : Nat) : SensorProg Unit := do
  let s ← get
  let first ← C.eval (s.adcValues.load j)
  let second ← C.eval (s.adcValues.load (j + 1))
  if first > second then
    let adcValues ← C.eval (s.adcValues.store j second)
    let adcValues ← C.eval (adcValues.store (j + 1) first)
    set { s with adcValues }
  else
    pure ()

/-- `reading->raw_value = value` -/
def setRawValue (value : Int) : SensorProg Unit :=
  modify fun s => { s with reading.rawValue := value }

/-- The mean of the samples -/
def aggregateMean (burstCount : Nat) : SensorProg Unit := do
  C.forLoop burstCount sumSample
  let s ← get
  let mean ← C.eval (C.divInt32 s.sum burstCount)
  setRawValue mean

/-- The median of the samples -/
def aggregateMedian (burstCount : Nat) : SensorProg Unit := do
  C.forLoop (burstCount - 1) fun i => C.forLoop (burstCount - i - 1) compareSwapSamples
  let s ← get
  let median ← C.eval (s.adcValues.load (burstCount / 2))
  setRawValue median

/-- The aggregation of the samples -/
def aggregateSamples (config : NodeConfig) (burstCount : Nat) : SensorProg Unit :=
  if config.sampling.aggregation = 0 then aggregateMean burstCount
  else aggregateMedian burstCount

/-- `apply_calibration` -/
def applyCalibration (config : NodeConfig) (rawValue : Int) : Float32 :=
  let voltage := Float32.ofInt rawValue / 1000.0
  let calibrated := voltage * config.calibration.slope + config.calibration.offset
  if config.calibration.polyA != 0.0 || config.calibration.polyB != 0.0 then
    let poly := config.calibration.polyA * voltage * voltage + config.calibration.polyB * voltage
    calibrated + poly
  else calibrated

/-- `sensor_get_battery_mv(&reading->battery_mv)`: the value that it writes. -/
def batteryMv (env : SensorEnv) : UInt16 :=
  if env.battery.ret < 0 then 0 else UInt16.ofInt env.battery.valueMv

/-- The check for faults -/
def alarmFaults (config : NodeConfig) (value : Float32) : UInt8 :=
  let faults : UInt8 := 0
  let faults :=
    if config.alarms.enableHigh && decide (value > config.alarms.highThreshold) then
      faults ||| 1
    else faults
  if config.alarms.enableLow && decide (value < config.alarms.lowThreshold) then faults ||| 2
  else faults

/-- The fields that are filled in after `raw_value` -/
def completeReading (env : SensorEnv) (config : NodeConfig) (reading : SensorReading) :
    SensorReading :=
  let value := applyCalibration config reading.rawValue
  { reading with
    value
    unit := "PSI"
    batteryMv := batteryMv env
    timestampMs := env.uptime
    faults := alarmFaults config value }

/-- The body of `sensor_read` -/
def sensorReadBody (env : SensorEnv) (config : NodeConfig) : SensorProg Int := do
  let burstCount := (clampBurstCount config.sampling.burstCount).toNat
  act (.gpioPinSet 1)
  act (.kMsleep config.sampling.warmupMs.toNat)
  C.forLoop burstCount (acquireSample env burstCount)
  act (.gpioPinSet 0)
  aggregateSamples config burstCount
  act (.adcReadBattery env.battery.ret)
  act .kUptimeGet
  modify fun s => { s with reading := completeReading env config s.reading }
  return 0

/-- `sensor_read(config, &reading)` -/
def sensorRead (env : SensorEnv) (config : NodeConfig) (reading : SensorReading) :
    Stop × SensorReadState :=
  C.call (sensorReadBody env config) { reading }

/-! ## Acquiring the samples -/

/-- The number of samples that `sensor_read` takes. -/
def samplesOf (config : NodeConfig) : Nat := (clampBurstCount config.sampling.burstCount).toNat

theorem samplesOf_eq (config : NodeConfig) :
    samplesOf config = max 1 (min config.sampling.burstCount.toNat 10) := by
  unfold samplesOf clampBurstCount
  generalize config.sampling.burstCount = burstCount
  by_cases hzero : burstCount = 0
  · rw [hzero]
    rfl
  · have hpos : burstCount.toNat ≠ 0 := fun h => hzero (UInt8.toNat_inj.mp h)
    rw [if_neg hzero]
    by_cases hten : burstCount > 10
    · have hlt : 10 < burstCount.toNat := UInt8.lt_iff_toNat_lt.mp hten
      rw [if_pos hten, min_eq_right hlt.le]
      rfl
    · have hle : burstCount.toNat ≤ 10 := UInt8.le_iff_toNat_le.mp (UInt8.not_lt.mp hten)
      rw [if_neg hten, min_eq_left hle, max_eq_right (Nat.pos_of_ne_zero hpos)]

/-- The first values that the ADC writes -/
def samples (env : SensorEnv) (i : Nat) : List Int :=
  (List.range i).map fun k => (env.adc k).valueMv

/-- The actions of the first rounds of a burst of `n` samples -/
def burstTrace (env : SensorEnv) (n i : Nat) : List HardwareAction :=
  (List.range i).flatMap fun k =>
    .adcReadVoltage (env.adc k).ret :: if k + 1 < n then [.kMsleep 10] else []

/-- The actions before the burst -/
def warmUp (config : NodeConfig) : List HardwareAction :=
  [.gpioPinSet 1, .kMsleep config.sampling.warmupMs.toNat]

@[simp] theorem length_samples (env : SensorEnv) (i : Nat) : (samples env i).length = i := by
  unfold samples
  rw [List.length_map, List.length_range]

theorem samples_succ (env : SensorEnv) (i : Nat) :
    samples env (i + 1) = samples env i ++ [(env.adc i).valueMv] := by
  unfold samples
  rw [List.range_succ, List.map_append, List.map_singleton]

theorem burstTrace_succ (env : SensorEnv) (n i : Nat) :
    burstTrace env n (i + 1) = burstTrace env n i ++
      .adcReadVoltage (env.adc i).ret :: if i + 1 < n then [.kMsleep 10] else [] := by
  unfold burstTrace
  rw [List.range_succ, List.flatMap_append, List.flatMap_singleton]

@[simp] theorem countP_burstTrace (env : SensorEnv) (n i : Nat) :
    (burstTrace env n i).countP HardwareAction.isVoltageRead = i := by
  induction i with
  | zero => rfl
  | succ i ih =>
    rw [burstTrace_succ, List.countP_append, ih]
    split <;> rfl

variable {env : SensorEnv} {config : NodeConfig} {reading : SensorReading}

/-- After `i` rounds:
1. the calls of the ADC succeeded;
2. the trace is that of as many rounds;
3. the values are in the array;
4. the sum and the reading are as they were. -/
structure Acquired (env : SensorEnv) (config : NodeConfig) (reading : SensorReading) (i : Nat)
    (s : SensorReadState) : Prop where
  succeeded : ∀ k < i, 0 ≤ (env.adc k).ret
  trace : s.trace = warmUp config ++ burstTrace env (samplesOf config) i
  holds : s.adcValues.Holds (samples env i)
  sum : s.sum = 0
  reading : s.reading = reading

/-- The call of the ADC in round `k` is the first one to fail: the sensor is switched off,
and `sensor_read` returns the error. -/
structure Failed (env : SensorEnv) (config : NodeConfig) (reading : SensorReading) (k : Nat)
    (stop : Stop) (s : SensorReadState) : Prop where
  lt : k < samplesOf config
  succeeded : ∀ j < k, 0 ≤ (env.adc j).ret
  failed : (env.adc k).ret < 0
  stop : stop = .returned (env.adc k).ret
  trace : s.trace = warmUp config ++ burstTrace env (samplesOf config) k ++
    [.adcReadVoltage (env.adc k).ret, .gpioPinSet 0]
  reading : s.reading = reading

theorem acquireSample_spec {i : Nat} (hi : i < samplesOf config) :
    Triple (Acquired env config reading i) (acquireSample env (samplesOf config) i)
      (fun _ => Acquired env config reading (i + 1))
      (fun stop s => ∃ k, Failed env config reading k stop s) := by
  intro s hs
  -- the number of reads so far is the index of the next one
  have hcount : s.trace.countP HardwareAction.isVoltageRead = i := by
    rw [hs.trace, List.countP_append, countP_burstTrace]
    exact Nat.zero_add i
  have hroom : (samples env i).length < 10 := by
    rw [samplesOf_eq] at hi
    rw [length_samples]
    omega
  obtain ⟨cells, hstore, hcells⟩ := hs.holds.store_next hroom (env.adc i).valueMv
  rw [length_samples] at hstore
  rw [← samples_succ] at hcells
  have hread : (adcReadVoltageMv env i).run s = .ok (env.adc i).ret
      { s with adcValues := cells, trace := s.trace ++ [.adcReadVoltage (env.adc i).ret] } := by
    unfold adcReadVoltageMv
    rw [C.run_get_bind]
    dsimp only
    rw [hcount, C.run_eval_bind hstore]
    rfl
  unfold acquireSample
  rw [EStateM.run_bind, hread]
  dsimp only
  by_cases hfail : (env.adc i).ret < 0
  · rw [if_pos hfail]
    refine ⟨i, hi, hs.succeeded, hfail, rfl, ?_, hs.reading⟩
    show s.trace ++ [_] ++ [_] = _
    rw [hs.trace, List.append_assoc]
    rfl
  · have hsucceeded : ∀ k < i + 1, 0 ≤ (env.adc k).ret := by
      intro k hk
      rcases Nat.lt_succ_iff_lt_or_eq.mp hk with hlt | rfl
      · exact hs.succeeded k hlt
      · exact Int.not_lt.mp hfail
    rw [if_neg hfail]
    by_cases hlast : i + 1 < samplesOf config
    · rw [if_pos (by omega)]
      refine ⟨hsucceeded, ?_, hcells, hs.sum, hs.reading⟩
      show s.trace ++ [_] ++ [_] = _
      rw [hs.trace, burstTrace_succ, if_pos hlast, List.append_assoc, List.append_assoc]
      rfl
    · rw [if_neg (by omega)]
      refine ⟨hsucceeded, ?_, hcells, hs.sum, hs.reading⟩
      show s.trace ++ [_] = _
      rw [hs.trace, burstTrace_succ, if_neg hlast, List.append_assoc]

/-! ## Aggregating them -/

/-- The samples are in the array. -/
structure Sampled (values : List Int) (trace : List HardwareAction) (reading : SensorReading)
    (s : SensorReadState) : Prop where
  holds : s.adcValues.Holds values
  trace : s.trace = trace
  reading : s.reading = reading

/-- All sums of the first samples are in the range of `int32_t`. -/
def SumsInRange (values : List Int) (n : Nat) : Prop :=
  ∀ k ≤ n, C.InInt32 (values.take k).sum

/-- The sum of the samples overflows. -/
structure Overflowed (values : List Int) (trace : List HardwareAction) (reading : SensorReading)
    (stop : Stop) (s : SensorReadState) : Prop where
  sums : ¬ SumsInRange values values.length
  stop : stop = .undefined .overflow
  trace : s.trace = trace
  reading : s.reading = reading

variable {values : List Int} {trace : List HardwareAction}

theorem sumSample_spec {i : Nat} (hi : i < values.length) :
    Triple
      (fun s => Sampled values trace reading s ∧ s.sum = (values.take i).sum ∧
        SumsInRange values i)
      (sumSample i)
      (fun _ s => Sampled values trace reading s ∧ s.sum = (values.take (i + 1)).sum ∧
        SumsInRange values (i + 1))
      (Overflowed values trace reading) := by
  rintro s ⟨hs, hsum, hrange⟩
  have hload := hs.holds.load (List.getElem?_eq_getElem hi)
  have hnext : s.sum + values[i] = (values.take (i + 1)).sum := by
    rw [List.take_succ_eq_append_getElem hi, List.sum_append, List.sum_singleton, hsum]
  unfold sumSample
  rw [C.run_get_bind, C.run_eval_bind hload]
  by_cases hin : C.InInt32 (s.sum + values[i])
  · rw [C.run_eval_bind (C.addInt32_ok hin)]
    refine ⟨⟨hs.holds, hs.trace, hs.reading⟩, hnext, fun k hk => ?_⟩
    rcases Nat.le_succ_iff.mp hk with hle | rfl
    · exact hrange k hle
    · rwa [← hnext]
  · rw [C.run_eval_error_bind (C.addInt32_overflow hin)]
    refine ⟨fun hall => hin ?_, rfl, hs.trace, hs.reading⟩
    rw [hnext]
    exact hall (i + 1) hi

theorem aggregateMean_spec (trace : List HardwareAction) (reading : SensorReading)
    (hne : values ≠ []) :
    Triple (fun s => Sampled values trace reading s ∧ s.sum = 0)
      (aggregateMean values.length)
      (fun _ s => SumsInRange values values.length ∧
        Sampled values trace
          { reading with rawValue := values.sum.tdiv values.length } s)
      (Overflowed values trace reading) := by
  unfold aggregateMean
  refine Triple.bind ((Triple.forLoop
    (I := fun i s => Sampled values trace reading s ∧ s.sum = (values.take i).sum ∧
      SumsInRange values i)
    fun i hi => sumSample_spec (by omega)).mono ?_ (fun _ _ h => h) fun _ _ h => h) fun _ => ?_
  · rintro s ⟨hs, hsum⟩
    refine ⟨hs, hsum, fun k hk => ?_⟩
    rw [Nat.le_zero.mp hk, List.take_zero, List.sum_nil]
    decide
  · rintro s ⟨hs, hsum, hrange⟩
    have hsum : s.sum = values.sum := by
      rw [hsum, Int.toNat_natCast, List.take_length]
    have hin : C.InInt32 s.sum := by
      rw [hsum, ← List.take_length (l := values)]
      exact hrange _ le_rfl
    have hpos : (0 : Int) < values.length := by
      exact_mod_cast List.length_pos_of_ne_nil hne
    rw [C.run_get_bind, C.run_eval_bind (C.divInt32_ok hin hpos)]
    refine ⟨hrange, hs.holds, hs.trace, ?_⟩
    show { s.reading with rawValue := s.sum.tdiv values.length } = _
    rw [hs.reading, hsum]

theorem compareSwapSamples_spec {j : Nat} (hj : j + 1 < values.length)
    {E : Stop → SensorReadState → Prop} :
    Triple (Sampled values trace reading) (compareSwapSamples j)
      (fun _ => Sampled (BubbleSort.compareSwap values j) trace reading) E := by
  intro s hs
  have hfirst := List.getElem?_eq_getElem (Nat.lt_of_succ_lt hj)
  have hsecond := List.getElem?_eq_getElem hj
  unfold compareSwapSamples BubbleSort.compareSwap
  rw [C.run_get_bind, C.run_eval_bind (hs.holds.load hfirst),
    C.run_eval_bind (hs.holds.load hsecond), hfirst, hsecond]
  dsimp only
  by_cases hgt : values[j] > values[j + 1]
  · obtain ⟨cells₁, hstore₁, hcells₁⟩ := hs.holds.store (Nat.lt_of_succ_lt hj) values[j + 1]
    obtain ⟨cells₂, hstore₂, hcells₂⟩ :=
      hcells₁.store (by rw [List.length_set]; exact hj) values[j]
    rw [if_pos hgt, if_pos hgt, C.run_eval_bind hstore₁, C.run_eval_bind hstore₂]
    exact ⟨hcells₂, hs.trace, hs.reading⟩
  · rw [if_neg hgt, if_neg hgt]
    exact hs

theorem aggregateMedian_spec (trace : List HardwareAction) (reading : SensorReading)
    (hne : values ≠ []) {E : Stop → SensorReadState → Prop} :
    Triple (Sampled values trace reading) (aggregateMedian values.length)
      (fun _ s => ∃ median, (BubbleSort.sort values)[values.length / 2]? = some median ∧
        Sampled (BubbleSort.sort values) trace { reading with rawValue := median } s) E := by
  have hpos := List.length_pos_of_ne_nil hne
  unfold aggregateMedian
  refine Triple.bind (R := fun _ => Sampled (BubbleSort.sort values) trace reading) ?_ fun _ => ?_
  · -- the outer loop makes the passes, the inner one the steps of a pass
    refine (Triple.forLoop (I := fun i => Sampled (BubbleSort.passes values i) trace reading)
      fun i hi => ?_).mono (fun _ h => h) ?_ fun _ _ h => h
    · refine (Triple.forLoop
        (I := fun j => Sampled (BubbleSort.pass (BubbleSort.passes values i) j) trace reading)
        fun j hj => ?_).mono (fun _ h => h) ?_ fun _ _ h => h
      · rw [BubbleSort.pass_succ]
        refine compareSwapSamples_spec ?_
        rw [BubbleSort.length_pass, BubbleSort.length_passes]
        omega
      · intro _ s hs
        rw [BubbleSort.passes_succ]
        rwa [show ((values.length : Int) - i - 1).toNat = values.length - i - 1 by omega] at hs
    · intro _ s hs
      unfold BubbleSort.sort
      rwa [show ((values.length : Int) - 1).toNat = values.length - 1 by omega] at hs
  · intro s hs
    have hlt : values.length / 2 < (BubbleSort.sort values).length := by
      rw [BubbleSort.length_sort]
      omega
    -- in C the index is in the array, since there is a sample
    have hmiddle := List.getElem?_eq_getElem hlt
    rw [C.run_get_bind, C.run_eval_bind (hs.holds.load hmiddle)]
    refine ⟨_, hmiddle, hs.holds, hs.trace, ?_⟩
    show { s.reading with rawValue := (BubbleSort.sort values)[values.length / 2] } = _
    rw [hs.reading]

/-! ## What a call can do -/

/-- `value` is the mean (for `aggregation` 0), or the median, of the values. -/
def Aggregates (aggregation : UInt8) (values : List Int) (value : Int) : Prop :=
  if aggregation = 0 then value = values.sum.tdiv values.length
  else (BubbleSort.sort values)[values.length / 2]? = some value

/-- The actions from power-up to power-down, where all calls of the ADC succeed. -/
def sampledTrace (env : SensorEnv) (config : NodeConfig) : List HardwareAction :=
  warmUp config ++ burstTrace env (samplesOf config) (samplesOf config) ++ [.gpioPinSet 0]

/-- All calls of the ADC succeed, and the reading is filled in:
1. the mean is computed from sums in range;
2. the samples are left in the array, in order for the median. -/
structure Completed (env : SensorEnv) (config : NodeConfig) (reading : SensorReading)
    (stop : Stop) (s : SensorReadState) : Prop where
  succeeded : ∀ k < samplesOf config, 0 ≤ (env.adc k).ret
  inRange : config.sampling.aggregation = 0 →
    SumsInRange (samples env (samplesOf config)) (samplesOf config)
  holds : s.adcValues.Holds <|
    if config.sampling.aggregation = 0 then samples env (samplesOf config)
    else BubbleSort.sort (samples env (samplesOf config))
  stop : stop = .returned 0
  trace : s.trace =
    sampledTrace env config ++ [.adcReadBattery env.battery.ret, .kUptimeGet]
  reading : ∃ value,
    Aggregates config.sampling.aggregation (samples env (samplesOf config)) value ∧
      s.reading = completeReading env config { reading with rawValue := value }

/-- A call that does not get to its end. -/
def Stopped (env : SensorEnv) (config : NodeConfig) (reading : SensorReading) (stop : Stop)
    (s : SensorReadState) : Prop :=
  (∃ k, Failed env config reading k stop s) ∨
    (config.sampling.aggregation = 0 ∧ (∀ k < samplesOf config, 0 ≤ (env.adc k).ret) ∧
      Overflowed (samples env (samplesOf config)) (sampledTrace env config) reading stop s)

theorem one_le_samplesOf (config : NodeConfig) : 1 ≤ samplesOf config := by
  rw [samplesOf_eq]
  exact le_max_left ..

theorem samples_ne_nil (env : SensorEnv) (config : NodeConfig) :
    samples env (samplesOf config) ≠ [] := by
  intro h
  have hlen := congrArg List.length h
  rw [length_samples, List.length_nil] at hlen
  have hone := one_le_samplesOf config
  omega

theorem aggregateSamples_spec (hsucceeded : ∀ k < samplesOf config, 0 ≤ (env.adc k).ret) :
    Triple
      (fun s => Sampled (samples env (samplesOf config)) (sampledTrace env config) reading s ∧
        s.sum = 0)
      (aggregateSamples config (samplesOf config))
      (fun _ s => ∃ value,
        Aggregates config.sampling.aggregation (samples env (samplesOf config)) value ∧
          (config.sampling.aggregation = 0 →
            SumsInRange (samples env (samplesOf config)) (samplesOf config)) ∧
          Sampled
            (if config.sampling.aggregation = 0 then samples env (samplesOf config)
              else BubbleSort.sort (samples env (samplesOf config)))
            (sampledTrace env config) { reading with rawValue := value } s)
      (Stopped env config reading) := by
  have hlen := length_samples env (samplesOf config)
  have hne := samples_ne_nil env config
  unfold Aggregates aggregateSamples
  refine Triple.ite (fun hmean => ?_) fun hmedian => ?_
  · have hspec := aggregateMean_spec (sampledTrace env config) reading hne
    rw [hlen] at hspec
    refine hspec.mono (fun _ hs => hs) ?_ fun stop s hover => .inr ⟨hmean, hsucceeded, hover⟩
    rintro _ s ⟨hrange, hs⟩
    rw [if_pos hmean, hlen]
    exact ⟨_, by rw [if_pos hmean], fun _ => hrange, hs⟩
  · have hspec := aggregateMedian_spec (sampledTrace env config) reading hne
      (E := Stopped env config reading)
    rw [hlen] at hspec
    refine hspec.mono (fun _ hs => hs.1) ?_ fun _ _ h => h
    rintro _ s ⟨median, hmiddle, hs⟩
    rw [if_neg hmedian, hlen]
    exact ⟨median, by rwa [if_neg hmedian], fun h => absurd h hmedian, hs⟩

theorem sensorReadBody_spec (env : SensorEnv) (config : NodeConfig) (reading : SensorReading) :
    Triple (fun s => s = { reading }) (sensorReadBody env config)
      (fun ret s => Completed env config reading (.returned ret) s)
      (Stopped env config reading) := by
  unfold sensorReadBody
  -- power-up and warm-up
  refine Triple.bind (R := fun _ s => s = { reading, trace := [.gpioPinSet 1] })
    (Triple.modify fun s hs => by rw [hs]; rfl) fun _ => ?_
  refine Triple.bind (R := fun _ => Acquired env config reading 0)
    (Triple.modify fun s hs => ?_) fun _ => ?_
  · rw [hs]
    exact ⟨fun k hk => absurd hk (Nat.not_lt_zero k), rfl, C.Cells.holds_nil _, rfl, rfl⟩
  -- the burst
  refine Triple.bind (R := fun _ => Acquired env config reading (samplesOf config)) ?_ fun _ => ?_
  · exact (Triple.forLoop (I := Acquired env config reading)
      fun i hi => acquireSample_spec (by exact_mod_cast hi)).mono
      (fun _ hs => hs) (fun _ _ hs => hs) fun _ _ hfailed => Or.inl hfailed
  -- power-down
  refine Triple.bind (R := fun _ s => (∀ k < samplesOf config, 0 ≤ (env.adc k).ret) ∧
      Sampled (samples env (samplesOf config)) (sampledTrace env config) reading s ∧ s.sum = 0)
    (Triple.modify fun s hs => ?_) fun _ => ?_
  · refine ⟨hs.succeeded, ⟨hs.holds, ?_, hs.reading⟩, hs.sum⟩
    show s.trace ++ [_] = _
    rw [hs.trace]
    rfl
  rintro s ⟨hsucceeded, hs⟩
  -- aggregation, and the rest of the reading
  refine Triple.bind (aggregateSamples_spec hsucceeded) (fun _ => ?_) s hs
  refine Triple.of_run fun s ⟨value, hvalue, hrange, hs⟩ => ⟨_, _, rfl, ?_⟩
  refine ⟨hsucceeded, hrange, hs.holds, rfl, ?_, value, hvalue, ?_⟩
  · show s.trace ++ [_] ++ [_] = _
    rw [hs.trace, List.append_assoc]
    rfl
  · show completeReading env config s.reading = _
    rw [hs.reading]

/-- **A call of `sensor_read` ends at the first failure of the ADC, or in an overflow of the
sum, or with a reading.** -/
theorem sensorRead_cases (env : SensorEnv) (config : NodeConfig) (reading : SensorReading) :
    Completed env config reading (sensorRead env config reading).1
        (sensorRead env config reading).2 ∨
      Stopped env config reading (sensorRead env config reading).1
        (sensorRead env config reading).2 := by
  rcases Triple.call (sensorReadBody_spec env config reading) rfl with ⟨ret, hret, hs⟩ | hs
  · left
    rwa [← hret] at hs
  · exact .inr hs

end SensorNet.Node
