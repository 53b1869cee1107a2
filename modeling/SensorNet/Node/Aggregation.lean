import SensorNet.Lib.JsonSchema
import SensorNet.Node.SensorControl
import Mathlib.Algebra.Order.BigOperators.Group.List
import Mathlib.Tactic.Linarith

/-!
# What `sensor_read` makes of a burst

For readings small enough that ten of them fit into an `int32_t`, `burst_aggregated` says
that a call is defined and that `raw_value` is the mean, or the median, of the samples,
whatever the order in which they were taken.

The samples are at most ten. `node-config.schema.json` admits a `burstCount` of up to 100,
and `measuresAll_iff` says for which of these configurations the node measures what is
configured.
-/

namespace SensorNet.Node

open SensorNet.Js
open C (Stop)

variable {env : SensorEnv} {config : NodeConfig} {reading : SensorReading}

/-- The calls of the ADC in the burst succeed. -/
def BurstSucceeds (env : SensorEnv) (config : NodeConfig) : Prop :=
  ∀ k < samplesOf config, 0 ≤ (env.adc k).ret

/-- Ten values of this size fit into an `int32_t`. -/
def Small (values : List Int) : Prop := ∀ value ∈ values, value.natAbs ≤ 214748364

/-- The values in order, up to and including the middle -/
def MedianOf (values : List Int) (value : Int) : Prop :=
  ∃ sorted : List Int, sorted.Perm values ∧ sorted.Pairwise (· ≤ ·) ∧
    sorted[values.length / 2]? = some value

/-! ## Sums and means -/

theorem sumsInRange_of_small {values : List Int} {n : Nat} (hsmall : Small values)
    (hlen : values.length ≤ 10) : SumsInRange values n := by
  intro k _
  have hle := List.sum_le_card_nsmul (values.take k) 214748364 fun v hv => by
    have := hsmall v (List.mem_of_mem_take hv)
    omega
  have hge := List.card_nsmul_le_sum (values.take k) (-214748364) fun v hv => by
    have := hsmall v (List.mem_of_mem_take hv)
    omega
  have hshort : (values.take k).length ≤ 10 := (List.length_take_le' k values).trans hlen
  rw [nsmul_eq_mul] at hle hge
  constructor <;> omega

/-- A quotient that is truncated toward zero does not leave an interval. -/
theorem tdiv_between {lo hi sum n : Int} (hn : 0 < n) (hlo : lo * n ≤ sum) (hhi : sum ≤ hi * n) :
    lo ≤ sum.tdiv n ∧ sum.tdiv n ≤ hi := by
  rcases Int.le_total 0 sum with hsign | hsign
  · rw [Int.tdiv_eq_ediv_of_nonneg hsign]
    exact ⟨(Int.le_ediv_iff_mul_le hn).mpr hlo, Int.ediv_le_of_le_mul hn hhi⟩
  · -- the quotient of the negated sum
    have hquot : sum.tdiv n = -(-sum / n) := by
      rw [← Int.tdiv_eq_ediv_of_nonneg (Int.neg_nonneg_of_nonpos hsign), Int.neg_tdiv, neg_neg]
    have hupper : -sum / n ≤ -lo := Int.ediv_le_of_le_mul hn (by linarith)
    have hlower : -hi ≤ -sum / n := (Int.le_ediv_iff_mul_le hn).mpr (by linarith)
    rw [hquot]
    exact ⟨by linarith, by linarith⟩

theorem mean_between {values : List Int} (hne : values ≠ []) {lo hi : Int}
    (hlo : values.min? = some lo) (hhi : values.max? = some hi) :
    lo ≤ values.sum.tdiv values.length ∧ values.sum.tdiv values.length ≤ hi := by
  have hpos : (0 : Int) < values.length := by exact_mod_cast List.length_pos_of_ne_nil hne
  have hsumlo := List.card_nsmul_le_sum values lo (List.min?_eq_some_iff.mp hlo).2
  have hsumhi := List.sum_le_card_nsmul values hi (List.max?_eq_some_iff.mp hhi).2
  rw [nsmul_eq_mul, mul_comm] at hsumlo hsumhi
  exact tdiv_between hpos hsumlo hsumhi

/-! ## Medians -/

theorem medianOf_sort {values : List Int} {value : Int}
    (h : (BubbleSort.sort values)[values.length / 2]? = some value) : MedianOf values value :=
  ⟨_, BubbleSort.sort_perm values, BubbleSort.sort_pairwise values, h⟩

theorem MedianOf.unique {values : List Int} {v w : Int} (hv : MedianOf values v)
    (hw : MedianOf values w) : v = w := by
  obtain ⟨l, hlperm, hlsorted, hl⟩ := hv
  obtain ⟨m, hmperm, hmsorted, hm⟩ := hw
  have heq : l = m := (hlperm.trans hmperm.symm).eq_of_pairwise' hlsorted hmsorted
  rw [heq, hm] at hl
  exact (Option.some.inj hl).symm

theorem MedianOf.perm {values values' : List Int} {v : Int} (hv : MedianOf values v)
    (hperm : values.Perm values') : MedianOf values' v := by
  obtain ⟨l, hlperm, hlsorted, hl⟩ := hv
  refine ⟨l, hlperm.trans hperm, hlsorted, ?_⟩
  rwa [← hperm.length_eq]

/-- The value depends on the samples, not on their order. -/
theorem aggregates_of_perm {aggregation : UInt8} {values values' : List Int} {v w : Int}
    (hperm : values.Perm values') (hv : Aggregates aggregation values v)
    (hw : Aggregates aggregation values' w) : v = w := by
  unfold Aggregates at hv hw
  by_cases hmean : aggregation = 0
  · rw [if_pos hmean] at hv hw
    rw [hv, hw, hperm.sum_eq, hperm.length_eq]
  · rw [if_neg hmean] at hv hw
    rw [← BubbleSort.sort_eq_of_perm hperm, ← hperm.length_eq, hv] at hw
    exact Option.some.inj hw

/-! ## A burst -/

theorem length_samples_le (env : SensorEnv) (config : NodeConfig) :
    (samples env (samplesOf config)).length ≤ 10 := by
  rw [length_samples, samplesOf_eq]
  omega

/-- A burst of small readings is completed. -/
theorem completed_of_small (reading : SensorReading) (hsucceeds : BurstSucceeds env config)
    (hsmall : Small (samples env (samplesOf config))) :
    Completed env config reading (sensorRead env config reading).1
      (sensorRead env config reading).2 := by
  rcases sensorRead_cases env config reading with h | ⟨k, hfailed⟩ | ⟨-, -, hover⟩
  · exact h
  · exact absurd (hsucceeds k hfailed.lt) (Int.not_le.mpr hfailed.failed)
  · exact absurd (sumsInRange_of_small hsmall (length_samples_le env config)) hover.sums

theorem Completed.rawValue {stop : Stop} {s : SensorReadState}
    (h : Completed env config reading stop s) :
    Aggregates config.sampling.aggregation (samples env (samplesOf config))
      s.reading.rawValue := by
  obtain ⟨value, hvalue, hreading⟩ := h.reading
  rw [hreading]
  exact hvalue

/-- How a call aggregates its samples:
1. it is defined throughout, and succeeds;
2. the mean is the quotient of the sum, between the smallest and the largest sample;
3. for the median the samples are left in order in the array, and at least half of them
   are on either side of it. -/
structure AggregatesBurst (env : SensorEnv) (config : NodeConfig) (r : Stop × SensorReadState) :
    Prop where
  defined : r.1 = .returned 0
  mean : config.sampling.aggregation = 0 →
    r.2.reading.rawValue = (samples env (samplesOf config)).sum.tdiv (samplesOf config) ∧
      ∃ lo hi, (samples env (samplesOf config)).min? = some lo ∧
        (samples env (samplesOf config)).max? = some hi ∧
        lo ≤ r.2.reading.rawValue ∧ r.2.reading.rawValue ≤ hi
  median : config.sampling.aggregation ≠ 0 →
    ∃ sorted : List Int, r.2.adcValues.Holds sorted ∧
      sorted.Perm (samples env (samplesOf config)) ∧ sorted.Pairwise (· ≤ ·) ∧
      sorted[samplesOf config / 2]? = some r.2.reading.rawValue ∧
      samplesOf config ≤ 2 * (samples env (samplesOf config)).countP
        (fun v => decide (v ≤ r.2.reading.rawValue)) ∧
      samplesOf config ≤ 2 * (samples env (samplesOf config)).countP
        (fun v => decide (r.2.reading.rawValue ≤ v))

theorem aggregatesBurst_of_completed {r : Stop × SensorReadState}
    (h : Completed env config reading r.1 r.2) : AggregatesBurst env config r := by
  have hlen := length_samples env (samplesOf config)
  have hraw := h.rawValue
  have hholds := h.holds
  unfold Aggregates at hraw
  refine ⟨h.stop, fun hmean => ?_, fun hmedian => ?_⟩
  · rw [if_pos hmean, hlen] at hraw
    -- the mean of a burst is between its least and its largest value
    have hne := samples_ne_nil env config
    obtain ⟨lo, hlo⟩ := Option.isSome_iff_exists.mp (List.isSome_min?_of_ne_nil hne)
    obtain ⟨hi, hhi⟩ := Option.isSome_iff_exists.mp (List.isSome_max?_of_ne_nil hne)
    have hbetween := mean_between hne hlo hhi
    rw [hlen, ← hraw] at hbetween
    exact ⟨hraw, lo, hi, hlo, hhi, hbetween⟩
  · rw [if_neg hmedian] at hraw hholds
    have hperm := BubbleSort.sort_perm (samples env (samplesOf config))
    have hsorted := BubbleSort.sort_pairwise (samples env (samplesOf config))
    -- half of the sorted burst is not above its middle, and half not below
    have hmiddle := hraw
    rw [← BubbleSort.length_sort] at hmiddle
    have hle := BubbleSort.half_le_middle hsorted hmiddle
    have hge := BubbleSort.half_ge_middle hsorted hmiddle
    rw [BubbleSort.length_sort, hlen, hperm.countP_eq] at hle hge
    rw [hlen] at hraw
    exact ⟨_, hholds, hperm, hsorted, hraw, hle, hge⟩

/-- **A burst of small readings is aggregated as it is configured, whatever the order in
which they were taken.** -/
theorem burst_aggregated (env : SensorEnv) (config : NodeConfig) (reading : SensorReading)
    (hsucceeds : BurstSucceeds env config) (hsmall : Small (samples env (samplesOf config))) :
    AggregatesBurst env config (sensorRead env config reading) ∧
      ∀ env' reading', BurstSucceeds env' config →
        (samples env' (samplesOf config)).Perm (samples env (samplesOf config)) →
        (sensorRead env' config reading').2.reading.rawValue =
          (sensorRead env config reading).2.reading.rawValue := by
  have hcompleted := completed_of_small reading hsucceeds hsmall
  refine ⟨aggregatesBurst_of_completed hcompleted, fun env' reading' hsucceeds' hperm => ?_⟩
  have hsmall' : Small (samples env' (samplesOf config)) :=
    fun v hv => hsmall v (hperm.mem_iff.mp hv)
  have hcompleted' := completed_of_small reading' hsucceeds' hsmall'
  exact aggregates_of_perm hperm hcompleted'.rawValue hcompleted.rawValue

/-- A configuration for the tests: the sensor needs 100 ms to warm up. -/
def sampleConfig (burstCount aggregation : UInt8) : NodeConfig where
  sampling := { warmupMs := 100, burstCount, aggregation }
  calibration := { offset := 0, slope := 1, polyA := 0, polyB := 0 }
  alarms := { highThreshold := 0, lowThreshold := 0, enableHigh := false, enableLow := false }

/-- A reading with nothing in it -/
def emptyReading : SensorReading where
  value := 0
  unit := ""
  rawValue := 0
  timestampMs := 0
  batteryMv := 0
  faults := 0

/-- The ADC returns these values, and 2500 mV afterwards. -/
def adcOf (values : List Int) : SensorEnv where
  adc k := { ret := 0, valueMv := (values[k]?).getD 2500 }
  battery := { ret := 0, valueMv := 3200 }
  uptime := 0

/-- A median of three samples, one of them negative -/
theorem threeSamples_aggregated :
    AggregatesBurst (adcOf [7, -3, 4]) (sampleConfig 3 1)
        (sensorRead (adcOf [7, -3, 4]) (sampleConfig 3 1) emptyReading) ∧
      ∀ env' reading', BurstSucceeds env' (sampleConfig 3 1) →
        (samples env' (samplesOf (sampleConfig 3 1))).Perm
          (samples (adcOf [7, -3, 4]) (samplesOf (sampleConfig 3 1))) →
        (sensorRead env' (sampleConfig 3 1) reading').2.reading.rawValue =
          (sensorRead (adcOf [7, -3, 4]) (sampleConfig 3 1) emptyReading).2.reading.rawValue :=
  burst_aggregated (adcOf [7, -3, 4]) (sampleConfig 3 1) emptyReading
    (fun _ _ => le_rfl) (by unfold Small; decide)

/-! ## What the schema admits -/

/-- `properties.sampling` of `node-config.schema.json` -/
def samplingSchema : Schema :=
  .object ["intervalSeconds", "warmupMs", "burstCount", "aggregation"] (.fields [
    ("intervalSeconds", .integer 1 86400),
    ("warmupMs", .integer 0 10000),
    ("burstCount", .integer 1 100),
    ("aggregation", .string { enum := some ["mean", "median", "min", "max"] })])

/-- The fields of the struct are set to what is in the sampling configuration. -/
structure SetTo (config : NodeConfig) (sampling : String → Json) : Prop where
  warmupMs : sampling "warmupMs" = .num (config.sampling.warmupMs.toNat : Int)
  burstCount : sampling "burstCount" = .num (config.sampling.burstCount.toNat : Int)
  aggregation :
    (sampling "aggregation" = .str "mean" ∧ config.sampling.aggregation = 0) ∨
      (sampling "aggregation" = .str "median" ∧ config.sampling.aggregation = 1)

/-- The call takes this many readings, and aggregates all of them. -/
structure MeasuresAll (env : SensorEnv) (config : NodeConfig) (s : SensorReadState)
    (burstCount : Nat) : Prop where
  reads : s.trace.countP HardwareAction.isVoltageRead = burstCount
  mean : config.sampling.aggregation = 0 →
    s.reading.rawValue = (samples env burstCount).sum.tdiv burstCount
  median : config.sampling.aggregation = 1 →
    MedianOf (samples env burstCount) s.reading.rawValue

theorem Completed.reads {stop : Stop} {s : SensorReadState}
    (h : Completed env config reading stop s) :
    s.trace.countP HardwareAction.isVoltageRead = samplesOf config := by
  rw [h.trace, sampledTrace, List.countP_append, List.countP_append, List.countP_append,
    countP_burstTrace]
  show 0 + samplesOf config + 0 + 0 = samplesOf config
  omega

/-- The ADC succeeds, with values between 0 and 5000 mV. -/
def InAdcRange (env : SensorEnv) : Prop :=
  ∀ k, 0 ≤ (env.adc k).ret ∧ 0 ≤ (env.adc k).valueMv ∧ (env.adc k).valueMv ≤ 5000

theorem completed_of_inAdcRange (config : NodeConfig) (reading : SensorReading)
    (h : InAdcRange env) :
    Completed env config reading (sensorRead env config reading).1
      (sensorRead env config reading).2 := by
  refine completed_of_small reading (fun k _ => (h k).1) fun value hvalue => ?_
  obtain ⟨k, -, rfl⟩ := List.mem_map.mp hvalue
  have hk := h k
  omega

theorem burstCount_pos {d : Dialect} {sampling : String → Json}
    (hvalid : samplingSchema.Accepts d (.obj sampling)) (hset : SetTo config sampling) :
    0 < config.sampling.burstCount.toNat := by
  have hfield := (Schema.accepts_obj.mp hvalid).2 "burstCount" (by rw [hset.burstCount]; nofun)
  rw [hset.burstCount] at hfield
  have hone := (Schema.accepts_num.mp hfield).1
  omega

/-- **With a valid sampling configuration the node measures what is configured iff the
burst is of at most ten samples.** -/
theorem measuresAll_iff {d : Dialect} {sampling : String → Json}
    (hvalid : samplingSchema.Accepts d (.obj sampling)) (hset : SetTo config sampling)
    (hrange : InAdcRange env) :
    MeasuresAll env config (sensorRead env config reading).2 config.sampling.burstCount.toNat ↔
      config.sampling.burstCount.toNat ≤ 10 := by
  have hcompleted := completed_of_inAdcRange config reading hrange
  have hpos := burstCount_pos hvalid hset
  constructor
  · intro h
    have hreads := h.reads
    rw [hcompleted.reads, samplesOf_eq] at hreads
    omega
  · intro hten
    have hall : samplesOf config = config.sampling.burstCount.toNat := by
      rw [samplesOf_eq]
      omega
    have hraw := hcompleted.rawValue
    rw [hall, Aggregates] at hraw
    refine ⟨hcompleted.reads.trans hall, fun hmean => ?_, fun hmedian => ?_⟩
    · rwa [if_pos hmean, length_samples] at hraw
    · rw [if_neg (by rw [hmedian]; decide)] at hraw
      exact medianOf_sort hraw

/-- The mean of as many samples every minute -/
def sampleSampling (burstCount : Nat) : List (String × Json) :=
  [("intervalSeconds", .num 60), ("warmupMs", .num 100), ("burstCount", .num burstCount),
    ("aggregation", .str "mean")]

theorem sampleSampling_accepted (burstCount : Nat) (hpos : 1 ≤ burstCount)
    (hle : burstCount ≤ 100) :
    samplingSchema.Accepts ⟨fun _ _ => true, fun _ _ => true⟩
      (.object (sampleSampling burstCount)) := by
  have hnodup : ["intervalSeconds", "warmupMs", "burstCount", "aggregation"].Nodup := by decide
  have hfields : ((sampleSampling burstCount).map Prod.fst).Nodup := hnodup
  refine (Schema.accepts_object_iff hfields).mpr ⟨?_, ?_⟩
  · intro name hname
    simp only [List.mem_cons, List.not_mem_nil, or_false] at hname
    rcases hname with rfl | rfl | rfl | rfl <;> nofun
  · intro entry hentry _
    simp only [sampleSampling, List.mem_cons, List.not_mem_nil, or_false] at hentry
    rcases hentry with rfl | rfl | rfl | rfl
    · exact ⟨60, rfl, by decide, by decide⟩
    · exact ⟨100, rfl, by decide, by decide⟩
    · exact ⟨burstCount, rfl, by omega, by omega⟩
    · exact Schema.accepts_str.mpr ⟨fun _ h => by cases h; decide, nofun, nofun⟩

theorem setTo_sampleSampling {burstCount : UInt8} :
    SetTo (sampleConfig burstCount 0)
      (fun name => ((sampleSampling burstCount.toNat).lookup name).getD .undefined) :=
  ⟨rfl, rfl, .inl ⟨rfl, rfl⟩⟩

theorem inAdcRange_adcOf_nil : InAdcRange (adcOf []) :=
  fun _ => ⟨le_rfl, Int.zero_le_ofNat 2500, show (2500 : Int) ≤ 5000 by decide⟩

/-- Ten samples are measured. -/
theorem tenSamples_measured :
    MeasuresAll (adcOf []) (sampleConfig 10 0)
        (sensorRead (adcOf []) (sampleConfig 10 0) emptyReading).2 10 ↔ 10 ≤ 10 :=
  measuresAll_iff (sampleSampling_accepted 10 (by decide) (by decide))
    setTo_sampleSampling inAdcRange_adcOf_nil

/-- Of twenty, which the schema admits, ten are. -/
theorem twentySamples_not_measured :
    ¬ ∀ (d : Dialect) (sampling : String → Json) (config : NodeConfig) (env : SensorEnv)
      (reading : SensorReading), samplingSchema.Accepts d (.obj sampling) →
        SetTo config sampling → InAdcRange env →
        MeasuresAll env config (sensorRead env config reading).2
          config.sampling.burstCount.toNat := by
  intro h
  have hreads := (h _ _ (sampleConfig 20 0) (adcOf []) emptyReading
    (sampleSampling_accepted 20 (by decide) (by decide))
    setTo_sampleSampling inAdcRange_adcOf_nil).reads
  rw [(completed_of_inAdcRange _ _ inAdcRange_adcOf_nil).reads] at hreads
  exact absurd hreads (by decide)

end SensorNet.Node
