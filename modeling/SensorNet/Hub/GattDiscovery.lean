import SensorNet.Hub.GattClient
import SensorNet.Common.BleProtocol
import Mathlib.Data.List.Induction

/-!
# What discovery stores, and where writes go

The stack reports the characteristics of a node one by one to `discover_func`,
in any order; the hub then writes by the handles it stored. The hub's UUID table
(`gatt_client.h`) and the shared one (`ble-protocol.ts`) agree on reading and
diagnostics and differ between them: what the hub calls battery, config and
calibration is the node's config, calibration and binding
(`discovered_handles`).

`protocolAgrees_iff`: the hub stores and writes the handles the shared protocol
means iff the node gives those three characteristics one handle, which no GATT
table does.
-/

namespace SensorNet.Hub

open Fw SensorNet.Common

/-! ## A discovery run -/

/-- The stack reports characteristics until `discover_func` stops it, and `NULL`
after the last. -/
def discovery (conn : Option BtConn) : List GattChrc → Fw GattClient Unit
  | [] => do
    let _ ← discoverFunc conn none
    return ()
  | chrc :: rest => do
    match ← discoverFunc conn (some chrc) with
    | .continue => discovery conn rest
    | .stop => return ()

/-- A node's GATT table: the value handle of each characteristic. -/
structure NodeTable where
  handle : SensorCharacteristic → UInt16
  nonzero : ∀ ch, handle ch ≠ 0

/-- The reports of a discovery on the node: each characteristic of the sensor
service is reported once, in any order, and among any others. -/
def Reported (node : NodeTable) (reports : List GattChrc) : Prop :=
  ∀ ch : SensorCharacteristic,
    reports.filter (fun r => r.uuid = ch.uuid) = [⟨ch.uuid, node.handle ch⟩]

/-- What the shared protocol asks of the hub after discovery: the context of the
connection has the handles of the node's characteristics, and a write to the
config (calibration) characteristic goes to the node's config (calibration)
characteristic and nowhere else. -/
structure ProtocolAgrees (node : NodeTable) (conn : BtConn) (d : GattClient) :
    Prop where
  handles : ∃ i, (d.contexts i).conn = some conn ∧
    (d.contexts i).readingHandle = node.handle .reading ∧
    (d.contexts i).configHandle = node.handle .config ∧
    (d.contexts i).calibrationHandle = node.handle .calibration ∧
    (d.contexts i).diagnosticsHandle = node.handle .diagnostics
  writeConfig : ∀ data length cb err,
    (exec (gattClientWrite (some conn) configCharUuid data length cb err) d).2.requests =
      d.requests ++ [.write (some conn) ⟨node.handle .config, 0, data, length⟩]
  writeCalibration : ∀ data length cb err,
    (exec (gattClientWrite (some conn) calibrationCharUuid data length cb err)
        d).2.requests =
      d.requests ++ [.write (some conn) ⟨node.handle .calibration, 0, data, length⟩]

/-! ## The two UUID tables -/

theorem uuid_reading : SensorCharacteristic.reading.uuid = readingCharUuid := by
  decide

theorem uuid_config : SensorCharacteristic.config.uuid = batteryCharUuid := by
  decide

theorem uuid_calibration : SensorCharacteristic.calibration.uuid = configCharUuid := by
  decide

theorem uuid_binding : SensorCharacteristic.binding.uuid = calibrationCharUuid := by
  decide

theorem uuid_diagnostics :
    SensorCharacteristic.diagnostics.uuid = diagnosticsCharUuid := by
  decide

/-! ## What is stored -/

theorem store_conn (ctx : GattClientCtx) (chrc : GattChrc) :
    (ctx.store chrc).conn = ctx.conn := by
  unfold GattClientCtx.store
  split_ifs <;> rfl

/-- A discovery run folds `store` over the context of the connection. -/
theorem discovery_run {conn : Option BtConn} (reports : List GattChrc) {d : GattClient}
    {i : Fin maxGattContexts} (h : d.slotOf conn = some i) (k : Kernel) :
    ∃ calls, ((discovery conn reports).run ⟨d, k⟩).2 =
      ⟨((d.claim i conn).modify i fun ctx => reports.foldl GattClientCtx.store ctx).tell
        calls, k⟩ := by
  induction reports generalizing d with
  | nil =>
    refine ⟨(d.contexts i).discoverCb.toList.map fun cb => .discovered cb conn 0, ?_⟩
    rw [discovery, run_bind, discoverFunc_done_run, h]
    simp [GattClient.claim, GattClient.modify]
  | cons chrc rest ih =>
    -- the connection has its context from the first report on
    have hslot : ((d.claim i conn).modify i (·.store chrc)).slotOf conn = some i := by
      rw [GattClient.slotOf_modify fun ctx => store_conn ctx chrc]
      exact GattClient.slotOf_claim h
    obtain ⟨calls, hrest⟩ := ih hslot
    refine ⟨calls, ?_⟩
    rw [discovery, run_bind, discoverFunc_attr_run, h]
    show ((discovery conn rest).run ⟨(d.claim i conn).modify i (·.store chrc), k⟩).2 = _
    rw [hrest]
    have hself : ((d.claim i conn).modify i (·.store chrc)).claim i conn =
        (d.claim i conn).modify i (·.store chrc) := by
      refine GattClient.claim_eq_self ?_
      simp [GattClient.claim, store_conn]
    rw [hself, GattClient.modify_modify]
    rfl

/-- A field of the context that `store` sets for one UUID only ends up as the last
handle reported for that UUID. -/
theorem foldl_store {field : GattClientCtx → UInt16} {uuid : BtUuid}
    (hfield : ∀ ctx chrc, field (ctx.store chrc) =
      if chrc.uuid = uuid then chrc.valueHandle else field ctx)
    (reports : List GattChrc) (ctx : GattClientCtx) :
    field (reports.foldl GattClientCtx.store ctx) =
      ((reports.filter fun r => r.uuid = uuid).getLast?.map GattChrc.valueHandle).getD
        (field ctx) := by
  induction reports using List.reverseRecOn with
  | nil => rfl
  | append_singleton reports chrc ih =>
    rw [List.foldl_append, List.filter_append]
    show field ((reports.foldl GattClientCtx.store ctx).store chrc) = _
    rw [hfield, ih]
    by_cases hu : chrc.uuid = uuid
    · simp [hu]
    · simp [hu]

/-- The five UUIDs of the hub are different. -/
theorem hubUuids_nodup : [readingCharUuid, batteryCharUuid, configCharUuid,
    calibrationCharUuid, diagnosticsCharUuid].Nodup := by
  decide +kernel

/-- What `store` does to each handle. -/
theorem store_handles (ctx : GattClientCtx) (chrc : GattChrc) :
    ((ctx.store chrc).readingHandle =
      if chrc.uuid = readingCharUuid then chrc.valueHandle else ctx.readingHandle) ∧
    ((ctx.store chrc).batteryHandle =
      if chrc.uuid = batteryCharUuid then chrc.valueHandle else ctx.batteryHandle) ∧
    ((ctx.store chrc).configHandle =
      if chrc.uuid = configCharUuid then chrc.valueHandle else ctx.configHandle) ∧
    ((ctx.store chrc).calibrationHandle =
      if chrc.uuid = calibrationCharUuid then chrc.valueHandle
      else ctx.calibrationHandle) ∧
    ((ctx.store chrc).diagnosticsHandle =
      if chrc.uuid = diagnosticsCharUuid then chrc.valueHandle
      else ctx.diagnosticsHandle) := by
  have hd := hubUuids_nodup
  simp only [List.nodup_cons, List.mem_cons, List.not_mem_nil, or_false, not_or] at hd
  unfold GattClientCtx.store
  split_ifs <;> grind

/-- **What discovery stores**: by the shared protocol's names, the hub's battery
handle is the node's config, its config handle the node's calibration and its
calibration handle the node's binding. -/
theorem discovered_handles {node : NodeTable} {reports : List GattChrc}
    (h : Reported node reports) (ctx : GattClientCtx) :
    let ctx' := reports.foldl GattClientCtx.store ctx
    ctx'.readingHandle = node.handle .reading ∧
    ctx'.batteryHandle = node.handle .config ∧
    ctx'.configHandle = node.handle .calibration ∧
    ctx'.calibrationHandle = node.handle .binding ∧
    ctx'.diagnosticsHandle = node.handle .diagnostics := by
  -- of each characteristic the last report counts, which is that of the node
  have hlast : ∀ {field : GattClientCtx → UInt16} {uuid : BtUuid}
      (ch : SensorCharacteristic), ch.uuid = uuid →
      (∀ ctx chrc, field (ctx.store chrc) =
        if chrc.uuid = uuid then chrc.valueHandle else field ctx) →
      field (reports.foldl GattClientCtx.store ctx) = node.handle ch := by
    intro field uuid ch hu hfield
    subst hu
    rw [foldl_store hfield, h ch]
    rfl
  refine ⟨hlast .reading uuid_reading ?_, hlast .config uuid_config ?_,
    hlast .calibration uuid_calibration ?_, hlast .binding uuid_binding ?_,
    hlast .diagnostics uuid_diagnostics ?_⟩
  · exact fun ctx chrc => (store_handles ctx chrc).1
  · exact fun ctx chrc => (store_handles ctx chrc).2.1
  · exact fun ctx chrc => (store_handles ctx chrc).2.2.1
  · exact fun ctx chrc => (store_handles ctx chrc).2.2.2.1
  · exact fun ctx chrc => (store_handles ctx chrc).2.2.2.2

theorem foldl_store_conn (reports : List GattChrc) (ctx : GattClientCtx) :
    (reports.foldl GattClientCtx.store ctx).conn = ctx.conn := by
  induction reports generalizing ctx with
  | nil => rfl
  | cons chrc rest ih =>
    rw [List.foldl_cons, ih, store_conn]

/-! ## Agreement with the shared protocol -/

/-- A write for which the hub has a handle is one request with that handle. -/
theorem write_requests {d : GattClient} {conn : Option BtConn}
    {i : Fin maxGattContexts} (h : d.slotOf conn = some i) (uuid : BtUuid)
    (hh : (d.contexts i).writeHandle uuid ≠ 0) (data : List UInt8) (length : UInt16)
    (cb : Option AppCallback) (err : Int) :
    (exec (gattClientWrite conn uuid data length cb err) d).2.requests =
      d.requests ++
        [.write conn ⟨(d.contexts i).writeHandle uuid, 0, data, length⟩] := by
  rw [exec, gattClientWrite_run, h]
  simp only [hh, if_false]
  rfl

/-- The state after discovery: the connection keeps its context, and the context
has the handles in the node's reports. -/
theorem discovered_context {node : NodeTable} {reports : List GattChrc}
    (hrep : Reported node reports) {d : GattClient} {conn : Option BtConn}
    {i : Fin maxGattContexts} (h : d.slotOf conn = some i) :
    let d' := (exec (discovery conn reports) d).2
    d'.slotOf conn = some i ∧ (d'.contexts i).conn = conn ∧
      (d'.contexts i).readingHandle = node.handle .reading ∧
      (d'.contexts i).configHandle = node.handle .calibration ∧
      (d'.contexts i).calibrationHandle = node.handle .binding ∧
      (d'.contexts i).diagnosticsHandle = node.handle .diagnostics := by
  obtain ⟨calls, hrun⟩ := discovery_run reports h Kernel.boot
  obtain ⟨hr, -, hc, hcal, hdiag⟩ :=
    discovered_handles hrep ((d.claim i conn).contexts i)
  intro d'
  have hctx : d'.contexts i =
      reports.foldl GattClientCtx.store ((d.claim i conn).contexts i) := by
    show ((discovery conn reports).run ⟨d, Kernel.boot⟩).2.data.contexts i = _
    rw [hrun]
    exact Function.update_self ..
  have hslot : d'.slotOf conn = some i := by
    calc d'.slotOf conn
      _ = ((d.claim i conn).modify i fun ctx =>
            reports.foldl GattClientCtx.store ctx).slotOf conn := by
          refine GattClient.slotOf_congr (fun j => ?_) conn
          show (((discovery conn reports).run ⟨d, Kernel.boot⟩).2.data.contexts j).conn = _
          rw [hrun]
          rfl
      _ = (d.claim i conn).slotOf conn :=
          GattClient.slotOf_modify (foldl_store_conn reports) conn
      _ = some i := GattClient.slotOf_claim h
  rw [hctx]
  refine ⟨hslot, ?_, hr, hc, hcal, hdiag⟩
  rw [foldl_store_conn]
  simp [GattClient.claim]

/-- **Agreement with the shared protocol**: after a discovery on the node, the hub
has and writes the handles the shared protocol means iff the node's config,
calibration and binding characteristics have one and the same handle. -/
theorem protocolAgrees_iff {node : NodeTable} {reports : List GattChrc}
    (hrep : Reported node reports) {d : GattClient} {conn : BtConn}
    (hctx : d.slotOf (some conn) ≠ none) :
    ProtocolAgrees node conn (exec (discovery (some conn) reports) d).2 ↔
      node.handle .config = node.handle .calibration ∧
        node.handle .calibration = node.handle .binding := by
  obtain ⟨i, hi⟩ := Option.ne_none_iff_exists'.mp hctx
  obtain ⟨hslot, hconn, hr, hc, hcal, hdiag⟩ := discovered_context hrep hi
  generalize (exec (discovery (some conn) reports) d).2 = d' at *
  have hcw : (d'.contexts i).writeHandle configCharUuid = node.handle .calibration := by
    rw [← hc]
    rfl
  have hcalw : (d'.contexts i).writeHandle calibrationCharUuid =
      node.handle .binding := by
    rw [← hcal]
    rfl
  have hwc := write_requests hslot configCharUuid
    (by rw [hcw]; exact node.nonzero _)
  have hwcal := write_requests hslot calibrationCharUuid
    (by rw [hcalw]; exact node.nonzero _)
  rw [hcw] at hwc
  rw [hcalw] at hwcal
  constructor
  · intro h
    -- an empty write of each kind already tells the handles apart
    have hc' := h.writeConfig [] 0 none 0
    have hcal' := h.writeCalibration [] 0 none 0
    rw [hwc] at hc'
    rw [hwcal] at hcal'
    have h₁ := List.append_cancel_left hc'
    have h₂ := List.append_cancel_left hcal'
    simp only [List.cons.injEq, StackRequest.write.injEq, WriteParams.mk.injEq, true_and,
      and_true] at h₁ h₂
    exact ⟨h₁.symm, h₂.symm⟩
  · rintro ⟨h₁, h₂⟩
    refine { handles := ⟨i, hconn, hr, ?_, ?_, hdiag⟩, writeConfig := ?_,
             writeCalibration := ?_ }
    · rw [hc, h₁]
    · rw [hcal, h₂]
    · intro data length cb err
      rw [hwc, h₁]
    · intro data length cb err
      rw [hwcal, h₂]

/-- A node whose characteristics have the odd handles from 17 on. -/
def sampleNode : NodeTable where
  handle
    | .reading => 17
    | .config => 19
    | .calibration => 21
    | .binding => 23
    | .diagnostics => 25
    | .logExport => 27
    | .command => 29
  nonzero ch := by cases ch <;> decide

/-- The reports of a discovery on `sampleNode`, by ascending handle. -/
def sampleReports : List GattChrc :=
  [.reading, .config, .calibration, .binding, .diagnostics, .logExport, .command].map
    fun ch => ⟨ch.uuid, sampleNode.handle ch⟩

theorem sampleReports_reported : Reported sampleNode sampleReports := by
  intro ch
  cases ch <;> decide

/-- The GATT client after `gatt_client_init`. -/
def GattClient.boot : GattClient := (exec gattClientInit ⟨fun _ => {}, [], []⟩).2

/-- On `sampleNode` the hub does not follow the shared protocol. -/
theorem protocol_disagrees_on_sampleNode :
    ¬ ProtocolAgrees sampleNode 1 (exec (discovery (some 1) sampleReports) .boot).2 := by
  intro h
  have hsame := (protocolAgrees_iff sampleReports_reported (by decide)).mp h
  revert hsame
  decide +kernel

/-- A config write of the hub lands on the calibration characteristic of
`sampleNode`. -/
theorem config_written_to_calibration :
    ¬ ∀ (node : NodeTable) (reports : List GattChrc) (d : GattClient) (conn : BtConn),
      Reported node reports → d.slotOf (some conn) ≠ none →
        ProtocolAgrees node conn (exec (discovery (some conn) reports) d).2 := by
  intro h
  have hc := h sampleNode sampleReports .boot 1 sampleReports_reported (by decide)
  obtain ⟨i, hi, -, hconfig, -, -⟩ := hc.handles
  revert i
  decide +kernel

end SensorNet.Hub
