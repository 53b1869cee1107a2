import SensorNet.Hub.NodeManager
import SensorNet.Lib.SlotMap
import Mathlib.Data.List.Induction

/-!
# The node table is a finite map

What the node table is for: a map from Bluetooth addresses to node records, with
at most `MAX_NODES` addresses, each of which keeps the index it was given
(`NodeMap`). `NodeCall.Spec` says what each operation should do to the map and
return, without tables and scans.

- `nodeCall_refines`: on a table that represents a map, every operation does what
  its specification says, and the new table represents the new map.
- `nodeManager_finite_map`: so it is after every run of operations from
  `node_manager_init`, the addresses of the map being those added so far.
-/

namespace SensorNet.Hub

open Fw

/-! ## Calls and runs -/

/-- A call of one of the operations, with the value of the uptime clock. -/
inductive NodeCall where
  | addNode (addr : BtAddrLe) (rssi : Int8) (advData : Option (List UInt8)) (len : UInt8)
      (uptime : UInt32)
  | updateConnection (addr : BtAddrLe) (conn : Option BtConn)
  | updateReading (addr : BtAddrLe) (reading : UInt32) (uptime : UInt32)
  | updateBattery (addr : BtAddrLe) (batteryLevel : UInt8)
  | bindNode (addr : BtAddrLe)
  | getByAddr (addr : BtAddrLe)
  | getCount

/-- What a call returns: an `int`, or a pointer into the table. -/
inductive NodeResult where
  | int (n : Int)
  | node (index : Option (Fin maxNodes))
  deriving DecidableEq

/-- The result of a firmware function that returns an `int`. -/
def intResult (r : Int × NodeManager) : NodeResult × NodeManager := (.int r.1, r.2)

/-- Make a call. -/
def NodeCall.exec : NodeCall → NodeManager → NodeResult × NodeManager
  | .addNode addr rssi advData len uptime, d =>
    intResult (Fw.exec (nodeManagerAddNode addr rssi advData len uptime) d)
  | .updateConnection addr conn, d =>
    intResult (Fw.exec (nodeManagerUpdateConnection addr conn) d)
  | .updateReading addr reading uptime, d =>
    intResult (Fw.exec (nodeManagerUpdateReading addr reading uptime) d)
  | .updateBattery addr batteryLevel, d =>
    intResult (Fw.exec (nodeManagerUpdateBattery addr batteryLevel) d)
  | .bindNode addr, d => intResult (Fw.exec (nodeManagerBindNode addr) d)
  | .getByAddr addr, d =>
    let r := Fw.exec (nodeManagerGetByAddr addr) d
    (.node r.1, r.2)
  | .getCount, d => intResult (Fw.exec nodeManagerGetCount d)

/-- The table after `node_manager_init`, on any memory, and a run of calls. -/
def NodeManager.after (d₀ : NodeManager) (calls : List NodeCall) : NodeManager :=
  calls.foldl (fun d call => (call.exec d).2) (Fw.exec nodeManagerInit d₀).2

theorem NodeManager.after_snoc (d₀ : NodeManager) (calls : List NodeCall) (call : NodeCall) :
    NodeManager.after d₀ (calls ++ [call]) = (call.exec (NodeManager.after d₀ calls)).2 := by
  unfold NodeManager.after
  rw [List.foldl_append]
  rfl

/-- The address that a call added, by its result. -/
def NodeCall.added : NodeCall → NodeResult → Set BtAddrLe
  | .addNode addr _ _ _ _, r => if r = .int (-eNOMEM) then ∅ else {addr}
  | _, _ => ∅

/-- The addresses added during a run. -/
def addedAddrs (d₀ : NodeManager) (calls : List NodeCall) : Set BtAddrLe :=
  {addr | ∃ pre call post, calls = pre ++ call :: post ∧
    addr ∈ call.added (call.exec (NodeManager.after d₀ pre)).1}

theorem addedAddrs_snoc (d₀ : NodeManager) (calls : List NodeCall) (call : NodeCall) :
    addedAddrs d₀ (calls ++ [call]) =
      addedAddrs d₀ calls ∪ call.added (call.exec (NodeManager.after d₀ calls)).1 := by
  ext addr
  constructor
  · rintro ⟨pre, c, post, heq, hc⟩
    rcases List.eq_nil_or_concat post with rfl | ⟨post, last, rfl⟩
    · obtain ⟨rfl, hlast⟩ := List.append_inj' heq rfl
      cases hlast
      exact .inr hc
    · have hsplit : calls ++ [call] = (pre ++ c :: post) ++ [last] := by
        simpa using heq
      obtain ⟨rfl, -⟩ := List.append_inj' hsplit rfl
      exact .inl ⟨pre, c, post, rfl, hc⟩
  · rintro (⟨pre, c, post, rfl, hc⟩ | hc)
    · exact ⟨pre, c, post ++ [call], by simp, hc⟩
    · exact ⟨calls, call, [], rfl, hc⟩

/-! ## The specification -/

/-- Node records by address, each with its index. -/
abbrev NodeMap := SlotMap maxNodes BtAddrLe NodeInfo

/-- The table holds the map. -/
def NodeManager.Holds (d : NodeManager) (m : NodeMap) : Prop :=
  Represents NodeInfo.valid NodeInfo.addr d.nodes m

/-- An update edits the record of a known address and no other, and reports an unknown
one. -/
def EditSpec (m : NodeMap) (addr : BtAddrLe) (f : NodeInfo → NodeInfo) (r : NodeResult)
    (m' : NodeMap) : Prop :=
  (∃ i n, m.entry addr = some (i, n) ∧ r = .int 0 ∧
    m'.entry = Function.update m.entry addr (some (i, f n))) ∨
  (m.entry addr = none ∧ r = .int (-eNOENT) ∧ m' = m)

/-- What each operation should return, and what becomes of the map. A node is added
in one of three ways: its address is known, or new with an index to spare, or new
while all addresses that fit are there. -/
def NodeCall.Spec (m : NodeMap) : NodeCall → NodeResult → NodeMap → Prop
  | .addNode addr rssi advData len uptime, r, m' =>
    (∃ i n, m.entry addr = some (i, n) ∧ r = .int i.val ∧
      m'.entry =
        Function.update m.entry addr (some (i, n.refreshed rssi advData len uptime))) ∨
    (∃ i, m.entry addr = none ∧ m.Free i ∧ r = .int i.val ∧
      m'.entry = Function.update m.entry addr
        (some (i, NodeInfo.refreshed { valid := true, addr } rssi advData len uptime))) ∨
    (m.entry addr = none ∧ m.keys.ncard = maxNodes ∧ r = .int (-eNOMEM) ∧ m' = m)
  | .updateConnection addr conn, r, m' =>
    EditSpec m addr (fun n =>
      { n with conn, state := if conn.isSome then .connected else .disconnected }) r m'
  | .updateReading addr reading uptime, r, m' =>
    EditSpec m addr (fun n => { n with latestReading := reading, lastSeen := uptime }) r m'
  | .updateBattery addr batteryLevel, r, m' =>
    EditSpec m addr (fun n => { n with batteryLevel }) r m'
  | .bindNode addr, r, m' =>
    EditSpec m addr (fun n => { n with boundToHub := true, state := .bound }) r m'
  | .getByAddr addr, r, m' => r = .node (m.index addr) ∧ m' = m
  | .getCount, r, m' => r = .int m.keys.ncard ∧ m' = m

/-! ## What a call computes -/

theorem exec_updateByAddr (addr : BtAddrLe) (f : NodeInfo → NodeInfo) (d : NodeManager) :
    Fw.exec (updateByAddr addr f) d =
      match d.find addr with
      | some i => (0, ⟨Function.update d.nodes i (f (d.nodes i))⟩)
      | none => (-eNOENT, d) := by
  unfold Fw.exec
  rw [updateByAddr_run]
  cases d.find addr <;> rfl

theorem exec_addNode (addr : BtAddrLe) (rssi : Int8) (advData : Option (List UInt8))
    (len : UInt8) (uptime : UInt32) (d : NodeManager) :
    Fw.exec (nodeManagerAddNode addr rssi advData len uptime) d =
      match d.find addr with
      | some i => ((i.val : Int),
          ⟨Function.update d.nodes i ((d.nodes i).refreshed rssi advData len uptime)⟩)
      | none =>
        match firstSlot (fun n => !n.valid) d.nodes with
        | none => (-eNOMEM, d)
        | some i => ((i.val : Int), ⟨Function.update d.nodes i
            (NodeInfo.refreshed { valid := true, addr } rssi advData len uptime)⟩) := by
  unfold Fw.exec
  rw [nodeManagerAddNode_run]
  cases d.find addr with
  | some i => rfl
  | none => cases firstSlot (fun n : NodeInfo => !n.valid) d.nodes <;> rfl

/-- Refreshing a record keeps it under its address, in its state and connection. -/
theorem refreshed_keeps (n : NodeInfo) (rssi : Int8) (advData : Option (List UInt8))
    (len : UInt8) (uptime : UInt32) :
    (n.refreshed rssi advData len uptime).valid = n.valid ∧
    (n.refreshed rssi advData len uptime).addr = n.addr ∧
    (n.refreshed rssi advData len uptime).state = n.state ∧
    (n.refreshed rssi advData len uptime).conn = n.conn := by
  unfold NodeInfo.refreshed
  cases advData with
  | none => exact ⟨rfl, rfl, rfl, rfl⟩
  | some bytes =>
    dsimp only
    split <;> exact ⟨rfl, rfl, rfl, rfl⟩

/-- An index is not an error number. -/
theorem index_ne_error (i : Fin maxNodes) :
    NodeResult.int i.val ≠ .int (-eNOMEM) ∧ NodeResult.int i.val ≠ .int (-eNOENT) := by
  constructor
  · intro heq
    injection heq with hval
    unfold eNOMEM at hval
    omega
  · intro heq
    injection heq with hval
    unfold eNOENT at hval
    omega

/-! ## What a call writes -/

/-- The call writes the record `n` to slot `i`. -/
def NodeCall.Writes (d : NodeManager) (i : Fin maxNodes) (n : NodeInfo) : NodeCall → Prop
  | .addNode addr rssi advData len uptime =>
    n = (d.nodes i).refreshed rssi advData len uptime ∨
      n = NodeInfo.refreshed { valid := true, addr } rssi advData len uptime
  | .updateConnection _ conn =>
    n = { d.nodes i with
      conn, state := if conn.isSome then .connected else .disconnected }
  | .updateReading _ reading uptime =>
    n = { d.nodes i with latestReading := reading, lastSeen := uptime }
  | .updateBattery _ batteryLevel => n = { d.nodes i with batteryLevel }
  | .bindNode addr =>
    d.find addr = some i ∧ n = { d.nodes i with boundToHub := true, state := .bound }
  | .getByAddr _ | .getCount => False

/-- A call writes nothing, or reports no error and writes one record. -/
theorem exec_cases (call : NodeCall) (d : NodeManager) :
    (call.exec d).2 = d ∨
      (¬ ((call.exec d).1 = .int (-eNOMEM) ∨ (call.exec d).1 = .int (-eNOENT)) ∧
        ∃ i n, call.Writes d i n ∧ (call.exec d).2 = ⟨Function.update d.nodes i n⟩) := by
  -- the four updates write the record that is found, and return 0
  have hedit : ∀ addr f, (intResult (Fw.exec (updateByAddr addr f) d)).2 = d ∨
      (intResult (Fw.exec (updateByAddr addr f) d)).1 = .int 0 ∧
        ∃ i, d.find addr = some i ∧ (intResult (Fw.exec (updateByAddr addr f) d)).2 =
          ⟨Function.update d.nodes i (f (d.nodes i))⟩ := by
    intro addr f
    rw [exec_updateByAddr]
    cases d.find addr with
    | none => exact .inl rfl
    | some i => exact .inr ⟨rfl, i, rfl, rfl⟩
  have hzero : ∀ r : NodeResult, r = .int 0 → ¬ (r = .int (-eNOMEM) ∨ r = .int (-eNOENT)) := by
    rintro r rfl
    decide
  cases call with
  | addNode addr rssi advData len uptime =>
    have hexec : (NodeCall.addNode addr rssi advData len uptime).exec d =
        intResult (Fw.exec (nodeManagerAddNode addr rssi advData len uptime) d) := rfl
    rw [hexec, exec_addNode]
    cases d.find addr with
    | some i => exact .inr ⟨not_or.mpr (index_ne_error i), i, _, .inl rfl, rfl⟩
    | none =>
      cases firstSlot (fun n : NodeInfo => !n.valid) d.nodes with
      | none => exact .inl rfl
      | some i => exact .inr ⟨not_or.mpr (index_ne_error i), i, _, .inr rfl, rfl⟩
  | updateConnection addr conn =>
    exact (hedit addr _).imp_right fun ⟨hr, i, _, h⟩ => ⟨hzero _ hr, i, _, rfl, h⟩
  | updateReading addr reading uptime =>
    exact (hedit addr _).imp_right fun ⟨hr, i, _, h⟩ => ⟨hzero _ hr, i, _, rfl, h⟩
  | updateBattery addr batteryLevel =>
    exact (hedit addr _).imp_right fun ⟨hr, i, _, h⟩ => ⟨hzero _ hr, i, _, rfl, h⟩
  | bindNode addr =>
    exact (hedit addr _).imp_right fun ⟨hr, i, hi, h⟩ => ⟨hzero _ hr, i, _, ⟨hi, rfl⟩, h⟩
  | getByAddr addr => exact .inl (by simp [NodeCall.exec, Fw.exec])
  | getCount => exact .inl (by simp [NodeCall.exec, intResult, Fw.exec, nodeManagerGetCount])

/-- A call that reports an error writes nothing. -/
theorem exec_error {d : NodeManager} {call : NodeCall}
    (h : (call.exec d).1 = .int (-eNOMEM) ∨ (call.exec d).1 = .int (-eNOENT)) :
    (call.exec d).2 = d := by
  rcases exec_cases call d with hsame | ⟨hok, -⟩
  · exact hsame
  · exact absurd h hok

/-! ## Every operation meets its specification -/

section Refines

variable {d : NodeManager} {m : NodeMap} (h : d.Holds m)
include h

theorem find_eq_index (addr : BtAddrLe) : d.find addr = m.index addr := h.lookup addr

/-- The record of a known address. -/
theorem find_known {addr : BtAddrLe} {i : Fin maxNodes} (hfind : d.find addr = some i) :
    m.entry addr = some (i, d.nodes i) ∧ (d.nodes i).valid = true ∧
      (d.nodes i).addr = addr := by
  rw [find_eq_index h] at hfind
  obtain ⟨n, hn⟩ := SlotMap.index_eq_some.mp hfind
  obtain ⟨hvalid, haddr, rfl⟩ := (h addr i n).mp hn
  exact ⟨hn, hvalid, haddr⟩

theorem find_unknown {addr : BtAddrLe} (hfind : d.find addr = none) :
    m.entry addr = none := by
  rw [find_eq_index h, SlotMap.index, Option.map_eq_none_iff] at hfind
  exact hfind

theorem edit_refines (addr : BtAddrLe) {f : NodeInfo → NodeInfo}
    (hf : ∀ n, (f n).valid = n.valid ∧ (f n).addr = n.addr) :
    ∃ m', EditSpec m addr f (intResult (Fw.exec (updateByAddr addr f) d)).1 m' ∧
      (intResult (Fw.exec (updateByAddr addr f) d)).2.Holds m' := by
  rw [exec_updateByAddr]
  cases hfind : d.find addr with
  | none => exact ⟨m, .inr ⟨find_unknown h hfind, rfl, rfl⟩, h⟩
  | some i =>
    obtain ⟨hentry, hvalid, haddr⟩ := find_known h hfind
    obtain ⟨hfvalid, hfaddr⟩ := hf (d.nodes i)
    obtain ⟨m', hm', hholds⟩ :=
      h.edit hentry (hfvalid.trans hvalid) (hfaddr.trans haddr)
    exact ⟨m', .inl ⟨i, _, hentry, rfl, hm'⟩, hholds⟩

theorem addNode_refines (addr : BtAddrLe) (rssi : Int8) (advData : Option (List UInt8))
    (len : UInt8) (uptime : UInt32) :
    ∃ m', (NodeCall.addNode addr rssi advData len uptime).Spec m
        ((NodeCall.addNode addr rssi advData len uptime).exec d).1 m' ∧
      ((NodeCall.addNode addr rssi advData len uptime).exec d).2.Holds m' := by
  have hexec : (NodeCall.addNode addr rssi advData len uptime).exec d =
      intResult (Fw.exec (nodeManagerAddNode addr rssi advData len uptime) d) := rfl
  rw [hexec, exec_addNode]
  cases hfind : d.find addr with
  | some i =>
    obtain ⟨hentry, hvalid, haddr⟩ := find_known h hfind
    obtain ⟨hnvalid, hnaddr, -⟩ := refreshed_keeps (d.nodes i) rssi advData len uptime
    obtain ⟨m', hm', hholds⟩ :=
      h.edit hentry (hnvalid.trans hvalid) (hnaddr.trans haddr)
    exact ⟨m', .inl ⟨i, _, hentry, rfl, hm'⟩, hholds⟩
  | none =>
    have hnew := find_unknown h hfind
    cases hfree : firstSlot (fun n : NodeInfo => !n.valid) d.nodes with
    | none =>
      refine ⟨m, .inr (.inr ⟨hnew, m.ncard_keys_eq_iff.mpr fun i hi => ?_, rfl, rfl⟩), h⟩
      -- all records are in use, so the map has no room
      have hvalid := firstSlot_eq_none_iff.mp hfree i
      rw [h.free_iff.mp hi] at hvalid
      cases hvalid
    | some i =>
      have hunused : (d.nodes i).valid = false := by
        simpa using firstSlot_spec hfree
      obtain ⟨hnvalid, hnaddr, -⟩ :=
        refreshed_keeps { valid := true, addr } rssi advData len uptime
      obtain ⟨m', hm', hholds⟩ := h.insert hnew hunused hnvalid hnaddr
      exact ⟨m', .inr (.inl ⟨i, hnew, h.free_iff.mpr hunused, rfl, hm'⟩), hholds⟩

/-- **Every operation meets its specification**, and leaves a table that represents the
new map. -/
theorem nodeCall_refines (call : NodeCall) :
    ∃ m', call.Spec m (call.exec d).1 m' ∧ (call.exec d).2.Holds m' := by
  cases call with
  | addNode addr rssi advData len uptime => exact addNode_refines h addr rssi advData len uptime
  | updateConnection addr conn => exact edit_refines h addr fun _ => ⟨rfl, rfl⟩
  | updateReading addr reading uptime => exact edit_refines h addr fun _ => ⟨rfl, rfl⟩
  | updateBattery addr batteryLevel => exact edit_refines h addr fun _ => ⟨rfl, rfl⟩
  | bindNode addr => exact edit_refines h addr fun _ => ⟨rfl, rfl⟩
  | getByAddr addr =>
    refine ⟨m, ⟨?_, rfl⟩, ?_⟩
    · simp [NodeCall.exec, Fw.exec, find_eq_index h]
    · simpa [NodeCall.exec, Fw.exec] using h
  | getCount =>
    refine ⟨m, ⟨?_, rfl⟩, ?_⟩
    · simp [NodeCall.exec, intResult, Fw.exec, nodeManagerGetCount, h.countSlots]
    · simpa [NodeCall.exec, intResult, Fw.exec, nodeManagerGetCount] using h

end Refines

/-! ## Runs -/

theorem editSpec_keys {m m' : NodeMap} {addr : BtAddrLe} {f : NodeInfo → NodeInfo}
    {r : NodeResult} (h : EditSpec m addr f r m') : m'.keys = m.keys := by
  rcases h with ⟨i, n, hentry, -, hm'⟩ | ⟨-, -, rfl⟩
  · exact SlotMap.keys_of_edit hentry hm'
  · rfl

/-- The addresses of the map grow by the address added. -/
theorem spec_keys {m m' : NodeMap} {call : NodeCall} {r : NodeResult}
    (h : call.Spec m r m') : m'.keys = m.keys ∪ call.added r := by
  cases call with
  | addNode addr rssi advData len uptime =>
    show _ = _ ∪ if r = .int (-eNOMEM) then ∅ else {addr}
    rcases h with ⟨i, n, -, rfl, hm'⟩ | ⟨i, -, -, rfl, hm'⟩ | ⟨-, -, rfl, rfl⟩
    · rw [SlotMap.keys_of_update hm', if_neg (index_ne_error i).1, Set.union_singleton]
    · rw [SlotMap.keys_of_update hm', if_neg (index_ne_error i).1, Set.union_singleton]
    · rw [if_pos rfl, Set.union_empty]
  | updateConnection addr conn => rw [editSpec_keys h]; exact (Set.union_empty _).symm
  | updateReading addr reading uptime => rw [editSpec_keys h]; exact (Set.union_empty _).symm
  | updateBattery addr batteryLevel => rw [editSpec_keys h]; exact (Set.union_empty _).symm
  | bindNode addr => rw [editSpec_keys h]; exact (Set.union_empty _).symm
  | getByAddr addr => rw [h.2]; exact (Set.union_empty _).symm
  | getCount => rw [h.2]; exact (Set.union_empty _).symm

theorem editSpec_index {m m' : NodeMap} {addr : BtAddrLe} {f : NodeInfo → NodeInfo}
    {r : NodeResult} (h : EditSpec m addr f r m') (addr' : BtAddrLe) :
    m'.index addr' = m.index addr' := by
  rcases h with ⟨i, n, hentry, -, hm'⟩ | ⟨-, -, rfl⟩
  · exact SlotMap.index_of_edit hentry hm' addr'
  · rfl

/-- Every address keeps its index. -/
theorem spec_index {m m' : NodeMap} {call : NodeCall} {r : NodeResult} {addr' : BtAddrLe}
    {i : Fin maxNodes} (h : call.Spec m r m') (hi : m.index addr' = some i) :
    m'.index addr' = some i := by
  cases call with
  | addNode addr rssi advData len uptime =>
    rcases h with ⟨j, n, hentry, -, hm'⟩ | ⟨j, hnew, -, -, hm'⟩ | ⟨-, -, -, rfl⟩
    · rwa [SlotMap.index_of_edit hentry hm']
    · rw [SlotMap.index_of_update hm']
      split
      next heq =>
        rw [heq, SlotMap.index, hnew] at hi
        cases hi
      next => exact hi
    · exact hi
  | updateConnection addr conn => rwa [editSpec_index h]
  | updateReading addr reading uptime => rwa [editSpec_index h]
  | updateBattery addr batteryLevel => rwa [editSpec_index h]
  | bindNode addr => rwa [editSpec_index h]
  | getByAddr addr => rw [h.2]; exact hi
  | getCount => rw [h.2]; exact hi

/-- **The table represents a map** after every run, of the addresses added. -/
theorem holds_after (d₀ : NodeManager) (calls : List NodeCall) :
    ∃ m, (NodeManager.after d₀ calls).Holds m ∧ m.keys = addedAddrs d₀ calls := by
  induction calls using List.reverseRecOn with
  | nil =>
    have hinit : NodeManager.after d₀ [] = ⟨fun _ => {}⟩ := by
      simp [NodeManager.after, Fw.exec]
    refine ⟨.empty, ?_, ?_⟩
    · rw [hinit]
      exact Represents.of_unused fun _ => rfl
    · have hnone : addedAddrs d₀ [] = ∅ := by
        refine Set.eq_empty_of_forall_notMem fun addr hmem => ?_
        obtain ⟨pre, call, post, heq, -⟩ := hmem
        exact List.append_ne_nil_of_right_ne_nil pre (List.cons_ne_nil call post) heq.symm
      rw [hnone]
      exact Set.eq_empty_of_forall_notMem fun addr hmem => SlotMap.not_mem_keys.mpr rfl hmem
  | append_singleton calls call ih =>
    obtain ⟨m, hholds, hkeys⟩ := ih
    obtain ⟨m', hspec, hholds'⟩ := nodeCall_refines hholds call
    refine ⟨m', ?_, ?_⟩
    · rw [NodeManager.after_snoc]
      exact hholds'
    · rw [spec_keys hspec, hkeys, addedAddrs_snoc]

/-- Indices are stable: an address keeps its index through every run. -/
theorem find_after_append {d₀ : NodeManager} {calls : List NodeCall} {addr : BtAddrLe}
    {i : Fin maxNodes} (hi : (NodeManager.after d₀ calls).find addr = some i)
    (more : List NodeCall) : (NodeManager.after d₀ (calls ++ more)).find addr = some i := by
  induction more using List.reverseRecOn with
  | nil => rwa [List.append_nil]
  | append_singleton more call ih =>
    obtain ⟨m, hholds, -⟩ := holds_after d₀ (calls ++ more)
    obtain ⟨m', hspec, hholds'⟩ := nodeCall_refines hholds call
    rw [find_eq_index hholds] at ih
    rw [← List.append_assoc, NodeManager.after_snoc, find_eq_index hholds']
    exact spec_index hspec ih

/-- The call returned the index for the address. -/
def NodeCall.Returned (call : NodeCall) (r : NodeResult) (addr : BtAddrLe)
    (i : Fin maxNodes) : Prop :=
  (∃ rssi advData len uptime, call = .addNode addr rssi advData len uptime ∧
    r = .int i.val) ∨
  (call = .getByAddr addr ∧ r = .node (some i))

theorem index_of_returned {m m' : NodeMap} {call : NodeCall} {r : NodeResult}
    {addr : BtAddrLe} {i : Fin maxNodes} (hspec : call.Spec m r m')
    (h : call.Returned r addr i) : m'.index addr = some i := by
  rcases h with ⟨rssi, advData, len, uptime, rfl, rfl⟩ | ⟨rfl, rfl⟩
  · rcases hspec with ⟨j, n, -, hr, hm'⟩ | ⟨j, -, -, hr, hm'⟩ | ⟨-, -, hr, -⟩
    · rw [SlotMap.index_of_update hm', if_pos rfl]
      injection hr with hval
      exact congrArg some (Fin.ext (by exact_mod_cast hval.symm))
    · rw [SlotMap.index_of_update hm', if_pos rfl]
      injection hr with hval
      exact congrArg some (Fin.ext (by exact_mod_cast hval.symm))
    · exact absurd hr (index_ne_error i).1
  · obtain ⟨hr, rfl⟩ := hspec
    injection hr with hindex
    exact hindex.symm

/-- **The node table implements a finite map of capacity `MAX_NODES`** after every run
of calls from `node_manager_init`:
1. it holds a map, whose addresses are those added so far;
2. at most one valid record has a given address;
3. every next call returns what its specification says and leaves a table that holds
   the map it asks for;
4. `-ENOMEM` is returned exactly for a new address while `MAX_NODES` are stored;
5. a call that reports an error writes nothing;
6. an index returned for an address is the index of its record ever after. -/
structure ImplementsMap (d₀ : NodeManager) (calls : List NodeCall) (m : NodeMap) : Prop where
  holds : (NodeManager.after d₀ calls).Holds m
  keys : m.keys = addedAddrs d₀ calls
  unique : ∀ i j, ((NodeManager.after d₀ calls).nodes i).valid = true →
    ((NodeManager.after d₀ calls).nodes j).valid = true →
    ((NodeManager.after d₀ calls).nodes i).addr =
      ((NodeManager.after d₀ calls).nodes j).addr → i = j
  refines : ∀ call : NodeCall, ∃ m',
    call.Spec m (call.exec (NodeManager.after d₀ calls)).1 m' ∧
      (call.exec (NodeManager.after d₀ calls)).2.Holds m'
  full : ∀ addr rssi advData len uptime,
    ((NodeCall.addNode addr rssi advData len uptime).exec (NodeManager.after d₀ calls)).1 =
        .int (-eNOMEM) ↔
      addr ∉ addedAddrs d₀ calls ∧ (addedAddrs d₀ calls).ncard = maxNodes
  error : ∀ call : NodeCall,
    ((call.exec (NodeManager.after d₀ calls)).1 = .int (-eNOMEM) ∨
      (call.exec (NodeManager.after d₀ calls)).1 = .int (-eNOENT)) →
    (call.exec (NodeManager.after d₀ calls)).2 = NodeManager.after d₀ calls
  stable : ∀ call addr i,
    call.Returned (call.exec (NodeManager.after d₀ calls)).1 addr i →
    ∀ more, (NodeManager.after d₀ (calls ++ call :: more)).find addr = some i

theorem nodeManager_finite_map (d₀ : NodeManager) (calls : List NodeCall) :
    ∃ m, ImplementsMap d₀ calls m := by
  obtain ⟨m, hholds, hkeys⟩ := holds_after d₀ calls
  refine ⟨m, hholds, hkeys, fun i j hi hj => hholds.unique hi hj,
    nodeCall_refines hholds, ?_, fun call => exec_error, ?_⟩
  · intro addr rssi advData len uptime
    obtain ⟨m', hspec, -⟩ := nodeCall_refines hholds (.addNode addr rssi advData len uptime)
    rw [← hkeys]
    constructor
    · intro herr
      rw [herr] at hspec
      -- -ENOMEM is no index, so the address was neither known nor taken
      rcases hspec with ⟨j, n, -, hr, -⟩ | ⟨j, -, -, hr, -⟩ | ⟨hnew, hfull, -, -⟩
      · exact absurd hr.symm (index_ne_error j).1
      · exact absurd hr.symm (index_ne_error j).1
      · exact ⟨SlotMap.not_mem_keys.mpr hnew, hfull⟩
    · rintro ⟨hnew, hfull⟩
      rcases hspec with ⟨j, n, hentry, -, -⟩ | ⟨j, -, hfree, -, -⟩ | ⟨-, -, hr, -⟩
      · exact absurd (SlotMap.mem_keys.mpr ⟨j, n, hentry⟩) hnew
      · exact absurd hfree (m.ncard_keys_eq_iff.mp hfull j)
      · exact hr
  · intro call addr i hreturned more
    obtain ⟨m', hspec, hholds'⟩ := nodeCall_refines hholds call
    -- the record that was returned is the one the address has ever after
    have hfind : (NodeManager.after d₀ (calls ++ [call])).find addr = some i := by
      rw [NodeManager.after_snoc, find_eq_index hholds']
      exact index_of_returned hspec hreturned
    have hmore := find_after_append hfind more
    rwa [List.append_assoc, List.singleton_append] at hmore

end SensorNet.Hub
