import SensorNet.Hub.Kernel
import SensorNet.Lib.Slots

/-!
# The hub's node table (`node_manager.c`)

A table of `MAX_NODES` records of known sensor nodes, found by Bluetooth
address. The four updates (`node_manager_update_connection`, `_update_reading`,
`_update_battery`, `node_manager_bind_node`) share one shape, `updateByAddr`:
lock, find the record by address, edit it if it is there, unlock, report
`-ENOENT` if it is not.
-/

namespace SensorNet.Hub

open Fw

/-- `MAX_NODES` -/
def maxNodes : Nat := 32

/-- `NODE_ID_LEN` -/
def nodeIdLen : Nat := 16

/-- `enum node_state` -/
inductive NodeState where
  | discovered
  | connected
  | bound
  | fault
  | disconnected
  deriving DecidableEq, Repr

/-- `struct node_info`; the defaults are the record after `memset(.., 0, ..)`.
`latestReading` is the bit pattern of the `float`. -/
structure NodeInfo where
  valid : Bool := false
  nodeId : Fin nodeIdLen → UInt8 := fun _ => 0
  addr : BtAddrLe := ⟨0, 0⟩
  state : NodeState := .discovered
  conn : Option BtConn := none
  rssi : Int8 := 0
  lastSeen : UInt32 := 0
  batteryLevel : UInt8 := 0
  latestReading : UInt32 := 0
  boundToHub : Bool := false
  deriving DecidableEq

/-- `memcpy(node_id, adv_data, MIN(len, NODE_ID_LEN))` -/
def NodeInfo.copyId (n : NodeInfo) (advData : List UInt8) (len : UInt8) : NodeInfo :=
  { n with nodeId := fun i =>
      if i.val < min len.toNat nodeIdLen then advData.getD i.val 0 else n.nodeId i }

/-- Static data of `node_manager.c`. -/
structure NodeManager where
  nodes : Fin maxNodes → NodeInfo

/-! ## Operations -/

/-- Write one node record. -/
def setNode (i : Fin maxNodes) (f : NodeInfo → NodeInfo) : Fw NodeManager Unit :=
  setStatics fun d => ⟨Function.update d.nodes i (f (d.nodes i))⟩

@[simp] theorem run_setNode (i : Fin maxNodes) (f : NodeInfo → NodeInfo)
    (s : Fw.State NodeManager) :
    (setNode i f).run s =
      ((), ⟨⟨Function.update s.data.nodes i (f (s.data.nodes i))⟩, s.kernel⟩) := (rfl)

/-- `node_manager_init` -/
def nodeManagerInit : Fw NodeManager Int := do
  kMutexInit .nodeMutex
  setStatics fun _ => ⟨fun _ => {}⟩
  return 0

/-- `find_node_by_addr`; `none` is the index `-1`. -/
def findNodeByAddr (addr : BtAddrLe) : Fw NodeManager (Option (Fin maxNodes)) := do
  return firstSlot (fun n => n.valid && n.addr == addr) (← statics).nodes

/-- `node_manager_add_node` -/
def nodeManagerAddNode (addr : BtAddrLe) (rssi : Int8)
    (advData : Option (List UInt8)) (len : UInt8) (uptime : UInt32) :
    Fw NodeManager Int := do
  kMutexLock .nodeMutex
  let refresh (index : Fin maxNodes) : Fw NodeManager Int := do
    setNode index fun n => { n with rssi, lastSeen := uptime }
    match advData with
    | none => pure ()
    | some bytes => if 0 < len then setNode index fun n => n.copyId bytes len
    kMutexUnlock .nodeMutex
    return index.val
  match ← findNodeByAddr addr with
  | some index => refresh index
  | none =>
    match firstSlot (fun n => !n.valid) (← statics).nodes with
    | none =>
      kMutexUnlock .nodeMutex
      return -eNOMEM
    | some index =>
      setNode index fun _ => { valid := true, addr, state := .discovered }
      refresh index

/-- `node_manager_get_by_addr` -/
def nodeManagerGetByAddr (addr : BtAddrLe) :
    Fw NodeManager (Option (Fin maxNodes)) := do
  kMutexLock .nodeMutex
  let index ← findNodeByAddr addr
  kMutexUnlock .nodeMutex
  return index

/-- `node_manager_get_by_index`; the only lookup that takes no lock. -/
def nodeManagerGetByIndex (index : Int) : Fw NodeManager (Option (Fin maxNodes)) := do
  if h : 0 ≤ index ∧ index.toNat < maxNodes then
    let i : Fin maxNodes := ⟨index.toNat, h.2⟩
    return if ((← statics).nodes i).valid then some i else none
  else return none

/-- The common shape of the updates: edit the record with this address. -/
def updateByAddr (addr : BtAddrLe) (f : NodeInfo → NodeInfo) : Fw NodeManager Int := do
  kMutexLock .nodeMutex
  let index ← findNodeByAddr addr
  match index with
  | some i => setNode i f
  | none => pure ()
  kMutexUnlock .nodeMutex
  return if index.isSome then 0 else -eNOENT

/-- `node_manager_update_connection` -/
def nodeManagerUpdateConnection (addr : BtAddrLe) (conn : Option BtConn) :
    Fw NodeManager Int :=
  updateByAddr addr fun n =>
    { n with conn, state := if conn.isSome then .connected else .disconnected }

/-- `node_manager_update_reading` -/
def nodeManagerUpdateReading (addr : BtAddrLe) (reading : UInt32) (uptime : UInt32) :
    Fw NodeManager Int :=
  updateByAddr addr fun n => { n with latestReading := reading, lastSeen := uptime }

/-- `node_manager_update_battery` -/
def nodeManagerUpdateBattery (addr : BtAddrLe) (batteryLevel : UInt8) :
    Fw NodeManager Int :=
  updateByAddr addr fun n => { n with batteryLevel }

/-- `node_manager_bind_node` -/
def nodeManagerBindNode (addr : BtAddrLe) : Fw NodeManager Int :=
  updateByAddr addr fun n => { n with boundToHub := true, state := .bound }

/-- The common shape of the two counts. -/
def countNodes (p : NodeInfo → Bool) : Fw NodeManager Int := do
  kMutexLock .nodeMutex
  let count := countSlots p (← statics).nodes
  kMutexUnlock .nodeMutex
  return count

/-- `node_manager_get_count` -/
def nodeManagerGetCount : Fw NodeManager Int := countNodes NodeInfo.valid

/-- `node_manager_get_connected_count` -/
def nodeManagerGetConnectedCount : Fw NodeManager Int :=
  countNodes fun n => n.valid && n.state == .connected

/-- `node_manager_get_by_id` is a stub that returns `NULL`. -/
def nodeManagerGetById (_nodeId : List UInt8) :
    Fw NodeManager (Option (Fin maxNodes)) := return none

/-- `node_manager_update_faults` is a stub. -/
def nodeManagerUpdateFaults (_addr : BtAddrLe) (_faultFlags : UInt32) :
    Fw NodeManager Int := return 0

/-- `node_manager_unbind_node` is a stub. -/
def nodeManagerUnbindNode (_addr : BtAddrLe) : Fw NodeManager Int := return 0

/-- `node_manager_clear_stale` is a stub. -/
def nodeManagerClearStale (_timeoutMs : UInt32) : Fw NodeManager Int := return 0

/-! ## One equation for each operation -/

/-- The slot of the record with this address. -/
def NodeManager.find (d : NodeManager) (addr : BtAddrLe) : Option (Fin maxNodes) :=
  firstSlot (fun n => n.valid && n.addr == addr) d.nodes

@[simp] theorem findNodeByAddr_run (addr : BtAddrLe) (s : Fw.State NodeManager) :
    (findNodeByAddr addr).run s = (s.data.find addr, s) := by
  simp [findNodeByAddr, NodeManager.find]

/-- What `node_manager_add_node` does to a record, new or known. -/
def NodeInfo.refreshed (n : NodeInfo) (rssi : Int8) (advData : Option (List UInt8))
    (len : UInt8) (uptime : UInt32) : NodeInfo :=
  let n := { n with rssi, lastSeen := uptime }
  match advData with
  | none => n
  | some bytes => if 0 < len then n.copyId bytes len else n

theorem nodeManagerAddNode_run (addr : BtAddrLe) (rssi : Int8)
    (advData : Option (List UInt8)) (len : UInt8) (uptime : UInt32)
    (d : NodeManager) (k : Kernel) :
    (nodeManagerAddNode addr rssi advData len uptime).run ⟨d, k⟩ =
      match d.find addr with
      | some i => ((i.val : Int), ⟨⟨Function.update d.nodes i
          ((d.nodes i).refreshed rssi advData len uptime)⟩, k⟩)
      | none =>
        match firstSlot (fun n => !n.valid) d.nodes with
        | none => (-eNOMEM, ⟨d, k⟩)
        | some i => ((i.val : Int), ⟨⟨Function.update d.nodes i
            (NodeInfo.refreshed { valid := true, addr } rssi advData len uptime)⟩,
              k⟩) := by
  unfold nodeManagerAddNode
  cases hfind : d.find addr with
  | some i =>
    -- the id is copied only if there is data, and `len` is not 0
    cases advData with
    | none => simp [hfind, NodeInfo.refreshed]
    | some bytes => by_cases hlen : 0 < len <;> simp [hfind, NodeInfo.refreshed, hlen]
  | none =>
    cases hfree : firstSlot (fun n : NodeInfo => !n.valid) d.nodes with
    | none => simp [hfind, hfree]
    | some i =>
      cases advData with
      | none => simp [hfind, hfree, NodeInfo.refreshed]
      | some bytes =>
        by_cases hlen : 0 < len <;> simp [hfind, hfree, NodeInfo.refreshed, hlen]

@[simp] theorem nodeManagerGetByAddr_run (addr : BtAddrLe) (d : NodeManager)
    (k : Kernel) :
    (nodeManagerGetByAddr addr).run ⟨d, k⟩ = (d.find addr, ⟨d, k⟩) := by
  simp [nodeManagerGetByAddr]

theorem updateByAddr_run (addr : BtAddrLe) (f : NodeInfo → NodeInfo)
    (d : NodeManager) (k : Kernel) :
    (updateByAddr addr f).run ⟨d, k⟩ =
      match d.find addr with
      | some i => (0, ⟨⟨Function.update d.nodes i (f (d.nodes i))⟩, k⟩)
      | none => (-eNOENT, ⟨d, k⟩) := by
  unfold updateByAddr
  cases hfind : d.find addr with
  | some i => simp [hfind]
  | none => simp [hfind]

@[simp] theorem countNodes_run (p : NodeInfo → Bool) (d : NodeManager) (k : Kernel) :
    (countNodes p).run ⟨d, k⟩ = ((countSlots p d.nodes : Int), ⟨d, k⟩) := by
  simp [countNodes]

@[simp] theorem nodeManagerInit_run (d : NodeManager) (k : Kernel) :
    nodeManagerInit.run ⟨d, k⟩ = (0, ⟨⟨fun _ => {}⟩, k.initMutex .nodeMutex⟩) := by
  simp [nodeManagerInit]

end SensorNet.Hub
