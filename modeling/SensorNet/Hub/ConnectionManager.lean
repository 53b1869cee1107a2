import SensorNet.Hub.Kernel
import SensorNet.Lib.Slots

/-!
# The hub's connection manager (`connection_manager.c`)

A table of `MAX_CONNECTIONS` slots. `connection_manager_connect` is three steps
that other threads and the stack's callbacks can come between: reserve a slot
under the mutex (`reserveSlot`), ask the stack for a connection
(`bt_conn_le_create`), and under the mutex again either store the connection
(`storeConn`) or give the slot back (`releaseSlot`). The function itself is the
three steps in a row.

`bt_conn_unref` belongs to the stack; the calls of it are logged in `unrefs`.
-/

namespace SensorNet.Hub

open Fw

/-- `MAX_CONNECTIONS` -/
def maxConnections : Nat := 3

/-- `struct connection_entry` -/
structure ConnectionEntry where
  conn : Option BtConn := none
  inUse : Bool := false
  deriving DecidableEq, Repr

/-- Static data of `connection_manager.c`, and the connections given to
`bt_conn_unref` so far. -/
structure ConnectionManager where
  connections : Fin maxConnections → ConnectionEntry
  unrefs : List BtConn

/-! ## Operations -/

/-- Write one slot. -/
def setEntry (i : Fin maxConnections) (f : ConnectionEntry → ConnectionEntry) :
    Fw ConnectionManager Unit :=
  setStatics fun d =>
    { d with connections := Function.update d.connections i (f (d.connections i)) }

@[simp] theorem run_setEntry (i : Fin maxConnections)
    (f : ConnectionEntry → ConnectionEntry) (s : Fw.State ConnectionManager) :
    (setEntry i f).run s =
      ((), ⟨⟨Function.update s.data.connections i (f (s.data.connections i)),
        s.data.unrefs⟩, s.kernel⟩) := (rfl)

/-- `bt_conn_unref(conn)` -/
def btConnUnref (conn : BtConn) : Fw ConnectionManager Unit :=
  setStatics fun d => { d with unrefs := d.unrefs ++ [conn] }

@[simp] theorem run_btConnUnref (conn : BtConn) (s : Fw.State ConnectionManager) :
    (btConnUnref conn).run s =
      ((), ⟨⟨s.data.connections, s.data.unrefs ++ [conn]⟩, s.kernel⟩) := (rfl)

/-- `connected_cb` only logs, also when `err` says that the connection failed. -/
def connectedCb (_conn : BtConn) (_err : UInt8) : Fw ConnectionManager Unit :=
  return ()

/-- `disconnected_cb` -/
def disconnectedCb (conn : BtConn) (_reason : UInt8) : Fw ConnectionManager Unit := do
  kMutexLock .connMutex
  match firstSlot (fun e => e.conn == some conn) (← statics).connections with
  | some i =>
    btConnUnref conn
    setEntry i fun _ => { conn := none, inUse := false }
  | none => pure ()
  kMutexUnlock .connMutex

/-- `connection_manager_init` -/
def connectionManagerInit : Fw ConnectionManager Int := do
  kMutexInit .connMutex
  setStatics fun d => { d with connections := fun _ => {} }
  return 0

/-- First step of `connection_manager_connect`: claim the first slot not in use. -/
def reserveSlot : Fw ConnectionManager (Option (Fin maxConnections)) := do
  kMutexLock .connMutex
  let slot := firstSlot (fun e => !e.inUse) (← statics).connections
  match slot with
  | some i => setEntry i fun e => { e with inUse := true }
  | none => pure ()
  kMutexUnlock .connMutex
  return slot

/-- Last step of `connection_manager_connect` after `bt_conn_le_create` failed. -/
def releaseSlot (slot : Fin maxConnections) : Fw ConnectionManager Unit := do
  kMutexLock .connMutex
  setEntry slot fun e => { e with inUse := false }
  kMutexUnlock .connMutex

/-- Last step of `connection_manager_connect` after `bt_conn_le_create` gave
`conn`. -/
def storeConn (slot : Fin maxConnections) (conn : BtConn) :
    Fw ConnectionManager Unit := do
  kMutexLock .connMutex
  setEntry slot fun e => { e with conn := some conn }
  kMutexUnlock .connMutex

/-- `connection_manager_connect`; `create` is what `bt_conn_le_create` does. -/
def connectionManagerConnect (_addr : BtAddrLe) (_timeoutSec : UInt32)
    (create : Except Int BtConn) : Fw ConnectionManager (Option BtConn) := do
  match ← reserveSlot with
  | none => return none
  | some slot =>
    match create with
    | .error _ =>
      releaseSlot slot
      return none
    | .ok conn =>
      storeConn slot conn
      return some conn

/-- `connection_manager_disconnect`; `err` is what `bt_conn_disconnect` returns. -/
def connectionManagerDisconnect (conn : Option BtConn) (err : Int) :
    Fw ConnectionManager Int :=
  return if conn.isNone then -eINVAL else err

/-- `connection_manager_get_count` -/
def connectionManagerGetCount : Fw ConnectionManager Int := do
  kMutexLock .connMutex
  let count := countSlots ConnectionEntry.inUse (← statics).connections
  kMutexUnlock .connMutex
  return count

/-! ## One equation for each operation -/

theorem disconnectedCb_run (conn : BtConn) (reason : UInt8) (d : ConnectionManager)
    (k : Kernel) :
    (disconnectedCb conn reason).run ⟨d, k⟩ =
      match firstSlot (fun e => e.conn == some conn) d.connections with
      | some i => ((), ⟨⟨Function.update d.connections i {}, d.unrefs ++ [conn]⟩, k⟩)
      | none => ((), ⟨d, k⟩) := by
  unfold disconnectedCb
  cases h : firstSlot (fun e : ConnectionEntry => e.conn == some conn)
      d.connections with
  | some i => simp [h]
  | none => simp [h]

theorem reserveSlot_run (d : ConnectionManager) (k : Kernel) :
    reserveSlot.run ⟨d, k⟩ =
      match firstSlot (fun e => !e.inUse) d.connections with
      | some i => (some i, ⟨⟨Function.update d.connections i
          { d.connections i with inUse := true }, d.unrefs⟩, k⟩)
      | none => (none, ⟨d, k⟩) := by
  unfold reserveSlot
  cases h : firstSlot (fun e : ConnectionEntry => !e.inUse) d.connections with
  | some i => simp [h]
  | none => simp [h]

@[simp] theorem releaseSlot_run (slot : Fin maxConnections) (d : ConnectionManager)
    (k : Kernel) :
    (releaseSlot slot).run ⟨d, k⟩ = ((), ⟨⟨Function.update d.connections slot
      { d.connections slot with inUse := false }, d.unrefs⟩, k⟩) := by
  simp [releaseSlot]

@[simp] theorem storeConn_run (slot : Fin maxConnections) (conn : BtConn)
    (d : ConnectionManager) (k : Kernel) :
    (storeConn slot conn).run ⟨d, k⟩ = ((), ⟨⟨Function.update d.connections slot
      { d.connections slot with conn := some conn }, d.unrefs⟩, k⟩) := by
  simp [storeConn]

@[simp] theorem connectionManagerGetCount_run (d : ConnectionManager) (k : Kernel) :
    connectionManagerGetCount.run ⟨d, k⟩ =
      ((countSlots ConnectionEntry.inUse d.connections : Int), ⟨d, k⟩) := by
  simp [connectionManagerGetCount]

@[simp] theorem connectionManagerInit_run (d : ConnectionManager) (k : Kernel) :
    connectionManagerInit.run ⟨d, k⟩ =
      (0, ⟨⟨fun _ => {}, d.unrefs⟩, k.initMutex .connMutex⟩) := by
  simp [connectionManagerInit]

/-- `connection_manager_connect` run in one go leaves the kernel as it was. -/
theorem connectionManagerConnect_kernel (addr : BtAddrLe) (timeoutSec : UInt32)
    (create : Except Int BtConn) (d : ConnectionManager) (k : Kernel) :
    ((connectionManagerConnect addr timeoutSec create).run ⟨d, k⟩).2.kernel = k := by
  unfold connectionManagerConnect
  rw [run_bind, reserveSlot_run]
  cases firstSlot (fun e : ConnectionEntry => !e.inUse) d.connections with
  | none => simp
  | some i =>
    cases create with
    | error err => simp
    | ok conn => simp

end SensorNet.Hub
