import SensorNet.Hub.Kernel
import SensorNet.Lib.Slots

/-!
# The hub's GATT client (`gatt_client.c`)

A table of `MAX_GATT_CONTEXTS` contexts, one for each connection in use, found
by the connection pointer. A context keeps the value handles that discovery
reported and the parameters of the requests under way.

- `getContext`: the context of a connection, claiming a free one if there is
  none. It is the only place a context is claimed; `releaseContext`, called by
  `gatt_client_unsubscribe` alone, is the only place one is given back.
- `discoverFunc`, `readFunc`, `notifyFunc`: the stack's callbacks.
- `gattClientDiscover`, `Read`, `Write`, `Subscribe`, `Unsubscribe`: the requests.

Requests to the stack and calls of the application's callbacks are logged.
-/

namespace SensorNet.Hub

open Fw

/-- `MAX_GATT_CONTEXTS` -/
def maxGattContexts : Nat := 3

/-! ## UUIDs -/

/-- A `struct bt_uuid`, up to `bt_uuid_cmp`: its 128-bit value. -/
abbrev BtUuid := BitVec 128

/-- `BT_UUID_128_ENCODE(w32, w1, w2, w3, w48)` -/
def btUuid128Encode (w32 : BitVec 32) (w1 w2 w3 : BitVec 16) (w48 : BitVec 48) :
    BtUuid :=
  w32 ++ w1 ++ w2 ++ w3 ++ w48

/-- `SENSOR_SERVICE_UUID` -/
def sensorServiceUuid : BtUuid :=
  btUuid128Encode 0x00001000 0x0000 0x1000 0x8000 0x00805f9b34fb

/-- `READING_CHAR_UUID` -/
def readingCharUuid : BtUuid :=
  btUuid128Encode 0x00001001 0x0000 0x1000 0x8000 0x00805f9b34fb

/-- `BATTERY_CHAR_UUID` -/
def batteryCharUuid : BtUuid :=
  btUuid128Encode 0x00001002 0x0000 0x1000 0x8000 0x00805f9b34fb

/-- `CONFIG_CHAR_UUID` -/
def configCharUuid : BtUuid :=
  btUuid128Encode 0x00001003 0x0000 0x1000 0x8000 0x00805f9b34fb

/-- `CALIBRATION_CHAR_UUID` -/
def calibrationCharUuid : BtUuid :=
  btUuid128Encode 0x00001004 0x0000 0x1000 0x8000 0x00805f9b34fb

/-- `DIAGNOSTICS_CHAR_UUID` -/
def diagnosticsCharUuid : BtUuid :=
  btUuid128Encode 0x00001005 0x0000 0x1000 0x8000 0x00805f9b34fb

/-! ## Contexts, requests, callbacks -/

/-- A callback of the application (a function pointer that is not `NULL`). -/
abbrev AppCallback := Nat

/-- What the client sets in a `struct bt_gatt_discover_params`; the discovery type
is always `BT_GATT_DISCOVER_CHARACTERISTIC`. -/
structure DiscoverParams where
  uuid : Option BtUuid := none
  startHandle : UInt16 := 0
  endHandle : UInt16 := 0
  deriving DecidableEq, Repr

/-- What the client sets in a `struct bt_gatt_read_params`. -/
structure ReadParams where
  handleCount : Nat := 0
  handle : UInt16 := 0
  offset : UInt16 := 0
  deriving DecidableEq, Repr

/-- What the client sets in a `struct bt_gatt_write_params`. -/
structure WriteParams where
  handle : UInt16 := 0
  offset : UInt16 := 0
  data : List UInt8 := []
  length : UInt16 := 0
  deriving DecidableEq, Repr

/-- What the client sets in a `struct bt_gatt_subscribe_params`. -/
structure SubscribeParams where
  value : UInt16 := 0
  valueHandle : UInt16 := 0
  cccHandle : UInt16 := 0
  deriving DecidableEq, Repr

/-- `struct gatt_client_ctx`; the defaults are the record after
`memset(.., 0, ..)`. -/
structure GattClientCtx where
  conn : Option BtConn := none
  discoverParams : DiscoverParams := {}
  readParams : ReadParams := {}
  writeParams : WriteParams := {}
  subscribeParams : SubscribeParams := {}
  readingHandle : UInt16 := 0
  batteryHandle : UInt16 := 0
  configHandle : UInt16 := 0
  calibrationHandle : UInt16 := 0
  diagnosticsHandle : UInt16 := 0
  discoverCb : Option AppCallback := none
  readCb : Option AppCallback := none
  writeCb : Option AppCallback := none
  notifyCb : Option AppCallback := none
  deriving DecidableEq, Repr

/-- A request handed to the Bluetooth stack. -/
inductive StackRequest where
  | discover (conn : Option BtConn) (params : DiscoverParams)
  | read (conn : Option BtConn) (params : ReadParams)
  | write (conn : Option BtConn) (params : WriteParams)
  | subscribe (conn : Option BtConn) (params : SubscribeParams)
  | unsubscribe (conn : Option BtConn) (params : SubscribeParams)
  deriving DecidableEq, Repr

/-- A call of an application callback. -/
inductive AppCall where
  | discovered (cb : AppCallback) (conn : Option BtConn) (status : Int)
  | read (cb : AppCallback) (conn : Option BtConn) (status : Int)
      (data : Option (List UInt8)) (length : UInt16)
  | written (cb : AppCallback) (conn : Option BtConn) (status : Int)
  | notified (cb : AppCallback) (conn : Option BtConn) (data : List UInt8)
      (length : UInt16)
  deriving DecidableEq, Repr

/-- Static data of `gatt_client.c`, and what it asked of the stack and told the
application so far. -/
structure GattClient where
  contexts : Fin maxGattContexts → GattClientCtx
  requests : List StackRequest
  appCalls : List AppCall

/-- What a stack callback returns. -/
inductive GattIter where
  | stop
  | continue
  deriving DecidableEq, Repr

/-- A discovered characteristic (`struct bt_gatt_chrc`). -/
structure GattChrc where
  uuid : BtUuid
  valueHandle : UInt16
  deriving DecidableEq, Repr

/-! ## Operations -/

/-- Write one context. -/
def setCtx (i : Fin maxGattContexts) (f : GattClientCtx → GattClientCtx) :
    Fw GattClient Unit :=
  setStatics fun d =>
    { d with contexts := Function.update d.contexts i (f (d.contexts i)) }

@[simp] theorem run_setCtx (i : Fin maxGattContexts)
    (f : GattClientCtx → GattClientCtx) (s : Fw.State GattClient) :
    (setCtx i f).run s = ((), ⟨⟨Function.update s.data.contexts i
      (f (s.data.contexts i)), s.data.requests, s.data.appCalls⟩, s.kernel⟩) := (rfl)

/-- Hand a request to the stack. -/
def request (r : StackRequest) : Fw GattClient Unit :=
  setStatics fun d => { d with requests := d.requests ++ [r] }

@[simp] theorem run_request (r : StackRequest) (s : Fw.State GattClient) :
    (request r).run s = ((), ⟨⟨s.data.contexts, s.data.requests ++ [r],
      s.data.appCalls⟩, s.kernel⟩) := (rfl)

/-- Call the application back, if it gave a callback. -/
def callBack (cb : Option AppCallback) (call : AppCallback → AppCall) :
    Fw GattClient Unit :=
  setStatics fun d => { d with appCalls := d.appCalls ++ cb.toList.map call }

@[simp] theorem run_callBack (cb : Option AppCallback) (call : AppCallback → AppCall)
    (s : Fw.State GattClient) :
    (callBack cb call).run s = ((), ⟨⟨s.data.contexts, s.data.requests,
      s.data.appCalls ++ cb.toList.map call⟩, s.kernel⟩) := (rfl)

/-- `gatt_client_init` -/
def gattClientInit : Fw GattClient Int := do
  kMutexInit .gattMutex
  setStatics fun d => { d with contexts := fun _ => {} }
  return 0

/-- `get_context` -/
def getContext (conn : Option BtConn) :
    Fw GattClient (Option (Fin maxGattContexts)) := do
  kMutexLock .gattMutex
  match firstSlot (fun ctx => ctx.conn == conn) (← statics).contexts with
  | some i =>
    kMutexUnlock .gattMutex
    return some i
  | none =>
    match firstSlot (fun ctx => ctx.conn.isNone) (← statics).contexts with
    | some i =>
      setCtx i fun ctx => { ctx with conn }
      kMutexUnlock .gattMutex
      return some i
    | none =>
      kMutexUnlock .gattMutex
      return none

/-- `release_context` -/
def releaseContext (conn : Option BtConn) : Fw GattClient Unit := do
  kMutexLock .gattMutex
  match firstSlot (fun ctx => ctx.conn == conn) (← statics).contexts with
  | some i => setCtx i fun _ => {}
  | none => pure ()
  kMutexUnlock .gattMutex

/-- The handle `discover_func` stores for a reported characteristic. -/
def GattClientCtx.store (ctx : GattClientCtx) (chrc : GattChrc) : GattClientCtx :=
  if chrc.uuid = readingCharUuid then
    { ctx with readingHandle := chrc.valueHandle }
  else if chrc.uuid = batteryCharUuid then
    { ctx with batteryHandle := chrc.valueHandle }
  else if chrc.uuid = configCharUuid then
    { ctx with configHandle := chrc.valueHandle }
  else if chrc.uuid = calibrationCharUuid then
    { ctx with calibrationHandle := chrc.valueHandle }
  else if chrc.uuid = diagnosticsCharUuid then
    { ctx with diagnosticsHandle := chrc.valueHandle }
  else ctx

/-- `discover_func`; `attr` is `NULL` when discovery is complete. -/
def discoverFunc (conn : Option BtConn) (attr : Option GattChrc) :
    Fw GattClient GattIter := do
  let ctx ← getContext conn
  match attr with
  | none =>
    match ctx with
    | some i =>
      callBack ((← statics).contexts i).discoverCb fun cb => .discovered cb conn 0
    | none => pure ()
    return .stop
  | some chrc =>
    match ctx with
    | none => return .stop
    | some i =>
      setCtx i fun ctx => ctx.store chrc
      return .continue

/-- `gatt_client_discover`; `err` is what `bt_gatt_discover` returns. -/
def gattClientDiscover (conn : Option BtConn) (cb : Option AppCallback) (err : Int) :
    Fw GattClient Int := do
  match ← getContext conn with
  | none => return -eNOMEM
  | some i =>
    setCtx i fun ctx =>
      { ctx with
        discoverCb := cb
        discoverParams := ⟨some sensorServiceUuid, 0x0001, 0xffff⟩ }
    request (.discover conn ((← statics).contexts i).discoverParams)
    return if err ≠ 0 then err else 0

/-- `read_func` -/
def readFunc (conn : Option BtConn) (err : UInt8) (data : Option (List UInt8))
    (length : UInt16) : Fw GattClient GattIter := do
  match ← getContext conn with
  | none => return .stop
  | some i =>
    if err ≠ 0 then
      callBack ((← statics).contexts i).readCb fun cb => .read cb conn err.toNat none 0
      return .stop
    else
      match data with
      | none => return .stop
      | some bytes =>
        callBack ((← statics).contexts i).readCb fun cb =>
          .read cb conn 0 (some bytes) length
        return .continue

/-- The handle `gatt_client_read` looks up; 0 if the UUID is not readable. -/
def GattClientCtx.readHandle (ctx : GattClientCtx) (uuid : BtUuid) : UInt16 :=
  if uuid = readingCharUuid then ctx.readingHandle
  else if uuid = batteryCharUuid then ctx.batteryHandle
  else if uuid = configCharUuid then ctx.configHandle
  else if uuid = diagnosticsCharUuid then ctx.diagnosticsHandle
  else 0

/-- `gatt_client_read`; `err` is what `bt_gatt_read` returns. -/
def gattClientRead (conn : Option BtConn) (uuid : BtUuid) (cb : Option AppCallback)
    (err : Int) : Fw GattClient Int := do
  match ← getContext conn with
  | none => return -eNOMEM
  | some i =>
    let handle := ((← statics).contexts i).readHandle uuid
    if handle = 0 then return -eNOENT
    else
      setCtx i fun ctx => { ctx with readCb := cb, readParams := ⟨1, handle, 0⟩ }
      request (.read conn ((← statics).contexts i).readParams)
      return if err ≠ 0 then err else 0

/-- The handle `gatt_client_write` looks up; 0 if the UUID is not writable. -/
def GattClientCtx.writeHandle (ctx : GattClientCtx) (uuid : BtUuid) : UInt16 :=
  if uuid = configCharUuid then ctx.configHandle
  else if uuid = calibrationCharUuid then ctx.calibrationHandle
  else 0

/-- `gatt_client_write`; `err` is what `bt_gatt_write` returns. -/
def gattClientWrite (conn : Option BtConn) (uuid : BtUuid) (data : List UInt8)
    (length : UInt16) (cb : Option AppCallback) (err : Int) : Fw GattClient Int := do
  match ← getContext conn with
  | none => return -eNOMEM
  | some i =>
    let handle := ((← statics).contexts i).writeHandle uuid
    if handle = 0 then return -eNOENT
    else
      setCtx i fun ctx =>
        { ctx with writeCb := cb, writeParams := ⟨handle, 0, data, length⟩ }
      request (.write conn ((← statics).contexts i).writeParams)
      if err ≠ 0 then return err
      else
        callBack cb fun cb => .written cb conn 0
        return 0

/-- `notify_func`; `params` points to the subscription stored in that context,
`data` is `NULL` when the subscription ended. -/
def notifyFunc (conn : Option BtConn) (params : Fin maxGattContexts)
    (data : Option (List UInt8)) (length : UInt16) : Fw GattClient GattIter := do
  match ← getContext conn with
  | none => return .stop
  | some i =>
    match data with
    | none =>
      setCtx params fun ctx =>
        { ctx with subscribeParams := { ctx.subscribeParams with valueHandle := 0 } }
      return .stop
    | some bytes =>
      callBack ((← statics).contexts i).notifyCb fun cb => .notified cb conn bytes length
      return .continue

/-- The handle `gatt_client_subscribe` looks up; 0 if the UUID does not notify. -/
def GattClientCtx.subscribeHandle (ctx : GattClientCtx) (uuid : BtUuid) : UInt16 :=
  if uuid = readingCharUuid then ctx.readingHandle else 0

/-- `gatt_client_subscribe`; `err` is what `bt_gatt_subscribe` returns. -/
def gattClientSubscribe (conn : Option BtConn) (uuid : BtUuid)
    (cb : Option AppCallback) (err : Int) : Fw GattClient Int := do
  match ← getContext conn with
  | none => return -eNOMEM
  | some i =>
    let handle := ((← statics).contexts i).subscribeHandle uuid
    if handle = 0 then return -eNOENT
    else
      -- the descriptor is assumed to follow the value
      setCtx i fun ctx =>
        { ctx with notifyCb := cb, subscribeParams := ⟨0x0001, handle, handle + 1⟩ }
      request (.subscribe conn ((← statics).contexts i).subscribeParams)
      return if err ≠ 0 then err else 0

/-- `gatt_client_unsubscribe`; `err` is what `bt_gatt_unsubscribe` returns. -/
def gattClientUnsubscribe (conn : Option BtConn) (_uuid : BtUuid) (err : Int) :
    Fw GattClient Int := do
  match ← getContext conn with
  | none => return -eNOMEM
  | some i =>
    request (.unsubscribe conn ((← statics).contexts i).subscribeParams)
    if err ≠ 0 then return err
    else
      releaseContext conn
      return 0

/-! ## Calls and callbacks as data -/

/-- The operations of `gatt_client.h`, and its callbacks. -/
inductive GattOp where
  | init
  | discover (conn : Option BtConn) (cb : Option AppCallback) (err : Int)
  | read (conn : Option BtConn) (uuid : BtUuid) (cb : Option AppCallback) (err : Int)
  | write (conn : Option BtConn) (uuid : BtUuid) (data : List UInt8) (length : UInt16)
      (cb : Option AppCallback) (err : Int)
  | subscribe (conn : Option BtConn) (uuid : BtUuid) (cb : Option AppCallback)
      (err : Int)
  | unsubscribe (conn : Option BtConn) (uuid : BtUuid) (err : Int)
  | discoverFunc (conn : Option BtConn) (attr : Option GattChrc)
  | readFunc (conn : Option BtConn) (err : UInt8) (data : Option (List UInt8))
      (length : UInt16)
  | notifyFunc (conn : Option BtConn) (params : Fin maxGattContexts)
      (data : Option (List UInt8)) (length : UInt16)

/-- What a callback returns as a `uint8_t` (`BT_GATT_ITER_STOP`,
`BT_GATT_ITER_CONTINUE`). -/
def GattIter.code : GattIter → Int
  | .stop => 0
  | .continue => 1

namespace GattOp

/-- The function called. -/
def op : GattOp → Fw GattClient Int
  | init => gattClientInit
  | discover conn cb err => gattClientDiscover conn cb err
  | read conn uuid cb err => gattClientRead conn uuid cb err
  | write conn uuid data length cb err => gattClientWrite conn uuid data length cb err
  | subscribe conn uuid cb err => gattClientSubscribe conn uuid cb err
  | unsubscribe conn uuid err => gattClientUnsubscribe conn uuid err
  | discoverFunc conn attr => GattIter.code <$> Hub.discoverFunc conn attr
  | readFunc conn err data length => GattIter.code <$> Hub.readFunc conn err data length
  | notifyFunc conn params data length =>
    GattIter.code <$> Hub.notifyFunc conn params data length

/-- The connection the call is about. -/
def conn : GattOp → Option BtConn
  | init => none
  | discover conn _ _ | read conn _ _ _ | write conn _ _ _ _ _ | subscribe conn _ _ _
  | unsubscribe conn _ _ | discoverFunc conn _ | readFunc conn _ _ _
  | notifyFunc conn _ _ _ => conn

end GattOp

/-! ## One equation for each operation -/

namespace GattClient

/-- The context `get_context` gives a connection: its own, else the first free
one. -/
def slotOf (d : GattClient) (conn : Option BtConn) : Option (Fin maxGattContexts) :=
  (firstSlot (fun ctx => ctx.conn == conn) d.contexts).or
    (firstSlot (fun ctx => ctx.conn.isNone) d.contexts)

/-- Edit one context. -/
def modify (d : GattClient) (i : Fin maxGattContexts)
    (f : GattClientCtx → GattClientCtx) : GattClient :=
  { d with contexts := Function.update d.contexts i (f (d.contexts i)) }

@[simp] theorem modify_contexts (d : GattClient) (i : Fin maxGattContexts)
    (f : GattClientCtx → GattClientCtx) :
    (d.modify i f).contexts = Function.update d.contexts i (f (d.contexts i)) := rfl

@[simp] theorem modify_requests (d : GattClient) (i : Fin maxGattContexts)
    (f : GattClientCtx → GattClientCtx) : (d.modify i f).requests = d.requests := rfl

@[simp] theorem modify_modify (d : GattClient) (i : Fin maxGattContexts)
    (f g : GattClientCtx → GattClientCtx) :
    (d.modify i f).modify i g = d.modify i fun ctx => g (f ctx) := by
  simp [modify]

/-- Log a request to the stack. -/
def send (d : GattClient) (r : StackRequest) : GattClient :=
  { d with requests := d.requests ++ [r] }

/-- Log calls of the application's callbacks. -/
def tell (d : GattClient) (calls : List AppCall) : GattClient :=
  { d with appCalls := d.appCalls ++ calls }

/-- The state after `get_context` gave the connection the context `i`. -/
def claim (d : GattClient) (i : Fin maxGattContexts) (conn : Option BtConn) :
    GattClient :=
  d.modify i fun ctx => { ctx with conn }

/-- Claiming a context the connection has already changes nothing. -/
theorem claim_eq_self {d : GattClient} {i : Fin maxGattContexts}
    {conn : Option BtConn} (h : (d.contexts i).conn = conn) : d.claim i conn = d := by
  subst h
  simp [claim, modify]

/-- A context given to a connection is its own or was free. -/
theorem conn_of_slotOf {d : GattClient} {conn : Option BtConn}
    {i : Fin maxGattContexts} (h : d.slotOf conn = some i) :
    (d.contexts i).conn = conn ∨
      ((d.contexts i).conn = none ∧ ∀ j, (d.contexts j).conn ≠ conn) := by
  rw [slotOf] at h
  cases hf : firstSlot (fun ctx : GattClientCtx => ctx.conn == conn) d.contexts with
  | some j =>
    rw [hf] at h
    cases h
    exact .inl (by simpa using firstSlot_spec hf)
  | none =>
    rw [hf, Option.none_or] at h
    exact .inr ⟨by simpa using firstSlot_spec h,
      fun j => by simpa using firstSlot_eq_none_iff.mp hf j⟩

/-- Which context a connection gets depends only on whose the contexts are. -/
theorem slotOf_congr {d d' : GattClient}
    (h : ∀ i, (d.contexts i).conn = (d'.contexts i).conn) (conn : Option BtConn) :
    d.slotOf conn = d'.slotOf conn := by
  exact congrArg₂ Option.or (firstSlot_congr fun i => by rw [h i])
    (firstSlot_congr fun i => by rw [h i])

theorem slotOf_modify {d : GattClient} {i : Fin maxGattContexts}
    {f : GattClientCtx → GattClientCtx} (hf : ∀ ctx, (f ctx).conn = ctx.conn)
    (conn : Option BtConn) : (d.modify i f).slotOf conn = d.slotOf conn := by
  refine slotOf_congr (fun j => ?_) conn
  by_cases hj : j = i
  · subst hj
    rw [modify_contexts, Function.update_self, hf]
  · rw [modify_contexts, Function.update_of_ne hj]

/-- Asked again, `get_context` gives the same context. -/
theorem slotOf_claim {d : GattClient} {conn : Option BtConn} {i : Fin maxGattContexts}
    (h : d.slotOf conn = some i) : (d.claim i conn).slotOf conn = some i := by
  rcases conn_of_slotOf h with hown | ⟨-, hnone⟩
  · rw [claim_eq_self hown, h]
  · -- the claimed context is the only one of this connection
    have hfirst : firstSlot (fun ctx : GattClientCtx => ctx.conn == conn)
        (d.claim i conn).contexts = some i := by
      refine firstSlot_eq_of_unique (by simp [claim]) fun j hj => ?_
      by_contra hji
      rw [claim, modify_contexts, Function.update_of_ne hji] at hj
      exact hnone j (by simpa using hj)
    rw [slotOf, hfirst, Option.some_or]

/-- The context just claimed is the first one of its connection. -/
theorem firstSlot_claim {d : GattClient} {conn : Option BtConn}
    {i : Fin maxGattContexts} (h : d.slotOf conn = some i) :
    firstSlot (fun ctx => ctx.conn == conn) (d.claim i conn).contexts = some i := by
  have hown : ((d.claim i conn).contexts i).conn = conn := by simp [claim]
  obtain ⟨j, hj⟩ := exists_firstSlot (p := fun ctx : GattClientCtx => ctx.conn == conn)
    (t := (d.claim i conn).contexts) (i := i) (by simpa using hown)
  have hslot := slotOf_claim h
  rw [slotOf, hj, Option.some_or] at hslot
  rw [hj, hslot]

/-- A connection gets no context only when all are other connections'. -/
theorem slotOf_eq_none_iff {d : GattClient} {conn : Option BtConn} :
    d.slotOf conn = none ↔
      ∀ i, (d.contexts i).conn ≠ conn ∧ (d.contexts i).conn ≠ none := by
  simp only [slotOf, Option.or_eq_none_iff, firstSlot_eq_none_iff, beq_eq_false_iff_ne,
    Option.isNone_eq_false_iff, Option.isSome_iff_ne_none, forall_and]

end GattClient

theorem getContext_run (conn : Option BtConn) (d : GattClient) (k : Kernel) :
    (getContext conn).run ⟨d, k⟩ =
      match d.slotOf conn with
      | some i => (some i, ⟨d.claim i conn, k⟩)
      | none => (none, ⟨d, k⟩) := by
  unfold getContext GattClient.slotOf
  cases hf : firstSlot (fun ctx : GattClientCtx => ctx.conn == conn) d.contexts with
  | some i =>
    have hi : (d.contexts i).conn = conn := by simpa using firstSlot_spec hf
    simp [hf, GattClient.claim_eq_self hi]
  | none =>
    cases hg : firstSlot (fun ctx : GattClientCtx => ctx.conn.isNone) d.contexts with
    | some i => simp [hf, hg, GattClient.claim, GattClient.modify]
    | none => simp [hf, hg]

theorem releaseContext_run (conn : Option BtConn) (d : GattClient) (k : Kernel) :
    (releaseContext conn).run ⟨d, k⟩ =
      match firstSlot (fun ctx => ctx.conn == conn) d.contexts with
      | some i => ((), ⟨d.modify i fun _ => {}, k⟩)
      | none => ((), ⟨d, k⟩) := by
  unfold releaseContext
  cases hf : firstSlot (fun ctx : GattClientCtx => ctx.conn == conn) d.contexts with
  | some i => simp [hf, GattClient.modify]
  | none => simp [hf]

theorem discoverFunc_attr_run (conn : Option BtConn) (chrc : GattChrc)
    (d : GattClient) (k : Kernel) :
    (discoverFunc conn (some chrc)).run ⟨d, k⟩ =
      match d.slotOf conn with
      | some i => (.continue, ⟨(d.claim i conn).modify i (·.store chrc), k⟩)
      | none => (.stop, ⟨d, k⟩) := by
  unfold discoverFunc
  rw [run_bind, getContext_run]
  cases d.slotOf conn with
  | some i => simp [GattClient.modify]
  | none => simp

theorem discoverFunc_done_run (conn : Option BtConn) (d : GattClient) (k : Kernel) :
    (discoverFunc conn none).run ⟨d, k⟩ =
      match d.slotOf conn with
      | some i => (.stop, ⟨(d.claim i conn).tell
          ((d.contexts i).discoverCb.toList.map fun cb => .discovered cb conn 0), k⟩)
      | none => (.stop, ⟨d, k⟩) := by
  unfold discoverFunc
  rw [run_bind, getContext_run]
  cases d.slotOf conn with
  | some i => simp [GattClient.claim, GattClient.tell]
  | none => simp

theorem gattClientDiscover_run (conn : Option BtConn) (cb : Option AppCallback)
    (err : Int) (d : GattClient) (k : Kernel) :
    (gattClientDiscover conn cb err).run ⟨d, k⟩ =
      match d.slotOf conn with
      | none => (-eNOMEM, ⟨d, k⟩)
      | some i => (err, ⟨((d.claim i conn).modify i fun ctx =>
          { ctx with
            discoverCb := cb
            discoverParams := ⟨some sensorServiceUuid, 0x0001, 0xffff⟩ }).send
          (.discover conn ⟨some sensorServiceUuid, 0x0001, 0xffff⟩), k⟩) := by
  unfold gattClientDiscover
  rw [run_bind, getContext_run]
  cases d.slotOf conn with
  | some i => by_cases herr : err = 0 <;> simp [GattClient.modify, GattClient.send, herr]
  | none => simp

theorem readFunc_run (conn : Option BtConn) (err : UInt8) (data : Option (List UInt8))
    (length : UInt16) (d : GattClient) (k : Kernel) :
    ∃ calls, ((readFunc conn err data length).run ⟨d, k⟩).2 =
      match d.slotOf conn with
      | some i => ⟨(d.claim i conn).tell calls, k⟩
      | none => ⟨d, k⟩ := by
  unfold readFunc
  rw [run_bind, getContext_run]
  cases d.slotOf conn with
  | none => exact ⟨[], by simp⟩
  | some i =>
    by_cases herr : err = 0
    · cases data with
      | none => exact ⟨[], by simp [herr, GattClient.tell]⟩
      | some bytes =>
        refine ⟨(d.contexts i).readCb.toList.map fun cb =>
          .read cb conn 0 (some bytes) length, ?_⟩
        simp [herr, GattClient.claim, GattClient.tell]
    · refine ⟨(d.contexts i).readCb.toList.map fun cb =>
        .read cb conn err.toNat none 0, ?_⟩
      simp [herr, GattClient.claim, GattClient.tell]

@[simp] theorem readHandle_conn (ctx : GattClientCtx) (conn : Option BtConn)
    (uuid : BtUuid) : { ctx with conn }.readHandle uuid = ctx.readHandle uuid := rfl

@[simp] theorem writeHandle_conn (ctx : GattClientCtx) (conn : Option BtConn)
    (uuid : BtUuid) : { ctx with conn }.writeHandle uuid = ctx.writeHandle uuid := rfl

@[simp] theorem subscribeHandle_conn (ctx : GattClientCtx) (conn : Option BtConn)
    (uuid : BtUuid) :
    { ctx with conn }.subscribeHandle uuid = ctx.subscribeHandle uuid := rfl

theorem gattClientRead_run (conn : Option BtConn) (uuid : BtUuid)
    (cb : Option AppCallback) (err : Int) (d : GattClient) (k : Kernel) :
    (gattClientRead conn uuid cb err).run ⟨d, k⟩ =
      match d.slotOf conn with
      | none => (-eNOMEM, ⟨d, k⟩)
      | some i =>
        let handle := (d.contexts i).readHandle uuid
        if handle = 0 then (-eNOENT, ⟨d.claim i conn, k⟩)
        else (err, ⟨((d.claim i conn).modify i fun ctx =>
            { ctx with readCb := cb, readParams := ⟨1, handle, 0⟩ }).send
          (.read conn ⟨1, handle, 0⟩), k⟩) := by
  unfold gattClientRead
  rw [run_bind, getContext_run]
  cases d.slotOf conn with
  | none => simp
  | some i =>
    by_cases hh : (d.contexts i).readHandle uuid = 0
    · simp [GattClient.claim, hh]
    · by_cases herr : err = 0 <;>
        simp [GattClient.claim, GattClient.modify, GattClient.send, hh, herr]

theorem gattClientWrite_run (conn : Option BtConn) (uuid : BtUuid)
    (data : List UInt8) (length : UInt16) (cb : Option AppCallback) (err : Int)
    (d : GattClient) (k : Kernel) :
    (gattClientWrite conn uuid data length cb err).run ⟨d, k⟩ =
      match d.slotOf conn with
      | none => (-eNOMEM, ⟨d, k⟩)
      | some i =>
        let handle := (d.contexts i).writeHandle uuid
        if handle = 0 then (-eNOENT, ⟨d.claim i conn, k⟩)
        else (err, ⟨(((d.claim i conn).modify i fun ctx =>
            { ctx with writeCb := cb, writeParams := ⟨handle, 0, data, length⟩ }).send
          (.write conn ⟨handle, 0, data, length⟩)).tell
          (if err = 0 then cb.toList.map fun cb => .written cb conn 0 else []), k⟩) := by
  unfold gattClientWrite
  rw [run_bind, getContext_run]
  cases d.slotOf conn with
  | none => simp
  | some i =>
    by_cases hh : (d.contexts i).writeHandle uuid = 0
    · simp [GattClient.claim, hh]
    · by_cases herr : err = 0 <;>
        simp [GattClient.claim, GattClient.modify, GattClient.send, GattClient.tell, hh,
          herr]

theorem notifyFunc_run (conn : Option BtConn) (params : Fin maxGattContexts)
    (data : Option (List UInt8)) (length : UInt16) (d : GattClient) (k : Kernel) :
    ((notifyFunc conn params data length).run ⟨d, k⟩).2 =
      match d.slotOf conn, data with
      | none, _ => ⟨d, k⟩
      | some i, none => ⟨(d.claim i conn).modify params fun ctx =>
          { ctx with subscribeParams := { ctx.subscribeParams with valueHandle := 0 } }, k⟩
      | some i, some bytes => ⟨(d.claim i conn).tell
          ((d.contexts i).notifyCb.toList.map fun cb =>
            .notified cb conn bytes length), k⟩ := by
  unfold notifyFunc
  rw [run_bind, getContext_run]
  cases d.slotOf conn with
  | none => simp
  | some i =>
    cases data with
    | none => simp [GattClient.modify]
    | some bytes => simp [GattClient.claim, GattClient.tell]

theorem gattClientSubscribe_run (conn : Option BtConn) (uuid : BtUuid)
    (cb : Option AppCallback) (err : Int) (d : GattClient) (k : Kernel) :
    (gattClientSubscribe conn uuid cb err).run ⟨d, k⟩ =
      match d.slotOf conn with
      | none => (-eNOMEM, ⟨d, k⟩)
      | some i =>
        let handle := (d.contexts i).subscribeHandle uuid
        if handle = 0 then (-eNOENT, ⟨d.claim i conn, k⟩)
        else (err, ⟨((d.claim i conn).modify i fun ctx =>
            { ctx with notifyCb := cb, subscribeParams := ⟨0x0001, handle, handle + 1⟩ }).send
          (.subscribe conn ⟨0x0001, handle, handle + 1⟩), k⟩) := by
  unfold gattClientSubscribe
  rw [run_bind, getContext_run]
  cases d.slotOf conn with
  | none => simp
  | some i =>
    by_cases hh : (d.contexts i).subscribeHandle uuid = 0
    · simp [GattClient.claim, hh]
    · by_cases herr : err = 0 <;>
        simp [GattClient.claim, GattClient.modify, GattClient.send, hh, herr]

theorem gattClientUnsubscribe_run (conn : Option BtConn) (uuid : BtUuid) (err : Int)
    (d : GattClient) (k : Kernel) :
    (gattClientUnsubscribe conn uuid err).run ⟨d, k⟩ =
      match d.slotOf conn with
      | none => (-eNOMEM, ⟨d, k⟩)
      | some i =>
        let asked := (d.claim i conn).send (.unsubscribe conn (d.contexts i).subscribeParams)
        (err, if err = 0 then ((releaseContext conn).run ⟨asked, k⟩).2 else ⟨asked, k⟩) := by
  unfold gattClientUnsubscribe
  rw [run_bind, getContext_run]
  cases d.slotOf conn with
  | none => simp
  | some i =>
    by_cases herr : err = 0 <;> simp [GattClient.claim, GattClient.send, herr]

@[simp] theorem gattClientInit_run (d : GattClient) (k : Kernel) :
    gattClientInit.run ⟨d, k⟩ =
      (0, ⟨⟨fun _ => {}, d.requests, d.appCalls⟩, k.initMutex .gattMutex⟩) := by
  simp [gattClientInit]

end SensorNet.Hub
