import Mathlib.Logic.Function.Basic

/-!
# The hub's kernel services

Every module of the hub firmware keeps its static data behind a `k_mutex`. A
firmware function is a state transformer `Fw σ α` over the module's static data
`σ` and the kernel's view of the calling thread: how often it holds each mutex
and how many of its unlock calls the kernel refused. A `k_mutex` is reentrant for
its owner, so the calling thread never waits for a mutex it holds already.

Values the environment decides (the uptime clock, whether an allocation
succeeds, the result of a Bluetooth stack call) are arguments of the function
that asks for them.
-/

namespace SensorNet.Hub

/-! ## Error numbers, addresses, connections -/

def eNOENT : Int := 2

def eNOMEM : Int := 12

def eINVAL : Int := 22

/-- `bt_addr_le_t`: address type and six address bytes. -/
structure BtAddrLe where
  type : UInt8
  val : BitVec 48
  deriving DecidableEq, Repr

/-- The identity of a `struct bt_conn` object; a pointer that may be `NULL` is an
`Option BtConn`. -/
abbrev BtConn := Nat

/-- The `int` a C function returns for a `uint32_t` value. -/
def intOfUInt32 (n : UInt32) : Int := n.toBitVec.toInt

/-- Small numbers are returned as they are. -/
theorem intOfUInt32_eq {n : UInt32} (h : n.toNat < 0x80000000) : intOfUInt32 n = n.toNat := by
  rw [intOfUInt32, BitVec.toInt_eq_toNat_of_lt (by rw [UInt32.toNat_toBitVec]; omega),
    UInt32.toNat_toBitVec]

/-! ## Mutexes -/

/-- The four mutexes of the hub firmware. -/
inductive Mutex where
  | jobMutex
  | nodeMutex
  | connMutex
  | gattMutex
  deriving DecidableEq, Repr

/-- Lock counts of the calling thread, and the number of unlock calls it made
for a mutex it did not hold (the kernel refuses them; the firmware ignores the
result). -/
@[ext] structure Kernel where
  lockCount : Mutex → Nat
  refused : Nat

namespace Kernel

/-- After boot nothing is held. -/
def boot : Kernel := ⟨fun _ => 0, 0⟩

/-- `k_mutex_lock(&m, K_FOREVER)` by the owner or on a free mutex. -/
def lock (k : Kernel) (m : Mutex) : Kernel :=
  { k with lockCount := Function.update k.lockCount m (k.lockCount m + 1) }

/-- `k_mutex_unlock(&m)`: refused when the caller does not hold `m`. -/
def unlock (k : Kernel) (m : Mutex) : Kernel :=
  if k.lockCount m = 0 then { k with refused := k.refused + 1 }
  else { k with lockCount := Function.update k.lockCount m (k.lockCount m - 1) }

/-- `k_mutex_init(&m)`: nobody holds `m`. -/
def initMutex (k : Kernel) (m : Mutex) : Kernel :=
  { k with lockCount := Function.update k.lockCount m 0 }

/-- A critical section leaves the kernel as it found it. -/
@[simp] theorem unlock_lock (k : Kernel) (m : Mutex) : (k.lock m).unlock m = k := by
  simp [lock, unlock]

/-- Initialising a mutex nobody holds changes nothing. -/
theorem initMutex_eq_self {k : Kernel} {m : Mutex} (h : k.lockCount m = 0) :
    k.initMutex m = k := by
  rw [initMutex, ← h, Function.update_eq_self]

/-- Unlocking another mutex than the one just locked does not restore the
kernel. -/
theorem unlock_lock_ne (k : Kernel) {m m' : Mutex} (h : m ≠ m') :
    ((k.lock m).unlock m').lockCount m = k.lockCount m + 1 := by
  unfold unlock
  split
  · simp [lock]
  · simp [lock, Function.update_of_ne h]

end Kernel

/-! ## Firmware functions -/

/-- What a firmware function runs on: its module's static data and the kernel. -/
structure Fw.State (σ : Type) where
  data : σ
  kernel : Kernel

/-- A firmware function over the static data `σ`. -/
def Fw (σ α : Type) := Fw.State σ → α × Fw.State σ

namespace Fw

variable {σ α β : Type}

/-- Run a firmware function. -/
def run (f : Fw σ α) (s : State σ) : α × State σ := f s

instance : Monad (Fw σ) where
  pure a := fun s => (a, s)
  bind f g := fun s => (g (f.run s).1).run (f.run s).2

-- The equations are proved by `(rfl)` so that `simp` rewrites with them step by
-- step instead of leaving one large definitional check to the kernel.

@[simp] theorem run_pure (a : α) (s : State σ) : (pure a : Fw σ α).run s = (a, s) := (rfl)

@[simp] theorem run_bind (f : Fw σ α) (g : α → Fw σ β) (s : State σ) :
    (f >>= g).run s = (g (f.run s).1).run (f.run s).2 := (rfl)

theorem run_map (g : α → β) (f : Fw σ α) (s : State σ) :
    (g <$> f).run s = (g (f.run s).1, (f.run s).2) := (rfl)

/-- `k_mutex_lock(&m, K_FOREVER)` -/
def kMutexLock (m : Mutex) : Fw σ Unit :=
  fun s => ((), { s with kernel := s.kernel.lock m })

/-- `k_mutex_unlock(&m)` -/
def kMutexUnlock (m : Mutex) : Fw σ Unit :=
  fun s => ((), { s with kernel := s.kernel.unlock m })

/-- `k_mutex_init(&m)` -/
def kMutexInit (m : Mutex) : Fw σ Unit :=
  fun s => ((), { s with kernel := s.kernel.initMutex m })

/-- Read the static data. -/
def statics : Fw σ σ := fun s => (s.data, s)

/-- Write the static data. -/
def setStatics (f : σ → σ) : Fw σ Unit := fun s => ((), { s with data := f s.data })

@[simp] theorem run_kMutexLock (m : Mutex) (s : State σ) :
    (kMutexLock m).run s = ((), ⟨s.data, s.kernel.lock m⟩) := (rfl)

@[simp] theorem run_kMutexUnlock (m : Mutex) (s : State σ) :
    (kMutexUnlock m).run s = ((), ⟨s.data, s.kernel.unlock m⟩) := (rfl)

@[simp] theorem run_kMutexInit (m : Mutex) (s : State σ) :
    (kMutexInit m).run s = ((), ⟨s.data, s.kernel.initMutex m⟩) := (rfl)

@[simp] theorem run_statics (s : State σ) : statics.run s = (s.data, s) := (rfl)

@[simp] theorem run_setStatics (f : σ → σ) (s : State σ) :
    (setStatics f).run s = ((), ⟨f s.data, s.kernel⟩) := (rfl)

/-- Result and static data after running `f` on `d` from a fresh kernel. -/
def exec (f : Fw σ α) (d : σ) : α × σ :=
  ((f.run ⟨d, Kernel.boot⟩).1, (f.run ⟨d, Kernel.boot⟩).2.data)

end Fw

end SensorNet.Hub
