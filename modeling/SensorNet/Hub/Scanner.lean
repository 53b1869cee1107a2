import SensorNet.Hub.Kernel
import SensorNet.Lib.Run

/-!
# The hub's scan cycle (`scanner.c`, `scan_work_handler` of `hub_nrf54l15_ble/src/main.c`)

The work handler scans for five seconds every half minute. The scanner keeps a callback and
a flag; the Bluetooth stack decides the results of its calls.

`scanner_start` stores the callback before it asks the stack, and keeps it when the stack
refuses. `scanner_stop` leaves the flag set when the stack refuses, the handler ignores its
result, and `scanner_start` refuses while the flag is set: nothing calls `scanner_stop`
again (`scanning_for_good`). `cycles_iff` says in which runs no harm is done.
-/

namespace SensorNet.Hub

/-- `EALREADY` -/
def eALREADY : Int := 120

/-- The functions that are handed to the scanner: that of `main.c`. -/
inductive ScanCallback where
  | scanCallback
  deriving DecidableEq, Repr

/-- `hub_state_t` -/
inductive HubStateT where
  | init
  | scanning
  | idle
  deriving DecidableEq, Repr

/-- The calls of the stack and of the kernel in a cycle, with the results of the former -/
inductive ScanAction where
  | btLeScanStart (ret : Int)
  | btLeScanStop (ret : Int)
  | kSleep (seconds : Nat)
  | kWorkReschedule (seconds : Nat)
  deriving DecidableEq, Repr

/-- Static data of `scanner.c` and `main.c`, and the actions of the current cycle. -/
structure ScannerState where
  scanCb : Option ScanCallback := none
  scanning : Bool := false
  hubState : HubStateT := .init
  actions : List ScanAction := []
  deriving DecidableEq, Repr

/-- What the stack would return in a cycle -/
structure StackResults where
  btLeScanStart : Int
  btLeScanStop : Int
  deriving DecidableEq, Repr

namespace ScannerState

/-- One more action -/
def act (action : ScanAction) (s : ScannerState) : ScannerState :=
  { s with actions := s.actions ++ [action] }

/-- `scanner_start(callback)` -/
def scannerStart (stack : StackResults) (callback : Option ScanCallback) (s : ScannerState) :
    Int × ScannerState :=
  if s.scanning then (-eALREADY, s)
  else if callback = none then (-eINVAL, s)
  else
    let s := { s with scanCb := callback }
    let ret := stack.btLeScanStart
    let s := s.act (.btLeScanStart ret)
    if ret ≠ 0 then (ret, s) else (0, { s with scanning := true })

/-- `scanner_stop` -/
def scannerStop (stack : StackResults) (s : ScannerState) : Int × ScannerState :=
  if !s.scanning then (0, s)
  else
    let ret := stack.btLeScanStop
    let s := s.act (.btLeScanStop ret)
    if ret ≠ 0 then (ret, s) else (0, { s with scanning := false, scanCb := none })

/-- `scan_work_handler` -/
def scanWorkHandler (stack : StackResults) (s : ScannerState) : ScannerState :=
  let s := { s with hubState := .scanning, actions := [] }
  let (ret, s) := s.scannerStart stack (some .scanCallback)
  if ret < 0 then
    { s with hubState := .idle }.act (.kWorkReschedule 30)
  else
    let s := s.act (.kSleep 5)
    let (_, s) := s.scannerStop stack
    { s with hubState := .idle }.act (.kWorkReschedule 30)

/-! ## Cycles -/

/-- One cycle, with what the stack returns in it -/
def cycle : ScannerState → StackResults → Option ScannerState :=
  always fun s stack => s.scanWorkHandler stack

/-- The callback is set iff the scanner is scanning. -/
def Consistent (s : ScannerState) : Prop := s.scanCb ≠ none ↔ s.scanning = true

/-- What a cycle should do:
1. afterwards the callback is set iff the scanner is scanning;
2. a `scanner_start` that fails changes neither;
3. where the stack accepts both calls, the cycle starts to scan, scans for its five
   seconds, and stops. -/
structure CycleOk (s : ScannerState) (stack : StackResults) : Prop where
  consistent : (s.scanWorkHandler stack).Consistent
  failedStart : (s.scannerStart stack (some .scanCallback)).1 ≠ 0 →
    (s.scannerStart stack (some .scanCallback)).2.scanCb = s.scanCb ∧
      (s.scannerStart stack (some .scanCallback)).2.scanning = s.scanning
  accepted : stack.btLeScanStart = 0 → stack.btLeScanStop = 0 →
    (s.scannerStart stack (some .scanCallback)).1 = 0 ∧
      (s.scanWorkHandler stack).actions =
        [.btLeScanStart 0, .kSleep 5, .btLeScanStop 0, .kWorkReschedule 30] ∧
      (s.scanWorkHandler stack).scanning = false

/-- The stack starts a scan that the cycle asks for, and does not accept both calls in a
cycle that finds the scanner scanning. -/
def Harmless (s : ScannerState) (stack : StackResults) : Prop :=
  if s.scanning then ¬ (stack.btLeScanStart = 0 ∧ stack.btLeScanStop = 0)
  else stack.btLeScanStart = 0

/-! ## What a cycle can do -/

variable {s : ScannerState} {stack : StackResults}

/-- A cycle that finds the scanner scanning makes no call of the stack. -/
theorem scanWorkHandler_scanning (stack : StackResults) (h : s.scanning = true) :
    s.scannerStart stack (some .scanCallback) = (-eALREADY, s) ∧
      s.scanWorkHandler stack =
        { s with hubState := .idle, actions := [.kWorkReschedule 30] } := by
  have hstart : ∀ t : ScannerState, t.scanning = true →
      t.scannerStart stack (some .scanCallback) = (-eALREADY, t) := fun t ht => if_pos ht
  refine ⟨hstart s h, ?_⟩
  unfold scanWorkHandler
  dsimp only
  rw [hstart { s with hubState := .scanning, actions := [] } h]
  rfl

/-- A cycle in which the stack refuses to start: the callback stays. -/
theorem scanWorkHandler_refused (h : s.scanning = false) (hstart : stack.btLeScanStart ≠ 0) :
    (s.scannerStart stack (some .scanCallback)).1 = stack.btLeScanStart ∧
      (s.scannerStart stack (some .scanCallback)).2.scanCb = some .scanCallback ∧
      (s.scanWorkHandler stack).scanCb = some .scanCallback ∧
      (s.scanWorkHandler stack).scanning = false := by
  unfold scanWorkHandler scannerStart scannerStop
  simp only [h, hstart, ne_eq, not_false_eq_true, if_true, if_false, reduceCtorEq,
    Bool.false_eq_true, act]
  by_cases hneg : stack.btLeScanStart < 0
  · simp [hneg]
  · simp [hneg]

/-- A cycle that scans: it ends as the stack lets it. -/
theorem scanWorkHandler_started (h : s.scanning = false) (hstart : stack.btLeScanStart = 0) :
    (s.scannerStart stack (some .scanCallback)).1 = 0 ∧
      s.scanWorkHandler stack =
        { scanCb := if stack.btLeScanStop = 0 then none else some .scanCallback
          scanning := !decide (stack.btLeScanStop = 0)
          hubState := .idle
          actions := [.btLeScanStart 0, .kSleep 5, .btLeScanStop stack.btLeScanStop,
            .kWorkReschedule 30] } := by
  unfold scanWorkHandler scannerStart scannerStop
  by_cases hstop : stack.btLeScanStop = 0
  · simp [h, hstart, hstop, act]
  · simp [h, hstart, hstop, act]

/-- **A scanner that is found scanning is never stopped**, whatever the stack would do. -/
theorem scanning_for_good {t : ScannerState} {results : List StackResults}
    (h : s.scanning = true) (hrun : run cycle s results = some t) :
    t.scanning = true := by
  refine run_inv (P := fun s => s.scanning = true) h (fun s stack t hs hstep => ?_) hrun
  cases hstep
  show (s.scanWorkHandler stack).scanning = true
  rw [(scanWorkHandler_scanning stack hs).2]
  exact hs

theorem cycleOk_iff (h : s.Consistent) : CycleOk s stack ↔ Harmless s stack := by
  unfold Harmless
  cases hscanning : s.scanning with
  | true =>
    -- the last scan was never stopped: the cycle does nothing
    obtain ⟨hret, hcycle⟩ := scanWorkHandler_scanning stack hscanning
    rw [if_pos rfl]
    constructor
    · rintro hok ⟨hstart, hstop⟩
      have hzero := (hok.accepted hstart hstop).1
      rw [hret] at hzero
      cases hzero
    · intro hnot
      refine ⟨?_, fun _ => ?_, fun hstart hstop => absurd ⟨hstart, hstop⟩ hnot⟩
      · rw [hcycle]
        exact h
      · rw [hret]
        exact ⟨rfl, rfl⟩
  | false =>
    rw [if_neg Bool.false_ne_true]
    constructor
    · intro hok
      by_contra hstart
      obtain ⟨-, -, hcb, hscan⟩ := scanWorkHandler_refused hscanning hstart
      -- the callback stays registered though no scan is running
      have hfalse := hok.consistent.mp (by rw [hcb]; nofun)
      rw [hscan] at hfalse
      cases hfalse
    · intro hstart
      obtain ⟨hret, hcycle⟩ := scanWorkHandler_started hscanning hstart
      refine ⟨?_, fun hne => absurd hret hne, fun _ hstop => ?_⟩
      · rw [hcycle]
        by_cases hstop : stack.btLeScanStop = 0 <;> simp [Consistent, hstop]
      · rw [hcycle, hstop]
        exact ⟨hret, rfl, rfl⟩

/-- **All cycles of a run are as they should be iff each is harmless.** -/
theorem cycles_iff (results : List StackResults) :
    Along cycle CycleOk {} results ↔ Along cycle Harmless {} results := by
  refine along_iff_along (J := Consistent) (by simp [Consistent])
    (fun s stack hs => cycleOk_iff hs) ?_
  rintro s stack _ hs hharmless hstep
  cases hstep
  exact ((cycleOk_iff hs).mpr hharmless).consistent

/-- A stop that fails, and a cycle in which the stack would do all that it is asked for -/
def failedStop : List StackResults := [⟨0, -5⟩, ⟨0, 0⟩]

/-- After the failed stop the next cycle does not scan. -/
theorem failedStop_not_recovered :
    ¬ ∀ results : List StackResults, Along cycle CycleOk {} results := by
  intro h
  have hsecond := (along_cons.mp (h failedStop)).2 _ rfl
  have hzero := ((along_cons.mp hsecond).1.accepted rfl rfl).1
  cases hzero

/-- A refused start leaves the callback set. -/
example : (run cycle {} [⟨-5, 0⟩]).map (fun s => (s.scanCb, s.scanning)) =
    some (some .scanCallback, false) := rfl

end ScannerState

end SensorNet.Hub
