import Mathlib.Data.List.Basic

/-!
# The message queue (`common/protocol/ipc-protocol.ts`, `IPCMessageQueue`)

The queue between the hub's two processors: at most `maxQueueSize` items, each a
message and the number of its retries. `requeue` counts a retry of the oldest
item with the given correlation id, and removes it at the third.

- `TouchesOldest` is what `requeue` does, read off the code once (`requeue_spec`).
- `IPCMessageQueue.after`: the queue after a run of calls.
-/

namespace SensorNet.Common

/-- `IPCMessage`, with payloads of any type. -/
structure IPCMessage (Payload : Type) where
  version : String
  type : String
  correlationId : String
  timestamp : Int
  payload : Payload
deriving DecidableEq

/-- An element of the array `queue`. -/
structure QueueItem (Payload : Type) where
  message : IPCMessage Payload
  retries : Nat
deriving DecidableEq

/-- `IPCMessageQueue` -/
structure IPCMessageQueue (Payload : Type) where
  queue : List (QueueItem Payload)
deriving DecidableEq

/-- `maxRetries` -/
def maxRetries : Nat := 3

/-- `maxQueueSize` -/
def maxQueueSize : Nat := 100

variable {Payload : Type}

namespace IPCMessageQueue

/-- `new IPCMessageQueue()` -/
def fresh : IPCMessageQueue Payload := ⟨[]⟩

/-- `enqueue` -/
def enqueue (message : IPCMessage Payload) (q : IPCMessageQueue Payload) :
    Bool × IPCMessageQueue Payload :=
  if q.queue.length ≥ maxQueueSize then (false, q)
  else (true, ⟨q.queue ++ [⟨message, 0⟩]⟩)

/-- `dequeue` -/
def dequeue (q : IPCMessageQueue Payload) :
    Option (IPCMessage Payload) × IPCMessageQueue Payload :=
  match q.queue with
  | [] => (none, q)
  | item :: rest => (some item.message, ⟨rest⟩)

/-- The call of `findIndex` in `requeue`. -/
def findIndex (correlationId : String) (q : IPCMessageQueue Payload) :
    Option (Fin q.queue.length) :=
  q.queue.findFinIdx? fun item => item.message.correlationId = correlationId

/-- `requeue` -/
def requeue (correlationId : String) (q : IPCMessageQueue Payload) :
    Bool × IPCMessageQueue Payload :=
  match q.findIndex correlationId with
  | none => (false, q)
  | some index =>
    let item := q.queue[index]
    let item := { item with retries := item.retries + 1 }
    if item.retries ≥ maxRetries then (false, ⟨q.queue.eraseIdx index⟩)
    else (true, ⟨q.queue.set index item⟩)

/-- `size` -/
def size (q : IPCMessageQueue Payload) : Nat := q.queue.length

/-- `clear` -/
def clear (_ : IPCMessageQueue Payload) : IPCMessageQueue Payload := ⟨[]⟩

end IPCMessageQueue

/-! ## What `requeue` does -/

/-- The item carries the correlation id. -/
def QueueItem.Carries (item : QueueItem Payload) (correlationId : String) : Prop :=
  item.message.correlationId = correlationId

instance (item : QueueItem Payload) (correlationId : String) :
    Decidable (item.Carries correlationId) :=
  inferInstanceAs (Decidable (_ = _))

/-- The oldest item with the id is retried, or removed at its third retry, and all
others stay as they are; where no item has the id, nothing changes. -/
def TouchesOldest (correlationId : String) (before : List (QueueItem Payload))
    (result : Bool × List (QueueItem Payload)) : Prop :=
  ((∀ item ∈ before, ¬ item.Carries correlationId) ∧ result = (false, before)) ∨
  ∃ pre item post, before = pre ++ item :: post ∧ item.Carries correlationId ∧
    (∀ other ∈ pre, ¬ other.Carries correlationId) ∧
    ((item.retries + 1 < maxRetries ∧
        result = (true, pre ++ { item with retries := item.retries + 1 } :: post)) ∨
      (maxRetries ≤ item.retries + 1 ∧ result = (false, pre ++ post)))

namespace IPCMessageQueue

theorem findIndex_eq_none_iff {c : String} {q : IPCMessageQueue Payload} :
    q.findIndex c = none ↔ ∀ item ∈ q.queue, ¬ item.Carries c := by
  unfold findIndex QueueItem.Carries
  simp

/-- The index found splits the array at the oldest item with the id. -/
theorem findIndex_eq_some {c : String} {q : IPCMessageQueue Payload}
    {index : Fin q.queue.length} (h : q.findIndex c = some index) :
    q.queue[index].Carries c ∧ ∀ other ∈ q.queue.take index, ¬ other.Carries c := by
  obtain ⟨hitem, hbefore⟩ := List.findFinIdx?_eq_some_iff.mp h
  refine ⟨of_decide_eq_true hitem, fun other hother => ?_⟩
  obtain ⟨j, hj, rfl⟩ := List.mem_take_iff_getElem.mp hother
  have hlt : j < index.val := by omega
  exact fun hc => hbefore ⟨j, by omega⟩ hlt (decide_eq_true hc)

theorem split_at (l : List (QueueItem Payload)) (i : Fin l.length) :
    l = l.take i ++ l[i] :: l.drop (i + 1) := by
  show l = l.take i.val ++ l[i.val] :: l.drop (i.val + 1)
  rw [← List.drop_eq_getElem_cons i.isLt, List.take_append_drop]

/-- **`requeue` touches the oldest item with the id only.** -/
theorem requeue_spec (c : String) (q : IPCMessageQueue Payload) :
    TouchesOldest c q.queue ((q.requeue c).1, (q.requeue c).2.queue) := by
  unfold requeue
  cases h : q.findIndex c with
  | none => exact .inl ⟨findIndex_eq_none_iff.mp h, rfl⟩
  | some index =>
    obtain ⟨hitem, hbefore⟩ := findIndex_eq_some h
    refine .inr ⟨_, _, _, split_at q.queue index, hitem, hbefore, ?_⟩
    dsimp only
    split
    next hlast => exact .inr ⟨hlast, by rw [List.eraseIdx_eq_take_drop_succ]⟩
    next hmore =>
      refine .inl ⟨Nat.lt_of_not_le hmore, ?_⟩
      rw [List.set_eq_take_append_cons_drop, if_pos index.isLt]

end IPCMessageQueue

/-! ## Runs -/

/-- A call of one of the operations. -/
inductive QueueCall (Payload : Type) where
  | enqueue (message : IPCMessage Payload)
  | dequeue
  | requeue (correlationId : String)
  | clear

/-- What the call does to the queue. -/
def QueueCall.op : QueueCall Payload → IPCMessageQueue Payload → IPCMessageQueue Payload
  | .enqueue message, q => (q.enqueue message).2
  | .dequeue, q => q.dequeue.2
  | .requeue correlationId, q => (q.requeue correlationId).2
  | .clear, q => q.clear

/-- The queue after a run of calls on a fresh one. -/
def IPCMessageQueue.after (calls : List (QueueCall Payload)) : IPCMessageQueue Payload :=
  calls.foldl (fun q call => call.op q) .fresh

end SensorNet.Common
