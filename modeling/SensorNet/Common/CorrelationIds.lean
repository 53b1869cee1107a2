import SensorNet.Common.IpcMessageQueue
import Mathlib.Data.List.Induction
import Mathlib.Data.List.Nodup

/-!
# Correlation ids (`common/protocol/ipc-protocol.ts`, `createIPCMessage`)

A message that is created without a correlation id gets one made of the time and of some random
characters. Two such ids are the same iff the times and the characters are
(`correlationId_eq_iff`): the decimal digits of the time end at the first `-`. An id that the
caller gives is taken as it is, unless it is empty.

`requeue` goes by the id. So where no two messages were created in one millisecond with the same
characters, and no given id is that of another message, it retries the message it is meant for
and no other one (`requeue_own`), whatever has been done with the queue before.

The times and the random characters come from the environment.
-/

namespace SensorNet.Common

variable {Payload : Type}

/-- `generateCorrelationId`, at the time `now` in milliseconds, where
`Math.random().toString(36).substring(2, 9)` is `random` -/
def generateCorrelationId (now : Nat) (random : String) : String :=
  now.repr ++ "-" ++ random

/-- What `createIPCMessage` gets from the environment: the time and the random characters for an
id, and the time for the message -/
structure Clock where
  idTime : Nat
  random : String
  timestamp : Nat
  deriving DecidableEq, Repr

/-- Where the id of a message comes from: its creator gave it, or it was generated. -/
inductive IdSource where
  | given (correlationId : String)
  | generated (time : Nat) (random : String)

namespace IdSource

/-- The id -/
def id : IdSource → String
  | given correlationId => correlationId
  | generated time random => generateCorrelationId time random

/-- `correlationId || generateCorrelationId()`: an empty id counts as none. -/
def choose (clock : Clock) : Option String → IdSource
  | some correlationId =>
    if correlationId = "" then generated clock.idTime clock.random else given correlationId
  | none => generated clock.idTime clock.random

/-- Two messages get one id: they were created in one millisecond with the same characters, or
one was given the id of the other. -/
def Clash : IdSource → IdSource → Prop
  | generated time random, generated time' random' => time = time' ∧ random = random'
  | given correlationId, source => correlationId = source.id
  | source, given correlationId => source.id = correlationId

instance : DecidableRel Clash
  | generated _ _, generated _ _ => inferInstanceAs (Decidable (_ ∧ _))
  | generated _ _, given _ => inferInstanceAs (Decidable (_ = _))
  | given _, generated _ _ => inferInstanceAs (Decidable (_ = _))
  | given _, given _ => inferInstanceAs (Decidable (_ = _))

end IdSource

/-- `createIPCMessage` -/
def createIPCMessage (clock : Clock) (type : String) (payload : Payload)
    (correlationId : Option String) : IPCMessage Payload where
  version := "1.0.0"
  type := type
  correlationId := (IdSource.choose clock correlationId).id
  timestamp := clock.timestamp
  payload := payload

/-! ## Ids are told apart -/

/-- A time is written in digits. -/
theorem separator_not_mem_repr (now : Nat) : '-' ∉ now.repr.toList := by
  rw [Nat.toList_repr]
  intro hmem
  have hdigit := Nat.isDigit_of_mem_toDigits (by omega) (by omega) hmem
  exact absurd hdigit (by decide)

/-- What is before the first separator -/
theorem takeWhile_separator {l r : List Char} (h : '-' ∉ l) :
    (l ++ '-' :: r).takeWhile (· ≠ '-') = l := by
  rw [List.takeWhile_append_of_pos]
  · simp
  · intro c hc
    exact decide_eq_true fun heq => h (heq ▸ hc)

/-- Generated ids are the same iff the times and the random characters are. -/
theorem correlationId_eq_iff {now now' : Nat} {random random' : String} :
    generateCorrelationId now random = generateCorrelationId now' random' ↔
      now = now' ∧ random = random' := by
  constructor
  · intro h
    have hchars : now.repr.toList ++ '-' :: random.toList =
        now'.repr.toList ++ '-' :: random'.toList := by
      have htext := congrArg String.toList h
      simpa [generateCorrelationId] using htext
    have htime := congrArg (List.takeWhile (· ≠ '-')) hchars
    rw [takeWhile_separator (separator_not_mem_repr now),
      takeWhile_separator (separator_not_mem_repr now')] at htime
    rw [htime] at hchars
    rw [Nat.toList_repr, Nat.toList_repr] at htime
    refine ⟨?_, ?_⟩
    · have hvalue := congrArg (Nat.ofDigitChars 10 · 0) htime
      simpa only [Nat.ofDigitChars_ten_toDigits] using hvalue
    · exact String.toList_inj.mp (List.cons_injective (List.append_cancel_left hchars))
  · rintro ⟨rfl, rfl⟩
    rfl

/-- Messages have one id iff their sources clash. -/
theorem IdSource.id_eq_iff {source source' : IdSource} :
    source.id = source'.id ↔ source.Clash source' := by
  cases source with
  | given => cases source' <;> exact Iff.rfl
  | generated =>
    cases source' with
    | given => exact Iff.rfl
    | generated => exact correlationId_eq_iff

/-! ## The queue of the messages created -/

/-- What is done with the queue: a message is created and enqueued, or one of the other calls. -/
inductive SenderCall (Payload : Type) where
  | send (clock : Clock) (type : String) (payload : Payload) (correlationId : Option String)
  | dequeue
  | requeue (correlationId : String)
  | clear

namespace SenderCall

/-- The call of the queue -/
def queueCall : SenderCall Payload → QueueCall Payload
  | send clock type payload correlationId =>
    .enqueue (createIPCMessage clock type payload correlationId)
  | dequeue => .dequeue
  | requeue correlationId => .requeue correlationId
  | clear => .clear

/-- Where the id of the message that it creates comes from -/
def idSource : SenderCall Payload → Option IdSource
  | send clock _ _ correlationId => some (.choose clock correlationId)
  | _ => none

end SenderCall

/-- The queue after the calls -/
def sent (calls : List (SenderCall Payload)) : IPCMessageQueue Payload :=
  .after (calls.map SenderCall.queueCall)

/-- The ids of the messages in the queue -/
def IPCMessageQueue.ids (q : IPCMessageQueue Payload) : List String :=
  q.queue.map fun item => item.message.correlationId

/-- A call leaves the ids in their order, and adds that of what is enqueued at most. -/
theorem ids_op (call : QueueCall Payload) (q : IPCMessageQueue Payload) :
    (call.op q).ids.Sublist (q.ids ++ match call with
      | .enqueue message => [message.correlationId]
      | _ => []) := by
  cases call with
  | enqueue message =>
    unfold QueueCall.op IPCMessageQueue.enqueue IPCMessageQueue.ids
    dsimp only
    split
    · exact List.sublist_append_left _ _
    · rw [List.map_append]
      exact List.Sublist.refl _
  | dequeue =>
    rw [List.append_nil]
    unfold QueueCall.op IPCMessageQueue.dequeue IPCMessageQueue.ids
    dsimp only
    split
    · exact List.Sublist.refl _
    · next item rest hqueue =>
      rw [hqueue, List.map_cons]
      exact List.sublist_cons_self _ _
  | requeue c =>
    rw [List.append_nil]
    unfold QueueCall.op IPCMessageQueue.ids
    dsimp only
    -- a retry keeps the id of its item, and a drop removes one
    rcases IPCMessageQueue.requeue_spec c q with ⟨-, hsame⟩ | ⟨pre, item, post, hqueue, -, -, hdone⟩
    · rw [(Prod.mk.inj hsame).2]
    · rw [hqueue]
      rcases hdone with ⟨-, hretried⟩ | ⟨-, hdropped⟩
      · rw [(Prod.mk.inj hretried).2]
        simp
      · rw [(Prod.mk.inj hdropped).2]
        simp
  | clear => exact List.nil_sublist _

/-- The ids in the queue are, in their order, some of those of the messages created. -/
theorem ids_sent (calls : List (SenderCall Payload)) :
    (sent calls).ids.Sublist ((calls.filterMap SenderCall.idSource).map IdSource.id) := by
  induction calls using List.reverseRecOn with
  | nil => exact List.Sublist.refl _
  | append_singleton calls call ih =>
    have hlast : sent (calls ++ [call]) = call.queueCall.op (sent calls) := by
      simp [sent, IPCMessageQueue.after]
    rw [hlast, List.filterMap_append, List.map_append]
    refine (ids_op call.queueCall (sent calls)).trans ?_
    refine ih.append ?_
    cases call with
    | send clock type payload correlationId => exact List.Sublist.refl _
    | _ => exact List.nil_sublist _

/-- Where no two messages were created with one id, no two in the queue have one. -/
theorem ids_nodup {calls : List (SenderCall Payload)}
    (happart : (calls.filterMap SenderCall.idSource).Pairwise (¬ IdSource.Clash · ·)) :
    (sent calls).ids.Nodup := by
  refine (ids_sent calls).nodup (List.pairwise_map.mpr (happart.imp fun hclash heq => ?_))
  exact hclash (IdSource.id_eq_iff.mp heq)

/-- **Retries go to the right message**: after any calls, if no two messages were created in one
millisecond with the same random characters, or with the given id of one that of the other,
`requeue` with the id of a message in the queue counts a retry of this message, or removes it at
the third, and leaves all others as they are. -/
theorem requeue_own {calls : List (SenderCall Payload)}
    (happart : (calls.filterMap SenderCall.idSource).Pairwise (¬ IdSource.Clash · ·))
    {pre post : List (QueueItem Payload)} {item : QueueItem Payload}
    (hqueue : (sent calls).queue = pre ++ item :: post) :
    (((sent calls).requeue item.message.correlationId).1,
      ((sent calls).requeue item.message.correlationId).2.queue) =
      if item.retries + 1 < maxRetries then
        (true, pre ++ { item with retries := item.retries + 1 } :: post)
      else (false, pre ++ post) := by
  have hnodup := ids_nodup happart
  unfold IPCMessageQueue.ids at hnodup
  rw [hqueue, List.map_append, List.map_cons] at hnodup
  -- no other message in the queue has the id
  have hother : ∀ other, other ∈ pre ∨ other ∈ post →
      other.message.correlationId ≠ item.message.correlationId := by
    intro other hmem heq
    rw [List.nodup_append] at hnodup
    obtain ⟨-, hcons, hapart⟩ := hnodup
    rcases hmem with hmem | hmem
    · exact hapart _ (List.mem_map_of_mem hmem) _ List.mem_cons_self heq
    · exact (List.nodup_cons.mp hcons).1 (heq ▸ List.mem_map_of_mem hmem)
  rcases IPCMessageQueue.requeue_spec item.message.correlationId (sent calls) with
    ⟨hnone, -⟩ | ⟨pre', found, post', hfound, hcarries, -, hdone⟩
  · exact absurd rfl (hnone item (by rw [hqueue]; simp))
  · -- what was found is the message itself
    have hsame : pre = pre' ∧ item = found ∧ post = post' := by
      rw [hqueue] at hfound
      exact (List.append_cons_inj_of_notMem (fun hmem => hother found (.inl hmem) hcarries)
        (fun hmem => hother found (.inr hmem) hcarries)).mp hfound
    obtain ⟨rfl, rfl, rfl⟩ := hsame
    rcases hdone with ⟨hmore, hretried⟩ | ⟨hlast, hdropped⟩
    · rw [hretried, if_pos hmore]
    · rw [hdropped, if_neg (by omega)]

/-- Two messages of one millisecond, and one with an id given -/
def threeSent : List (SenderCall Unit) :=
  [.send ⟨7, "k3f9a2b", 7⟩ "heartbeat" () none, .send ⟨7, "0zq81xw", 8⟩ "heartbeat" () (some ""),
    .send ⟨7, "k3f9a2b", 9⟩ "heartbeat" () (some "7")]

/-- The second one is retried. -/
theorem second_retried :
    ∃ first second third, (sent threeSent).queue = [first, second, third] ∧
      (((sent threeSent).requeue second.message.correlationId).1,
        ((sent threeSent).requeue second.message.correlationId).2.queue) =
          (true, [first, { second with retries := 1 }, third]) :=
  ⟨_, _, _, rfl, requeue_own (by decide)
    (show (sent threeSent).queue = [_] ++ _ :: [_] from rfl)⟩

end SensorNet.Common
