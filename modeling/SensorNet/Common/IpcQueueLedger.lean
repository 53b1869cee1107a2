import SensorNet.Common.IpcMessageQueue
import Mathlib.Data.List.Forall2
import Mathlib.Data.List.Induction
import Mathlib.Data.List.Count

/-!
# What becomes of the queued messages

Messages may be equal, so each accepted one gets a ticket: the number of messages
accepted before it. The ledger of a run observes the calls and their results and
books every ticket (`Ledger.step`); `Accounted` is what its books show after any
run:

1. the queue holds the messages with the queued tickets, oldest first;
2. every ticket is in one place: queued, returned by one `dequeue`, dropped by the
   `requeue` that was the third to select it, or discarded by `clear`.

`queue_accounting` collects this with what the next call does.

`never_redelivered`: a message returned by `dequeue` is out of the queue for good,
so `requeue` has nothing to retry when its delivery failed.
-/

namespace SensorNet.Common

variable {Payload : Type}

/-- The books of a run:
- `queue`: the queue of the code;
- `accepted`: the messages for which `enqueue` returned `true`, by ticket;
- `delivered`: the messages that `dequeue` returned;
- `queued`, `returned`, `dropped`, `cleared`: the tickets by place, those in the
  queue oldest first, the others in the order of the calls;
- `selected`: the tickets of the items that `requeue` found, call by call. -/
structure Ledger (Payload : Type) where
  queue : IPCMessageQueue Payload := .fresh
  accepted : List (IPCMessage Payload) := []
  delivered : List (IPCMessage Payload) := []
  queued : List Nat := []
  returned : List Nat := []
  dropped : List Nat := []
  cleared : List Nat := []
  selected : List Nat := []

namespace Ledger

/-- Book one call, by what it returns. -/
def step (l : Ledger Payload) (call : QueueCall Payload) : Ledger Payload :=
  let l' := { l with queue := call.op l.queue }
  match call with
  | .enqueue message =>
    if (l.queue.enqueue message).1 then
      { l' with
        accepted := l.accepted ++ [message]
        queued := l.queued ++ [l.accepted.length] }
    else l'
  | .dequeue =>
    match l.queue.dequeue.1 with
    | none => l'
    | some message =>
      { l' with
        delivered := l.delivered ++ [message]
        queued := l.queued.drop 1
        returned := l.returned ++ l.queued.take 1 }
  | .requeue correlationId =>
    match l.queue.findIndex correlationId with
    | none => l'
    | some index =>
      let ticket := l.queued[index.val]?.toList
      if (l.queue.requeue correlationId).1 then
        { l' with selected := l.selected ++ ticket }
      else
        { l' with
          selected := l.selected ++ ticket
          queued := l.queued.eraseIdx index
          dropped := l.dropped ++ ticket }
  | .clear => { l' with queued := [], cleared := l.cleared ++ l.queued }

/-- The books after a run. -/
def after (calls : List (QueueCall Payload)) : Ledger Payload :=
  calls.foldl step {}

theorem after_snoc (calls : List (QueueCall Payload)) (call : QueueCall Payload) :
    after (calls ++ [call]) = (after calls).step call := by
  unfold after
  rw [List.foldl_append]
  rfl

theorem queue_step (l : Ledger Payload) (call : QueueCall Payload) :
    (l.step call).queue = call.op l.queue := by
  unfold step
  cases call <;> dsimp only <;> repeat' split
  all_goals rfl

/-- The ledger observes the queue of the code. -/
theorem queue_after (calls : List (QueueCall Payload)) :
    (after calls).queue = IPCMessageQueue.after calls := by
  induction calls using List.reverseRecOn with
  | nil => rfl
  | append_singleton calls call ih =>
    rw [after_snoc, queue_step, ih, IPCMessageQueue.after, IPCMessageQueue.after,
      List.foldl_append]
    rfl

/-- The item holds the message with this ticket, and its retries are counted right. -/
def Holds (l : Ledger Payload) (ticket : Nat) (item : QueueItem Payload) : Prop :=
  l.accepted[ticket]? = some item.message ∧ item.retries = l.selected.count ticket

/-- Changes that do not touch the queued tickets keep the items. -/
theorem items_of_agree {l : Ledger Payload} (l' : Ledger Payload) {ts : List Nat}
    {items : List (QueueItem Payload)} (hitems : List.Forall₂ l.Holds ts items)
    (hagree : ∀ t ∈ ts, ∀ m, l.accepted[t]? = some m →
      l'.accepted[t]? = some m ∧ l'.selected.count t = l.selected.count t) :
    List.Forall₂ l'.Holds ts items := by
  have hboth := (List.forall₂_and_left ts items).mpr ⟨hagree, hitems⟩
  refine List.Forall₂.imp (fun t item ⟨hkeep, hmessage, hretries⟩ => ?_) hboth
  obtain ⟨hm, hcount⟩ := hkeep _ hmessage
  exact ⟨hm, by rw [hretries, hcount]⟩

end Ledger

/-- What the books show:
1. the queue is within its size;
2. its items are within their retries;
3. the queue holds the messages with the queued tickets, in order;
4. the oldest message comes first;
5. every accepted message is in exactly one place, once;
6. the messages delivered are those with the returned tickets;
7. the tickets dropped are those selected three times;
8. no ticket is selected more often;
9. only accepted messages were selected. -/
structure Accounted (l : Ledger Payload) : Prop where
  size : l.queue.size ≤ maxQueueSize
  retries : ∀ item ∈ l.queue.queue, item.retries < maxRetries
  items : List.Forall₂ l.Holds l.queued l.queue.queue
  order : l.queued.Pairwise (· < ·)
  places : ∀ ticket, l.queued.count ticket + l.returned.count ticket +
    l.dropped.count ticket + l.cleared.count ticket =
      if ticket < l.accepted.length then 1 else 0
  delivered : l.returned.map (l.accepted[·]?) = l.delivered.map some
  dropped : ∀ ticket, ticket ∈ l.dropped ↔ l.selected.count ticket = maxRetries
  selected : ∀ ticket, l.selected.count ticket ≤ maxRetries
  known : ∀ ticket ∈ l.selected, ticket < l.accepted.length

theorem accounted_fresh : Accounted ({} : Ledger Payload) where
  size := Nat.zero_le _
  retries := by simp [IPCMessageQueue.fresh]
  items := .nil
  order := .nil
  places := fun _ => rfl
  delivered := rfl
  dropped := by simp [maxRetries]
  selected := fun _ => Nat.zero_le _
  known := by simp

namespace Accounted

variable {l : Ledger Payload} (h : Accounted l)
include h

/-- Tickets in a place were handed out. -/
theorem lt_of_mem {t : Nat} (ht : t ∈ l.queued ∨ t ∈ l.returned) : t < l.accepted.length := by
  have hplace := h.places t
  have hpos : 0 < l.queued.count t ∨ 0 < l.returned.count t :=
    ht.imp List.count_pos_iff.mpr List.count_pos_iff.mpr
  by_contra hge
  rw [if_neg hge] at hplace
  omega

/-- The next ticket is new. -/
theorem count_new : l.selected.count l.accepted.length = 0 :=
  List.count_eq_zero.mpr fun hmem => absurd (h.known _ hmem) (Nat.lt_irrefl _)

theorem step_enqueue (message : IPCMessage Payload) :
    Accounted (l.step (.enqueue message)) := by
  by_cases hfull : l.queue.queue.length ≥ maxQueueSize
  · -- the queue is full: nothing is accepted
    have hrefused : l.queue.enqueue message = (false, l.queue) := if_pos hfull
    have hsame : l.step (.enqueue message) = l := by
      simp [Ledger.step, QueueCall.op, hrefused]
    rw [hsame]
    exact h
  · have haccepted : l.queue.enqueue message =
        (true, ⟨l.queue.queue ++ [⟨message, 0⟩]⟩) := if_neg hfull
    have hstep : l.step (.enqueue message) =
        { l with
          queue := ⟨l.queue.queue ++ [⟨message, 0⟩]⟩
          accepted := l.accepted ++ [message]
          queued := l.queued ++ [l.accepted.length] } := by
      simp [Ledger.step, QueueCall.op, haccepted]
    -- the tickets given out so far stand for the same messages
    have hkept : ∀ t, t ∈ l.queued ∨ t ∈ l.returned →
        (l.accepted ++ [message])[t]? = l.accepted[t]? :=
      fun t ht => List.getElem?_append_left (h.lt_of_mem ht)
    rw [hstep]
    refine { h with size := ?_, retries := ?_, items := ?_, order := ?_, places := ?_,
                    delivered := ?_, known := ?_ }
    · show (l.queue.queue ++ [_]).length ≤ maxQueueSize
      rw [List.length_append, List.length_singleton]
      omega
    · intro item hitem
      rcases List.mem_append.mp hitem with hold | hnew
      · exact h.retries item hold
      · cases List.mem_singleton.mp hnew
        exact Nat.zero_lt_succ _
    · have hold := Ledger.items_of_agree { l with accepted := l.accepted ++ [message] } h.items
        fun t ht m hm => ⟨by rw [hkept t (.inl ht)]; exact hm, rfl⟩
      refine List.rel_append hold (.cons ⟨?_, h.count_new.symm⟩ .nil)
      exact List.getElem?_concat_length
    · refine List.pairwise_append.mpr ⟨h.order, List.pairwise_singleton .., ?_⟩
      intro t ht u hu
      rw [List.mem_singleton.mp hu]
      exact h.lt_of_mem (.inl ht)
    · intro t
      have hplace := h.places t
      simp only [List.count_append, List.count_singleton, List.length_append,
        List.length_singleton]
      -- the new ticket is queued, and all others are where they were
      by_cases ht : l.accepted.length = t
      · subst ht
        simp at hplace ⊢
        omega
      · have hlt : t < l.accepted.length + 1 ↔ t < l.accepted.length := by omega
        simp only [hlt, beq_iff_eq, ht, if_false]
        omega
    · rw [← h.delivered]
      exact List.map_congr_left fun t ht => hkept t (.inr ht)
    · intro t ht
      rw [List.length_append]
      exact Nat.lt_add_right _ (h.known t ht)

theorem step_dequeue : Accounted (l.step .dequeue) := by
  have hitems := h.items
  cases hqueue : l.queue.queue with
  | nil =>
    -- an empty queue returns `null`
    have hempty : l.queue.dequeue = (none, l.queue) := by
      unfold IPCMessageQueue.dequeue
      rw [hqueue]
    have hsame : l.step .dequeue = l := by
      simp [Ledger.step, QueueCall.op, hempty]
    rw [hsame]
    exact h
  | cons item rest =>
    rw [hqueue] at hitems
    obtain ⟨t, ts, ⟨hmessage, hretries⟩, hrest, hqueued⟩ := List.forall₂_cons_right_iff.mp hitems
    have hhead : l.queue.dequeue = (some item.message, ⟨rest⟩) := by
      unfold IPCMessageQueue.dequeue
      rw [hqueue]
    have hstep : l.step .dequeue =
        { l with
          queue := ⟨rest⟩
          delivered := l.delivered ++ [item.message]
          queued := ts
          returned := l.returned ++ [t] } := by
      simp [Ledger.step, QueueCall.op, hhead, hqueued]
    have hsize := h.size
    have horder := h.order
    rw [IPCMessageQueue.size, hqueue, List.length_cons] at hsize
    rw [hqueued] at horder
    rw [hstep]
    refine { h with size := ?_, retries := ?_, items := hrest,
                    order := (List.pairwise_cons.mp horder).2, places := ?_, delivered := ?_ }
    · exact Nat.le_of_succ_le hsize
    · intro other hother
      exact h.retries other (by rw [hqueue]; exact List.mem_cons_of_mem _ hother)
    · intro u
      have hplace := h.places u
      -- the first ticket moves from the queue to those returned
      rw [hqueued, List.count_cons] at hplace
      simp only [List.count_append, List.count_singleton]
      omega
    · rw [List.map_append, h.delivered, List.map_append]
      show _ ++ [l.accepted[t]?] = _
      rw [hmessage]
      rfl

end Accounted

/-! ## A call of `requeue` that finds an item -/

/-- The ticket `t` is that of the item at `index`, with `pre` and `post` around it. -/
structure TicketAt (l : Ledger Payload) (index : Fin l.queue.queue.length) (t : Nat)
    (pre post : List Nat) : Prop where
  queued : l.queued = pre ++ t :: post
  length : pre.length = index.val
  holds : l.Holds t l.queue.queue[index]
  before : List.Forall₂ l.Holds pre (l.queue.queue.take index)
  after : List.Forall₂ l.Holds post (l.queue.queue.drop (index + 1))

theorem Accounted.ticketAt {l : Ledger Payload} (h : Accounted l)
    (index : Fin l.queue.queue.length) : ∃ t pre post, TicketAt l index t pre post := by
  have hitems := h.items
  rw [IPCMessageQueue.split_at l.queue.queue index] at hitems
  have hpre := List.forall₂_take_append _ _ _ hitems
  have hrest := List.forall₂_drop_append _ _ _ hitems
  obtain ⟨t, post, ht, hpost, hdrop⟩ := List.forall₂_cons_right_iff.mp hrest
  refine ⟨t, _, post, ?_, ?_, ht, hpre, hpost⟩
  · rw [← hdrop, List.take_append_drop]
  · rw [hpre.length_eq, List.length_take]
    omega

namespace TicketAt

variable {l : Ledger Payload} {index : Fin l.queue.queue.length} {t : Nat} {pre post : List Nat}
  (ht : TicketAt l index t pre post)
include ht

theorem getElem? : l.queued[index.val]? = some t := by
  rw [ht.queued, ← ht.length, List.getElem?_append_right (Nat.le_refl _), Nat.sub_self]
  rfl

theorem eraseIdx : l.queued.eraseIdx index = pre ++ post := by
  rw [ht.queued, ← ht.length, List.eraseIdx_append_of_length_le (Nat.le_refl _), Nat.sub_self]
  rfl

theorem mem : t ∈ l.queued := by
  rw [ht.queued]
  exact List.mem_append_right _ List.mem_cons_self

/-- The other tickets in the queue are different. -/
theorem ne (h : Accounted l) : ∀ u, u ∈ pre ∨ u ∈ post → t ≠ u := by
  have horder := h.order
  rw [ht.queued] at horder
  obtain ⟨-, hafter, hbefore⟩ := List.pairwise_append.mp horder
  rintro u (hu | hu)
  · exact (Nat.ne_of_lt (hbefore u hu t List.mem_cons_self)).symm
  · exact Nat.ne_of_lt ((List.pairwise_cons.mp hafter).1 u hu)

end TicketAt

/-- Every selection is counted for its ticket only. -/
theorem count_select (selected : List Nat) (t u : Nat) :
    (selected ++ [t]).count u = selected.count u + if t = u then 1 else 0 := by
  rw [List.count_append, List.count_singleton]
  simp only [beq_iff_eq]

/-- Selecting a ticket keeps the items with other tickets. -/
theorem items_select {l : Ledger Payload} {t : Nat} {ts : List Nat}
    {items : List (QueueItem Payload)} (hne : ∀ u ∈ ts, t ≠ u)
    (hitems : List.Forall₂ l.Holds ts items) :
    List.Forall₂ ({ l with selected := l.selected ++ [t] } : Ledger Payload).Holds ts items :=
  Ledger.items_of_agree _ hitems fun u hu _ hm =>
    ⟨hm, by rw [count_select, if_neg (hne u hu), Nat.add_zero]⟩

namespace Accounted

variable {l : Ledger Payload} (h : Accounted l) {index : Fin l.queue.queue.length} {t : Nat}
  {pre post : List Nat} (ht : TicketAt l index t pre post)
include h ht

theorem selected_lt : l.selected.count t < maxRetries := by
  rw [← ht.holds.2]
  exact h.retries _ (List.getElem_mem index.isLt)

theorem selected_select (u : Nat) : (l.selected ++ [t]).count u ≤ maxRetries := by
  rw [count_select]
  have hlt := h.selected_lt ht
  have hle := h.selected u
  by_cases hu : t = u
  · subst hu
    rw [if_pos rfl]
    omega
  · rw [if_neg hu]
    omega

theorem known_select (u : Nat) (hu : u ∈ l.selected ++ [t]) : u < l.accepted.length := by
  rcases List.mem_append.mp hu with hold | hnew
  · exact h.known u hold
  · rw [List.mem_singleton.mp hnew]
    exact h.lt_of_mem (.inl ht.mem)

/-- The third selection drops the item. -/
theorem step_drop {c : String} (hfound : l.queue.findIndex c = some index)
    (hlast : l.queue.queue[index].retries + 1 ≥ maxRetries) :
    Accounted (l.step (.requeue c)) := by
  have hdropped : l.queue.requeue c = (false, ⟨l.queue.queue.eraseIdx index⟩) := by
    unfold IPCMessageQueue.requeue
    rw [hfound]
    exact if_pos hlast
  have hstep : l.step (.requeue c) =
      { l with
        queue := ⟨l.queue.queue.eraseIdx index⟩
        selected := l.selected ++ [t]
        queued := pre ++ post
        dropped := l.dropped ++ [t] } := by
    simp only [Ledger.step, QueueCall.op, hdropped, hfound, ht.getElem?, ht.eraseIdx]
    rfl
  have hne := ht.ne h
  rw [hstep]
  refine { h with size := ?_, retries := ?_, items := ?_, order := ?_, places := ?_,
                  dropped := ?_, selected := h.selected_select ht, known := h.known_select ht }
  · exact Nat.le_trans (List.length_eraseIdx_le ..) h.size
  · exact fun item hitem => h.retries item (List.mem_of_mem_eraseIdx hitem)
  · -- around the item that is dropped, the selections are as before
    show List.Forall₂ _ (pre ++ post) (l.queue.queue.eraseIdx index)
    rw [List.eraseIdx_eq_take_drop_succ]
    exact List.rel_append (items_select (fun u hu => hne u (.inl hu)) ht.before)
      (items_select (fun u hu => hne u (.inr hu)) ht.after)
  · have horder := h.order
    rw [ht.queued] at horder
    exact horder.sublist (List.Sublist.append_left (List.sublist_cons_self t post) pre)
  · intro u
    have hplace := h.places u
    -- its ticket moves from the queue to those dropped
    rw [ht.queued] at hplace
    simp only [List.count_append, List.count_cons, List.count_nil] at hplace ⊢
    omega
  · intro u
    rw [count_select, List.mem_append, List.mem_singleton, h.dropped u]
    by_cases hu : t = u
    · subst hu
      have hlt := h.selected_lt ht
      have hcount := ht.holds.2
      simp only [if_true, or_true, true_iff]
      omega
    · simp only [hu, Ne.symm hu, if_false, or_false, Nat.add_zero]

/-- An earlier selection keeps it. -/
theorem step_retry {c : String} (hfound : l.queue.findIndex c = some index)
    (hmore : ¬ l.queue.queue[index].retries + 1 ≥ maxRetries) :
    Accounted (l.step (.requeue c)) := by
  have hretried : l.queue.requeue c =
      (true, ⟨l.queue.queue.set index
        { l.queue.queue[index] with retries := l.queue.queue[index].retries + 1 }⟩) := by
    unfold IPCMessageQueue.requeue
    rw [hfound]
    exact if_neg hmore
  have hstep : l.step (.requeue c) =
      { l with
        queue := ⟨l.queue.queue.set index
          { l.queue.queue[index] with retries := l.queue.queue[index].retries + 1 }⟩
        selected := l.selected ++ [t] } := by
    simp only [Ledger.step, QueueCall.op, hretried, hfound, ht.getElem?]
    rfl
  have hne := ht.ne h
  rw [hstep]
  refine { h with size := ?_, retries := ?_, items := ?_, dropped := ?_,
                  selected := h.selected_select ht, known := h.known_select ht }
  · show (l.queue.queue.set _ _).length ≤ maxQueueSize
    rw [List.length_set]
    exact h.size
  · intro item hitem
    rcases List.mem_or_eq_of_mem_set hitem with hold | rfl
    · exact h.retries item hold
    · exact Nat.lt_of_not_le hmore
  · show List.Forall₂ _ l.queued (l.queue.queue.set index _)
    rw [ht.queued, List.set_eq_take_append_cons_drop, if_pos index.isLt]
    -- only the item that is found counts one more retry
    refine List.rel_append (items_select (fun u hu => hne u (.inl hu)) ht.before)
      (.cons ⟨ht.holds.1, ?_⟩ (items_select (fun u hu => hne u (.inr hu)) ht.after))
    show _ = (l.selected ++ [t]).count t
    rw [count_select, if_pos rfl, ← ht.holds.2]
  · intro u
    rw [count_select, h.dropped u]
    by_cases hu : t = u
    · subst hu
      have hcount := ht.holds.2
      rw [if_pos rfl]
      omega
    · rw [if_neg hu, Nat.add_zero]

end Accounted

/-! ## Every call keeps the books -/

theorem accounted_requeue {l : Ledger Payload} (h : Accounted l) (c : String) :
    Accounted (l.step (.requeue c)) := by
  cases hfound : l.queue.findIndex c with
  | none =>
    have hmissed : l.queue.requeue c = (false, l.queue) := by
      unfold IPCMessageQueue.requeue
      rw [hfound]
    have hsame : l.step (.requeue c) = l := by
      simp [Ledger.step, QueueCall.op, hmissed, hfound]
    rw [hsame]
    exact h
  | some index =>
    obtain ⟨t, pre, post, ht⟩ := h.ticketAt index
    by_cases hlast : l.queue.queue[index].retries + 1 ≥ maxRetries
    · exact h.step_drop ht hfound hlast
    · exact h.step_retry ht hfound hlast

theorem accounted_clear {l : Ledger Payload} (h : Accounted l) :
    Accounted (l.step .clear) := by
  have hstep : l.step .clear =
      { l with queue := ⟨[]⟩, queued := [], cleared := l.cleared ++ l.queued } := rfl
  rw [hstep]
  refine { h with size := Nat.zero_le _, retries := by simp,
                  items := .nil, order := .nil, places := ?_ }
  intro t
  have hplace := h.places t
  simp only [List.count_append, List.count_nil]
  omega

/-- A step keeps the books. -/
theorem accounted_step {l : Ledger Payload} (h : Accounted l) (call : QueueCall Payload) :
    Accounted (l.step call) := by
  cases call with
  | enqueue message => exact h.step_enqueue message
  | dequeue => exact h.step_dequeue
  | requeue c => exact accounted_requeue h c
  | clear => exact accounted_clear h

/-- So does a run. -/
theorem accounted_after (calls : List (QueueCall Payload)) :
    Accounted (Ledger.after calls) := by
  induction calls using List.reverseRecOn with
  | nil => exact accounted_fresh
  | append_singleton calls call ih =>
    rw [Ledger.after_snoc]
    exact accounted_step ih call

/-- `dequeue` returns the message with the oldest ticket in the queue. -/
theorem dequeue_oldest {l : Ledger Payload} (h : Accounted l) :
    (l.queued = [] ∧ l.queue.dequeue = (none, l.queue)) ∨
    ∃ t ts message, l.queued = t :: ts ∧ (∀ u ∈ ts, t < u) ∧
      l.accepted[t]? = some message ∧ l.queue.dequeue.1 = some message := by
  have hitems := h.items
  have horder := h.order
  unfold IPCMessageQueue.dequeue
  cases hqueue : l.queue.queue with
  | nil =>
    rw [hqueue] at hitems
    exact .inl ⟨List.forall₂_nil_right_iff.mp hitems, rfl⟩
  | cons item rest =>
    rw [hqueue] at hitems
    obtain ⟨t, ts, ⟨hmessage, -⟩, -, hqueued⟩ := List.forall₂_cons_right_iff.mp hitems
    rw [hqueued] at horder
    exact .inr ⟨t, ts, _, hqueued, (List.pairwise_cons.mp horder).1, hmessage, rfl⟩

/-- **The queue loses and duplicates nothing**: after every run of calls on a fresh
queue the books of the run agree with the queue of the code and show that it is
within its bounds, in the order of enqueueing, and that every accepted message is in
exactly one place; and the next `dequeue` returns the oldest message, and the next
`requeue` touches the oldest message with the id only. -/
theorem queue_accounting (calls : List (QueueCall Payload)) :
    (Ledger.after calls).queue = IPCMessageQueue.after calls ∧
    Accounted (Ledger.after calls) ∧
    ((Ledger.after calls).queued = [] ∧
        (IPCMessageQueue.after calls).dequeue = (none, IPCMessageQueue.after calls) ∨
      ∃ t ts message, (Ledger.after calls).queued = t :: ts ∧ (∀ u ∈ ts, t < u) ∧
        (Ledger.after calls).accepted[t]? = some message ∧
        (IPCMessageQueue.after calls).dequeue.1 = some message) ∧
    ∀ c, TouchesOldest c (IPCMessageQueue.after calls).queue
      (((IPCMessageQueue.after calls).requeue c).1,
        ((IPCMessageQueue.after calls).requeue c).2.queue) := by
  have hbooks := accounted_after calls
  have holdest := dequeue_oldest hbooks
  rw [Ledger.queue_after] at holdest
  exact ⟨Ledger.queue_after calls, hbooks, holdest, fun c =>
    IPCMessageQueue.requeue_spec c _⟩

/-! ## Redelivery -/

/-- The promise of `requeue` for the message with ticket `t`, whose delivery failed for
the first or second time: it returns `true`, and the message is in the queue again. -/
def Redelivers (l : Ledger Payload) (t : Nat) (message : IPCMessage Payload) : Prop :=
  (l.queue.requeue message.correlationId).1 = true ∧
    t ∈ (l.step (.requeue message.correlationId)).queued

/-- `dequeue` returned the message, which has ticket `t`. -/
def HasReturned (l : Ledger Payload) (t : Nat) (message : IPCMessage Payload) : Prop :=
  t ∈ l.returned ∧ l.accepted[t]? = some message

/-- No queued message but that with ticket `t` carries the id. -/
def NoOther (l : Ledger Payload) (t : Nat) (correlationId : String) : Prop :=
  ∀ u ∈ l.queued, u ≠ t → ∀ other, l.accepted[u]? = some other →
    other.correlationId ≠ correlationId

/-- What `dequeue` returned stays booked as returned. -/
theorem returned_step {l : Ledger Payload} {t : Nat} (ht : t ∈ l.returned)
    (call : QueueCall Payload) : t ∈ (l.step call).returned := by
  unfold Ledger.step
  cases call with
  | enqueue message =>
    dsimp only
    split <;> exact ht
  | dequeue =>
    dsimp only
    split
    · exact ht
    · exact List.mem_append_left _ ht
  | requeue c =>
    dsimp only
    split
    · exact ht
    · split <;> exact ht
  | clear => exact ht

theorem returned_append {calls : List (QueueCall Payload)} {t : Nat}
    (ht : t ∈ (Ledger.after calls).returned) (more : List (QueueCall Payload)) :
    t ∈ (Ledger.after (calls ++ more)).returned := by
  induction more using List.reverseRecOn with
  | nil => rwa [List.append_nil]
  | append_singleton more call ih =>
    rw [← List.append_assoc, Ledger.after_snoc]
    exact returned_step ih call

/-- A returned message is not in the queue. -/
theorem not_queued_of_returned {l : Ledger Payload} (h : Accounted l) {t : Nat}
    (ht : t ∈ l.returned) : t ∉ l.queued := by
  intro hq
  have hplace := h.places t
  have hreturned : 0 < l.returned.count t := List.count_pos_iff.mpr ht
  have hqueued : 0 < l.queued.count t := List.count_pos_iff.mpr hq
  split at hplace <;> omega

/-- Every item of the queue has a queued ticket. -/
theorem exists_ticket {l : Ledger Payload} (h : Accounted l) {item : QueueItem Payload}
    (hitem : item ∈ l.queue.queue) : ∃ u ∈ l.queued, l.accepted[u]? = some item.message := by
  obtain ⟨i, hi, rfl⟩ := List.getElem_of_mem hitem
  obtain ⟨u, _, _, hu⟩ := h.ticketAt ⟨i, hi⟩
  exact ⟨u, hu.mem, hu.holds.1⟩

/-- **Nothing is redelivered**: take any run in which `dequeue` returned a message,
after which no other queued message carries its id. `requeue` with this id returns
`false` and changes nothing, and the message is never in the queue again. -/
theorem never_redelivered (calls : List (QueueCall Payload)) {t : Nat}
    {message : IPCMessage Payload} (hreturned : HasReturned (Ledger.after calls) t message)
    (hother : NoOther (Ledger.after calls) t message.correlationId) :
    ¬ Redelivers (Ledger.after calls) t message ∧
    (IPCMessageQueue.after calls).requeue message.correlationId =
      (false, IPCMessageQueue.after calls) ∧
    ∀ more, t ∉ (Ledger.after (calls ++ more)).queued := by
  have hbooks := accounted_after calls
  have hgone : ∀ more, t ∉ (Ledger.after (calls ++ more)).queued := fun more =>
    not_queued_of_returned (accounted_after _) (returned_append hreturned.1 more)
  have hnone : (Ledger.after calls).queue.findIndex message.correlationId = none := by
    refine IPCMessageQueue.findIndex_eq_none_iff.mpr fun item hitem => ?_
    obtain ⟨u, hu, hm⟩ := exists_ticket hbooks hitem
    -- an item with the id has another ticket than the one returned
    refine hother u hu (fun heq => ?_) _ hm
    exact not_queued_of_returned hbooks hreturned.1 (heq ▸ hu)
  have hrequeue : (Ledger.after calls).queue.requeue message.correlationId =
      (false, (Ledger.after calls).queue) := by
    unfold IPCMessageQueue.requeue
    rw [hnone]
  refine ⟨fun hredelivers => ?_, ?_, hgone⟩
  · have htrue := hredelivers.1
    rw [hrequeue] at htrue
    cases htrue
  · rw [Ledger.queue_after] at hrequeue
    exact hrequeue

/-- A heartbeat. -/
def heartbeat : IPCMessage Unit :=
  { version := "1.0.0", type := "heartbeat", correlationId := "a", timestamp := 0,
    payload := () }

/-- A heartbeat that was queued and sent. -/
def sentOnce : List (QueueCall Unit) := [.enqueue heartbeat, .dequeue]

theorem sentOnce_returned : HasReturned (Ledger.after sentOnce) 0 heartbeat :=
  ⟨List.mem_cons_self, rfl⟩

theorem sentOnce_noOther : NoOther (Ledger.after sentOnce) 0 heartbeat.correlationId :=
  fun _ hu => absurd hu List.not_mem_nil

theorem heartbeat_gone :
    ¬ Redelivers (Ledger.after sentOnce) 0 heartbeat ∧
    (IPCMessageQueue.after sentOnce).requeue heartbeat.correlationId =
      (false, IPCMessageQueue.after sentOnce) ∧
    ∀ more, 0 ∉ (Ledger.after (sentOnce ++ more)).queued :=
  never_redelivered sentOnce sentOnce_returned sentOnce_noOther

/-- The failed heartbeat is not redelivered. -/
theorem heartbeat_lost :
    ¬ ∀ (calls : List (QueueCall Unit)) (t : Nat) (message : IPCMessage Unit),
      HasReturned (Ledger.after calls) t message →
      NoOther (Ledger.after calls) t message.correlationId →
      Redelivers (Ledger.after calls) t message := by
  intro hall
  have hfalse : (IPCMessageQueue.requeue "a" ⟨([] : List (QueueItem Unit))⟩).1 = false := rfl
  have htrue := (hall sentOnce 0 heartbeat sentOnce_returned sentOnce_noOther).1
  cases htrue.symm.trans hfalse

end SensorNet.Common
