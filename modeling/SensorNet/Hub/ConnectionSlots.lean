import SensorNet.Hub.ConnectionManager
import SensorNet.Lib.Run
import Mathlib.Data.List.Count

/-!
# The slots of the connection manager

The system: any number of `connection_manager_connect` calls, each split at its
three steps, interleaved with `connected` and `disconnected` callbacks. Of the
stack we assume what Zephyr documents: a connection that fails to establish gets
`connected(err ≠ 0)` and no `disconnected`; an established one gets at most one
`disconnected`; a connection object still referenced is not handed out again (so
each successful `bt_conn_le_create` is a new `BtConn`).

The abstract view of a slot is its `Role`: free, held by a call between its
steps, holding the connection of a call that has not stored it yet, or storing a
connection. `SlotInv` says the table is exactly what the roles say; it holds at boot
(`slotInv_boot`) and every step keeps it (`slotInv_step`).
-/

namespace SensorNet.Hub

open Fw

/-- Where a `connection_manager_connect` call is between its steps. -/
inductive ConnectCall where
  | idle
  | reserved (slot : Fin maxConnections)
  | created (slot : Fin maxConnections) (conn : BtConn)
  | failing (slot : Fin maxConnections)
  deriving DecidableEq, Repr

/-- What became of a connection after `bt_conn_le_create`. -/
inductive Link where
  | pending
  | established
  | failed
  | disconnected
  deriving DecidableEq, Repr

/-- Neither failed to establish nor disconnected. -/
def Link.live : Link → Bool
  | pending | established => true
  | failed | disconnected => false

/-- The connection manager with its callers and the stack. -/
structure ConnSystem where
  mgr : ConnectionManager
  calls : Nat → ConnectCall
  born : List BtConn
  link : BtConn → Link

/-- Steps of callers and the stack. -/
inductive ConnEvent where
  | reserve (t : Nat)
  | create (t : Nat) (result : Except Int BtConn)
  | finish (t : Nat)
  | connected (conn : BtConn) (err : UInt8)
  | disconnected (conn : BtConn) (reason : UInt8)

/-- One step; `none` when the event cannot happen in this state. -/
def connStep (s : ConnSystem) : ConnEvent → Option ConnSystem
  | .reserve t =>
    if s.calls t = .idle then
      let r := exec reserveSlot s.mgr
      some { s with
        mgr := r.2
        calls := Function.update s.calls t (r.1.elim .idle .reserved) }
    else none
  | .create t result =>
    match s.calls t, result with
    | .reserved i, .error _ =>
      some { s with calls := Function.update s.calls t (.failing i) }
    | .reserved i, .ok c =>
      if c ∈ s.born then none
      else some { s with
        calls := Function.update s.calls t (.created i c)
        born := s.born ++ [c]
        link := Function.update s.link c .pending }
    | _, _ => none
  | .finish t =>
    match s.calls t with
    | .failing i =>
      some { s with
        mgr := (exec (releaseSlot i) s.mgr).2
        calls := Function.update s.calls t .idle }
    | .created i c =>
      some { s with
        mgr := (exec (storeConn i c) s.mgr).2
        calls := Function.update s.calls t .idle }
    | _ => none
  | .connected c err =>
    if c ∈ s.born ∧ s.link c = .pending then
      some { s with
        mgr := (exec (connectedCb c err) s.mgr).2
        link := Function.update s.link c (if err = 0 then .established else .failed) }
    else none
  | .disconnected c reason =>
    if c ∈ s.born ∧ s.link c = .established then
      some { s with
        mgr := (exec (disconnectedCb c reason) s.mgr).2
        link := Function.update s.link c .disconnected }
    else none

namespace ConnSystem

/-- After `connection_manager_init`, nothing under way. -/
def boot : ConnSystem :=
  ⟨(exec connectionManagerInit ⟨fun _ => {}, []⟩).2, fun _ => .idle, [],
    fun _ => .pending⟩

end ConnSystem

/-! ## What a step can do -/

/-- The effect of each event, by case: the inversion of `connStep`. -/
inductive ConnStep : ConnSystem → ConnEvent → ConnSystem → Prop where
  | reserve {s t i} : s.calls t = .idle → (s.mgr.connections i).inUse = false →
      ConnStep s (.reserve t)
        ⟨⟨Function.update s.mgr.connections i
            { s.mgr.connections i with inUse := true }, s.mgr.unrefs⟩,
          Function.update s.calls t (.reserved i), s.born, s.link⟩
  | full {s t} : ConnStep s (.reserve t) s
  | createError {s t i err} : s.calls t = .reserved i →
      ConnStep s (.create t (.error err))
        ⟨s.mgr, Function.update s.calls t (.failing i), s.born, s.link⟩
  | create {s t i c} : s.calls t = .reserved i → c ∉ s.born →
      ConnStep s (.create t (.ok c))
        ⟨s.mgr, Function.update s.calls t (.created i c), s.born ++ [c],
          Function.update s.link c .pending⟩
  | release {s t i} : s.calls t = .failing i →
      ConnStep s (.finish t)
        ⟨⟨Function.update s.mgr.connections i
            { s.mgr.connections i with inUse := false }, s.mgr.unrefs⟩,
          Function.update s.calls t .idle, s.born, s.link⟩
  | store {s t i c} : s.calls t = .created i c →
      ConnStep s (.finish t)
        ⟨⟨Function.update s.mgr.connections i
            { s.mgr.connections i with conn := some c }, s.mgr.unrefs⟩,
          Function.update s.calls t .idle, s.born, s.link⟩
  | connected {s c err} : c ∈ s.born → s.link c = .pending →
      ConnStep s (.connected c err)
        ⟨s.mgr, s.calls, s.born,
          Function.update s.link c (if err = 0 then .established else .failed)⟩
  | disconnected {s c reason i} : c ∈ s.born → s.link c = .established →
      (s.mgr.connections i).conn = some c →
      ConnStep s (.disconnected c reason)
        ⟨⟨Function.update s.mgr.connections i {}, s.mgr.unrefs ++ [c]⟩, s.calls,
          s.born, Function.update s.link c .disconnected⟩
  | lost {s c reason} : c ∈ s.born → s.link c = .established →
      (∀ i, (s.mgr.connections i).conn ≠ some c) →
      ConnStep s (.disconnected c reason)
        ⟨s.mgr, s.calls, s.born, Function.update s.link c .disconnected⟩

theorem connStep_cases {s s' : ConnSystem} {e : ConnEvent}
    (h : connStep s e = some s') : ConnStep s e s' := by
  cases e with
  | reserve t =>
    simp only [connStep, exec, reserveSlot_run] at h
    split at h
    next hidle =>
      cases hf : firstSlot (fun e : ConnectionEntry => !e.inUse) s.mgr.connections with
      | some i =>
        simp only [hf] at h
        cases h
        exact .reserve hidle (by simpa using firstSlot_spec hf)
      -- no slot is free, and the call returns at once
      | none =>
        simp only [hf, Option.elim_none] at h
        rw [← hidle, Function.update_eq_self] at h
        cases h
        exact .full
    next => cases h
  | create t result =>
    simp only [connStep] at h
    split at h
    next i err hcall => cases h; exact .createError hcall
    next i c hcall =>
      split at h
      next => cases h
      next hborn => cases h; exact .create hcall hborn
    next => cases h
  | finish t =>
    simp only [connStep, exec, releaseSlot_run, storeConn_run] at h
    split at h
    next i hcall => cases h; exact .release hcall
    next i c hcall => cases h; exact .store hcall
    next => cases h
  | connected c err =>
    simp only [connStep, exec, connectedCb, run_pure] at h
    split at h
    next hc => cases h; exact .connected hc.1 hc.2
    next => cases h
  | disconnected c reason =>
    simp only [connStep, exec, disconnectedCb_run] at h
    split at h
    next hc =>
      cases hf : firstSlot (fun e : ConnectionEntry => e.conn == some c)
          s.mgr.connections with
      | some i =>
        simp only [hf] at h
        cases h
        exact .disconnected hc.1 hc.2 (by simpa using firstSlot_spec hf)
      | none =>
        simp only [hf] at h
        cases h
        exact .lost hc.1 hc.2 fun i => by simpa using firstSlot_eq_none_iff.mp hf i
    next => cases h

/-! ## The roles of the slots -/

/-- What a slot is used for. -/
inductive Role where
  | free
  | held (t : Nat)
  | flying (t : Nat) (conn : BtConn)
  | stored (conn : BtConn)
  deriving DecidableEq, Repr

namespace Role

/-- The table entry of a slot with this role. -/
def entry : Role → ConnectionEntry
  | free => ⟨none, false⟩
  | held _ | flying _ _ => ⟨none, true⟩
  | stored c => ⟨some c, true⟩

/-- The connection a slot with this role is responsible for. -/
def conn : Role → Option BtConn
  | free | held _ => none
  | flying _ c | stored c => some c

/-- The call that holds the slot. -/
def owner : Role → Option Nat
  | free | stored _ => none
  | held t | flying t _ => some t

end Role

/-- The slot that call `t` holds at this point, and the role it gives the slot. -/
def ConnectCall.claim (t : Nat) : ConnectCall → Option (Fin maxConnections × Role)
  | idle => none
  | reserved i | failing i => some (i, .held t)
  | created i c => some (i, .flying t c)

/-- The calls between their steps hold exactly the slots whose role names them. -/
def Claimed (calls : Nat → ConnectCall) (role : Fin maxConnections → Role) : Prop :=
  ∀ t i r, (calls t).claim t = some (i, r) ↔ role i = r ∧ r.owner = some t

/-- Which connection has which slot, in every run:
1. no connection has two slots;
2. a connection with a slot was created and has not been unreferenced;
3. a created connection without a slot was disconnected and unreferenced once;
4. connections are created once, and only created ones are unreferenced. -/
structure Tracked (s : ConnSystem) (conn : Fin maxConnections → Option BtConn) :
    Prop where
  inj : ∀ i j c, conn i = some c → conn j = some c → i = j
  tracked : ∀ i c, conn i = some c → c ∈ s.born ∧ c ∉ s.mgr.unrefs
  untracked : ∀ c ∈ s.born, (∀ i, conn i ≠ some c) →
    s.link c = .disconnected ∧ s.mgr.unrefs.count c = 1
  nodup : s.born.Nodup
  unrefs : ∀ c ∈ s.mgr.unrefs, c ∈ s.born

/-- The table is what the roles of its slots say. -/
structure SlotInv (s : ConnSystem) (role : Fin maxConnections → Role) : Prop where
  entry : ∀ i, s.mgr.connections i = (role i).entry
  claimed : Claimed s.calls role
  tracked : Tracked s fun i => (role i).conn

theorem slotInv_boot : SlotInv .boot fun _ => .free where
  entry i := by simp [ConnSystem.boot, exec, Role.entry]
  claimed t i r := by
    simp only [ConnSystem.boot, ConnectCall.claim]
    constructor
    · intro h
      cases h
    · rintro ⟨rfl, h⟩
      cases h
  tracked :=
    { inj := by simp [Role.conn]
      tracked := by simp [Role.conn]
      untracked := by simp [ConnSystem.boot]
      nodup := List.nodup_nil
      unrefs := by simp [ConnSystem.boot, exec] }

/-! ## Every step keeps the roles -/

variable {calls : Nat → ConnectCall} {role : Fin maxConnections → Role}
  {s : ConnSystem} {t : Nat} {i : Fin maxConnections} {c : BtConn}

/-- A call that holds at most slot `i` changes what it does with that slot. -/
theorem Claimed.update (h : Claimed calls role) {call : ConnectCall} {r : Role}
    (hslot : ∀ j r', (calls t).claim t = some (j, r') → j = i)
    (howner : ∀ t', (role i).owner = some t' → t' = t)
    (hclaim : ∀ j r', call.claim t = some (j, r') ↔
      (j = i ∧ r' = r) ∧ r.owner = some t)
    (hnew : ∀ t', r.owner = some t' → t' = t) :
    Claimed (Function.update calls t call) (Function.update role i r) := by
  intro t' j r'
  by_cases ht : t' = t
  · -- the call itself claims slot `i` with its new role, and no other slot
    subst ht
    rw [Function.update_self, hclaim]
    by_cases hj : j = i
    · subst hj
      rw [Function.update_self]
      constructor
      · rintro ⟨⟨-, rfl⟩, ho⟩
        exact ⟨rfl, ho⟩
      · rintro ⟨rfl, ho⟩
        exact ⟨⟨rfl, rfl⟩, ho⟩
    · rw [Function.update_of_ne hj]
      refine iff_of_false (fun hc => hj hc.1.1) fun hc => ?_
      exact hj (hslot j r' ((h t' j r').mpr hc))
  · -- another call owned slot `i` neither before nor after
    rw [Function.update_of_ne ht, h t' j r']
    by_cases hj : j = i
    · subst hj
      rw [Function.update_self]
      constructor
      · rintro ⟨rfl, ho⟩
        exact absurd (howner t' ho) ht
      · rintro ⟨rfl, ho⟩
        exact absurd (hnew t' ho) ht
    · rw [Function.update_of_ne hj]

/-- A call that holds slot `i` goes on to use it differently, or gives it up. -/
theorem Claimed.hand_on (h : Claimed calls role) {call : ConnectCall} {r₀ r : Role}
    (hcur : (calls t).claim t = some (i, r₀))
    (hclaim : ∀ j r', call.claim t = some (j, r') ↔
      (j = i ∧ r' = r) ∧ r.owner = some t)
    (hnew : ∀ t', r.owner = some t' → t' = t) :
    Claimed (Function.update calls t call) (Function.update role i r) := by
  obtain ⟨hrole, hown⟩ := (h t i r₀).mp hcur
  refine h.update ?_ ?_ hclaim hnew
  · intro j r' hj
    rw [hcur] at hj
    cases hj
    rfl
  · intro t' ho
    rw [hrole, hown] at ho
    cases ho
    rfl

/-- A new role with the same connection leaves the connections of the slots as
they are. -/
theorem conn_update {r : Role} (h : r.conn = (role i).conn) :
    (fun j => (Function.update role i r j).conn) = fun j => (role j).conn := by
  funext j
  by_cases hj : j = i
  · subst hj
    simpa using h
  · rw [Function.update_of_ne hj]

/-- The entry of a slot after its role changed. -/
theorem entry_update {tab : Fin maxConnections → ConnectionEntry}
    (h : ∀ j, tab j = (role j).entry) {e : ConnectionEntry} {r : Role}
    (he : e = r.entry) (j : Fin maxConnections) :
    Function.update tab i e j = (Function.update role i r j).entry := by
  by_cases hj : j = i
  · subst hj
    simpa using he
  · rw [Function.update_of_ne hj, Function.update_of_ne hj]
    exact h j

namespace SlotInv

theorem role_free (h : SlotInv s role) (hi : (s.mgr.connections i).inUse = false) :
    role i = .free := by
  rw [h.entry i] at hi
  cases hr : role i <;> rw [hr] at hi <;> first | rfl | cases hi

theorem role_stored (h : SlotInv s role)
    (hi : (s.mgr.connections i).conn = some c) : role i = .stored c := by
  rw [h.entry i] at hi
  cases hr : role i <;> rw [hr] at hi <;> cases hi
  rfl

theorem role_held (h : SlotInv s role)
    (hcall : s.calls t = .reserved i ∨ s.calls t = .failing i) :
    role i = .held t := by
  refine ((h.claimed t i (.held t)).mp ?_).1
  rcases hcall with hcall | hcall <;> rw [hcall] <;> rfl

theorem role_flying (h : SlotInv s role) (hcall : s.calls t = .created i c) :
    role i = .flying t c := by
  refine ((h.claimed t i (.flying t c)).mp ?_).1
  rw [hcall]
  rfl

/-- The connection of a slot is stored there, or still with the call that created it. -/
theorem stored_or_created (h : SlotInv s role) (hi : (role i).conn = some c) :
    role i = .stored c ∨ ∃ t, s.calls t = .created i c := by
  cases hr : role i with
  | free => rw [hr] at hi; cases hi
  | held t => rw [hr] at hi; cases hi
  | stored b =>
    rw [hr] at hi
    cases hi
    exact .inl rfl
  | flying t b =>
    rw [hr] at hi
    cases hi
    have hclaim := (h.claimed t i _).mpr ⟨hr, rfl⟩
    -- of the steps of a call, only one is in the hands of a connection
    cases hcall : s.calls t with
    | idle => rw [hcall] at hclaim; cases hclaim
    | reserved j => rw [hcall] at hclaim; cases hclaim
    | failing j => rw [hcall] at hclaim; cases hclaim
    | created j b' =>
      rw [hcall] at hclaim
      cases hclaim
      exact .inr ⟨t, hcall⟩

/-- What is tracked depends on neither the calls nor the entries of the table. -/
theorem tracked_frame {conn : Fin maxConnections → Option BtConn} (h : Tracked s conn)
    (connections : Fin maxConnections → ConnectionEntry) (calls : Nat → ConnectCall) :
    Tracked ⟨⟨connections, s.mgr.unrefs⟩, calls, s.born, s.link⟩ conn :=
  ⟨h.inj, h.tracked, h.untracked, h.nodup, h.unrefs⟩

/-- News of a connection that has not disconnected keeps what is tracked. -/
theorem tracked_link {conn : Fin maxConnections → Option BtConn}
    (h : Tracked s conn) {l : Link} (hc : s.link c ≠ .disconnected) :
    Tracked ⟨s.mgr, s.calls, s.born, Function.update s.link c l⟩ conn where
  inj := h.inj
  tracked := h.tracked
  untracked b hb hno := by
    obtain ⟨hlink, hcount⟩ := h.untracked b hb hno
    have hbc : b ≠ c := fun he => hc (he ▸ hlink)
    show Function.update s.link c l b = .disconnected ∧ s.mgr.unrefs.count b = 1
    rw [Function.update_of_ne hbc]
    exact ⟨hlink, hcount⟩
  nodup := h.nodup
  unrefs := h.unrefs

/-- A connection that disconnects without having a slot would be tracked
nowhere; it still has the slot of the call that created it. -/
theorem exists_conn (h : SlotInv s role) (hb : c ∈ s.born)
    (hlink : s.link c ≠ .disconnected) : ∃ i, (role i).conn = some c := by
  by_contra hno
  refine hlink (h.tracked.untracked c hb fun i hi => hno ⟨i, hi⟩).1

/-- A call takes a free slot. -/
theorem reserve (h : SlotInv s role) (hcall : s.calls t = .idle)
    (hi : (s.mgr.connections i).inUse = false) :
    SlotInv ⟨⟨Function.update s.mgr.connections i
        { s.mgr.connections i with inUse := true }, s.mgr.unrefs⟩,
      Function.update s.calls t (.reserved i), s.born, s.link⟩
      (Function.update role i (.held t)) := by
  have hfree : role i = .free := h.role_free hi
  refine { entry := entry_update h.entry ?_, claimed := ?_, tracked := ?_ }
  · rw [h.entry i, hfree]
    rfl
  · refine h.claimed.update ?_ ?_ ?_ ?_
    · -- the call claimed no slot before
      intro j r' hj
      rw [hcall] at hj
      cases hj
    · intro t' ho
      rw [hfree] at ho
      cases ho
    · intro j r'
      simp [ConnectCall.claim, Role.owner, eq_comm]
    · intro t' ho
      cases ho
      rfl
  · rw [conn_update (by rw [hfree]; rfl)]
    exact tracked_frame h.tracked _ _

/-- `bt_conn_le_create` fails: the call still holds its slot. -/
theorem createError (h : SlotInv s role) (hcall : s.calls t = .reserved i) :
    SlotInv ⟨s.mgr, Function.update s.calls t (.failing i), s.born, s.link⟩ role := by
  have hheld : role i = .held t := h.role_held (.inl hcall)
  refine { entry := h.entry, claimed := ?_, tracked := ?_ }
  · have hrole : Function.update role i (.held t) = role := by
      rw [← hheld, Function.update_eq_self]
    rw [← hrole]
    refine h.claimed.hand_on (by rw [hcall]; rfl) ?_ ?_
    · intro j r'
      simp [ConnectCall.claim, Role.owner, eq_comm]
    · intro t' ho
      cases ho
      rfl
  · exact tracked_frame h.tracked _ _

/-- `bt_conn_le_create` gives a new connection, which no slot stores yet. -/
theorem create (h : SlotInv s role) (hcall : s.calls t = .reserved i)
    (hc : c ∉ s.born) :
    SlotInv ⟨s.mgr, Function.update s.calls t (.created i c), s.born ++ [c],
      Function.update s.link c .pending⟩ (Function.update role i (.flying t c)) := by
  have hheld : role i = .held t := h.role_held (.inl hcall)
  have hconn : ∀ j b, (Function.update role i (.flying t c) j).conn = some b →
      (j = i ∧ b = c) ∨ (j ≠ i ∧ b ≠ c ∧ (role j).conn = some b) := by
    intro j b hj
    by_cases hji : j = i
    · subst hji
      rw [Function.update_self] at hj
      cases hj
      exact .inl ⟨rfl, rfl⟩
    · rw [Function.update_of_ne hji] at hj
      exact .inr ⟨hji, fun hb => hc (hb ▸ (h.tracked.tracked j b hj).1), hj⟩
  refine { entry := fun j => ?_, claimed := ?_, tracked := ?_ }
  · by_cases hji : j = i
    · subst hji
      rw [Function.update_self, h.entry j, hheld]
      rfl
    · rw [Function.update_of_ne hji]
      exact h.entry j
  · refine h.claimed.hand_on (by rw [hcall]; rfl) ?_ ?_
    · intro j r'
      simp [ConnectCall.claim, Role.owner, eq_comm]
    · intro t' ho
      cases ho
      rfl
  · refine { inj := ?_, tracked := ?_, untracked := ?_, nodup := ?_, unrefs := ?_ }
    · -- the new connection is in one slot, and was in none before
      intro j k b hj hk
      rcases hconn j b hj with ⟨rfl, rfl⟩ | ⟨hji, hb, hj'⟩
      · rcases hconn k b hk with ⟨rfl, -⟩ | ⟨-, hb, -⟩
        · rfl
        · exact absurd rfl hb
      · rcases hconn k b hk with ⟨-, rfl⟩ | ⟨-, -, hk'⟩
        · exact absurd rfl hb
        · exact h.tracked.inj j k b hj' hk'
    · intro j b hj
      show b ∈ s.born ++ [c] ∧ b ∉ s.mgr.unrefs
      rcases hconn j b hj with ⟨rfl, rfl⟩ | ⟨-, -, hj'⟩
      · exact ⟨by simp, fun hu => hc (h.tracked.unrefs b hu)⟩
      · obtain ⟨hborn, hun⟩ := h.tracked.tracked j b hj'
        exact ⟨List.mem_append_left _ hborn, hun⟩
    · -- a connection without a slot is not the new one, and was without one before
      intro b hb hno
      have hbc : b ≠ c := by
        rintro rfl
        exact hno i (by simp [Role.conn])
      have hborn : b ∈ s.born := by
        simpa [hbc] using hb
      show Function.update s.link c .pending b = .disconnected ∧
        s.mgr.unrefs.count b = 1
      rw [Function.update_of_ne hbc]
      refine h.tracked.untracked b hborn fun j hj => hno j ?_
      have hji : j ≠ i := by
        rintro rfl
        rw [hheld] at hj
        cases hj
      rwa [Function.update_of_ne hji]
    · refine List.nodup_append.mpr ⟨h.tracked.nodup, List.nodup_singleton c, ?_⟩
      rintro a ha b hb rfl
      exact hc (List.mem_singleton.mp hb ▸ ha)
    · intro b hb
      exact List.mem_append_left _ (h.tracked.unrefs b hb)

/-- A call that has no connection gives its slot back. -/
theorem release (h : SlotInv s role) (hcall : s.calls t = .failing i) :
    SlotInv ⟨⟨Function.update s.mgr.connections i
        { s.mgr.connections i with inUse := false }, s.mgr.unrefs⟩,
      Function.update s.calls t .idle, s.born, s.link⟩
      (Function.update role i .free) := by
  have hheld : role i = .held t := h.role_held (.inr hcall)
  refine { entry := entry_update h.entry ?_, claimed := ?_, tracked := ?_ }
  · rw [h.entry i, hheld]
    rfl
  · refine h.claimed.hand_on (by rw [hcall]; rfl) ?_ ?_
    · intro j r'
      simp [ConnectCall.claim, Role.owner]
    · intro t' ho
      cases ho
  · rw [conn_update (by rw [hheld]; rfl)]
    exact tracked_frame h.tracked _ _

/-- A call stores its connection in its slot. -/
theorem store (h : SlotInv s role) (hcall : s.calls t = .created i c) :
    SlotInv ⟨⟨Function.update s.mgr.connections i
        { s.mgr.connections i with conn := some c }, s.mgr.unrefs⟩,
      Function.update s.calls t .idle, s.born, s.link⟩
      (Function.update role i (.stored c)) := by
  have hfly : role i = .flying t c := h.role_flying hcall
  refine { entry := entry_update h.entry ?_, claimed := ?_, tracked := ?_ }
  · rw [h.entry i, hfly]
    rfl
  · refine h.claimed.hand_on (by rw [hcall]; rfl) ?_ ?_
    · intro j r'
      simp [ConnectCall.claim, Role.owner]
    · intro t' ho
      cases ho
  · rw [conn_update (by rw [hfly]; rfl)]
    exact tracked_frame h.tracked _ _

/-- `connected_cb` only logs what it is told. -/
theorem connected (h : SlotInv s role) (hlink : s.link c = .pending) (err : UInt8) :
    SlotInv ⟨s.mgr, s.calls, s.born,
      Function.update s.link c (if err = 0 then .established else .failed)⟩ role where
  entry := h.entry
  claimed := h.claimed
  tracked := tracked_link h.tracked (by rw [hlink]; decide)

/-- `disconnected_cb` finds the connection, unreferences it and clears its slot. -/
theorem disconnected (h : SlotInv s role) (hc : c ∈ s.born)
    (hi : (s.mgr.connections i).conn = some c) :
    SlotInv ⟨⟨Function.update s.mgr.connections i {}, s.mgr.unrefs ++ [c]⟩, s.calls,
      s.born, Function.update s.link c .disconnected⟩
      (Function.update role i .free) := by
  have hstored : role i = .stored c := h.role_stored hi
  have hconn : ∀ j b, (Function.update role i .free j).conn = some b ↔
      b ≠ c ∧ (role j).conn = some b := by
    intro j b
    by_cases hji : j = i
    · subst hji
      rw [Function.update_self, hstored]
      simp [Role.conn, eq_comm]
    · rw [Function.update_of_ne hji]
      refine ⟨fun hj => ⟨?_, hj⟩, And.right⟩
      rintro rfl
      exact hji (h.tracked.inj j i b hj (by rw [hstored]; rfl))
  refine { entry := entry_update h.entry rfl, claimed := ?_, tracked := ?_ }
  · -- the slot belonged to no call, and now belongs to nobody
    intro t' j r'
    rw [h.claimed t' j r']
    by_cases hji : j = i
    · subst hji
      rw [Function.update_self, hstored]
      constructor
      · rintro ⟨rfl, ho⟩
        cases ho
      · rintro ⟨rfl, ho⟩
        cases ho
    · rw [Function.update_of_ne hji]
  · have hun : c ∉ s.mgr.unrefs := (h.tracked.tracked i c (by rw [hstored]; rfl)).2
    refine { inj := ?_, tracked := ?_, untracked := ?_, nodup := h.tracked.nodup,
             unrefs := ?_ }
    · intro j k b hj hk
      exact h.tracked.inj j k b ((hconn j b).mp hj).2 ((hconn k b).mp hk).2
    · intro j b hj
      obtain ⟨hbc, hj'⟩ := (hconn j b).mp hj
      obtain ⟨hborn, hunb⟩ := h.tracked.tracked j b hj'
      refine ⟨hborn, fun hu => ?_⟩
      rcases List.mem_append.mp hu with hu | hu
      · exact hunb hu
      · exact hbc (List.mem_singleton.mp hu)
    · -- the connection that ends is unreferenced here, and was not before
      intro b hb hno
      show Function.update s.link c .disconnected b = .disconnected ∧
        (s.mgr.unrefs ++ [c]).count b = 1
      rw [List.count_append]
      by_cases hbc : b = c
      · subst hbc
        rw [Function.update_self, List.count_eq_zero.mpr hun]
        simp
      · rw [Function.update_of_ne hbc, List.count_singleton]
        obtain ⟨hlink, hcount⟩ := h.tracked.untracked b hb fun j hj =>
          hno j ((hconn j b).mpr ⟨hbc, hj⟩)
        have hcb : (c == b) = false := by simpa using Ne.symm hbc
        rw [hcount, hcb]
        exact ⟨hlink, rfl⟩
    · intro b hb
      rcases List.mem_append.mp hb with hb | hb
      · exact h.tracked.unrefs b hb
      · exact List.mem_singleton.mp hb ▸ hc

/-- `disconnected_cb` does not find the connection and leaves the table as it is. -/
theorem lost (h : SlotInv s role) (hlink : s.link c = .established) :
    SlotInv ⟨s.mgr, s.calls, s.born, Function.update s.link c .disconnected⟩ role where
  entry := h.entry
  claimed := h.claimed
  tracked := tracked_link h.tracked (by rw [hlink]; decide)

end SlotInv

/-- Every step keeps the table to what some roles of its slots say. -/
theorem slotInv_step {s s' : ConnSystem} {e : ConnEvent} (hstep : connStep s e = some s')
    (h : ∃ role, SlotInv s role) : ∃ role, SlotInv s' role := by
  obtain ⟨role, h⟩ := h
  cases connStep_cases hstep with
  | reserve hcall hi => exact ⟨_, h.reserve hcall hi⟩
  | full => exact ⟨_, h⟩
  | createError hcall => exact ⟨_, h.createError hcall⟩
  | create hcall hc => exact ⟨_, h.create hcall hc⟩
  | release hcall => exact ⟨_, h.release hcall⟩
  | store hcall => exact ⟨_, h.store hcall⟩
  | connected hc hlink => exact ⟨_, h.connected hlink _⟩
  | disconnected hc hlink hi => exact ⟨_, h.disconnected hc hi⟩
  | lost hc hlink hno => exact ⟨_, h.lost hlink⟩

end SensorNet.Hub
