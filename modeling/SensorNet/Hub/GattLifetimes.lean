import SensorNet.Hub.GattClient
import SensorNet.Lib.Run

/-!
# GATT contexts and the lifetimes of connections

The GATT client keys its contexts by the connection pointer and is never told
that a connection ended; the stack may hand out the same object for another
peer. The system here: connections are established and end, the application
calls the client and the stack calls it back, in any order. `reported` is what
`discover_func` was told during the current lifetime of each connection.

- `SafeCall`: the handles a call passes to the stack were reported in this
  lifetime, and a call is refused only when every context is another live
  connection's.
- `WithinLifetime`: no connection ends while it has a context, and calls and
  callbacks concern connections that are up.
- `LifetimeInv`, `safe_of_withinLifetime`: the second condition along a run gives
  the first. Without it `stale_handle_written`: a handle of the previous peer is
  written to the next one.
-/

namespace SensorNet.Hub

open Fw

/-- The GATT client and the connections. -/
structure GattSystem where
  gatt : GattClient
  up : BtConn → Bool
  reported : BtConn → List UInt16

/-- What can happen next. -/
inductive GattEvent where
  | establish (conn : BtConn)
  | disconnect (conn : BtConn)
  | op (op : GattOp)

/-- What a call adds to the reports of its connection. -/
def GattOp.report (reported : BtConn → List UInt16) : GattOp → BtConn → List UInt16
  | .discoverFunc (some c) (some chrc) =>
    Function.update reported c (reported c ++ [chrc.valueHandle])
  | _ => reported

/-- One event; `none` when it cannot happen in this state. -/
def gattStep (s : GattSystem) : GattEvent → Option GattSystem
  | .establish c =>
    if s.up c = true then none
    else some { s with
      up := Function.update s.up c true
      reported := Function.update s.reported c [] }
  | .disconnect c =>
    if s.up c = true then some { s with up := Function.update s.up c false }
    else none
  | .op op =>
    if op.conn = none then none
    else some { s with
      gatt := (exec op.op s.gatt).2
      reported := op.report s.reported }

/-- After `gatt_client_init`, with no connection. -/
def GattSystem.boot : GattSystem :=
  ⟨(exec gattClientInit ⟨fun _ => {}, [], []⟩).2, fun _ => false, fun _ => []⟩

/-- The handles in the request were reported for its connection; the handle of the
notification descriptor is by design the one after a reported handle. -/
def StackRequest.Fresh (reported : BtConn → List UInt16) : StackRequest → Prop
  | .read conn params => ∃ c, conn = some c ∧ params.handle ∈ reported c
  | .write conn params => ∃ c, conn = some c ∧ params.handle ∈ reported c
  | .subscribe conn params => ∃ c, conn = some c ∧ params.valueHandle ∈ reported c ∧
      params.cccHandle = params.valueHandle + 1
  | .discover _ _ | .unsubscribe _ _ => True

namespace GattSystem

/-- The call returns `-ENOMEM` without having asked the stack. -/
def Refuses (s : GattSystem) (op : GattOp) : Prop :=
  (exec op.op s.gatt).1 = -eNOMEM ∧ (exec op.op s.gatt).2.requests = s.gatt.requests

/-- Every context belongs to a live connection other than `c`. -/
def FullOfOthers (s : GattSystem) (c : BtConn) : Prop :=
  ∃ other : Fin maxGattContexts → BtConn, Function.Injective other ∧
    ∀ i, other i ≠ c ∧ s.up (other i) = true ∧
      (s.gatt.contexts i).conn = some (other i)

end GattSystem

/-- What the client owes at each call:
1. the requests the call makes are fresh;
2. a live connection is refused only when the contexts are other live
   connections'. -/
structure SafeCall (s : GattSystem) (op : GattOp) : Prop where
  fresh : ∀ r ∈ (exec op.op s.gatt).2.requests.drop s.gatt.requests.length,
    r.Fresh s.reported
  refused : ∀ c, op.conn = some c → s.up c = true → s.Refuses op → s.FullOfOthers c

/-- The event is safe. -/
def SafeEvent (s : GattSystem) : GattEvent → Prop
  | .op op => ∀ c ∈ op.conn, SafeCall s op
  | _ => True

/-- The event respects the lifetimes of connections. -/
def WithinLifetime (s : GattSystem) : GattEvent → Prop
  | .establish _ => True
  | .disconnect c => ∀ i, (s.gatt.contexts i).conn ≠ some c
  | .op op => ∀ c ∈ op.conn, s.up c = true

instance (s : GattSystem) : ∀ e, Decidable (WithinLifetime s e)
  | .establish _ => isTrue trivial
  | .disconnect c => inferInstanceAs (Decidable (∀ i, (s.gatt.contexts i).conn ≠ some c))
  | .op op => inferInstanceAs (Decidable (∀ c ∈ op.conn, s.up c = true))

/-! ## What a call does to the contexts -/

/-- The handles a context keeps. -/
def GattClientCtx.handles (ctx : GattClientCtx) : List UInt16 :=
  [ctx.readingHandle, ctx.batteryHandle, ctx.configHandle, ctx.calibrationHandle,
    ctx.diagnosticsHandle]

/-- Same connection and same handles. -/
def GattClientCtx.Same (a b : GattClientCtx) : Prop :=
  a.conn = b.conn ∧ a.handles = b.handles

theorem readHandle_mem {ctx : GattClientCtx} {uuid : BtUuid}
    (h : ctx.readHandle uuid ≠ 0) : ctx.readHandle uuid ∈ ctx.handles := by
  unfold GattClientCtx.readHandle at h ⊢
  split_ifs at h ⊢ <;> simp [GattClientCtx.handles] at h ⊢

theorem writeHandle_mem {ctx : GattClientCtx} {uuid : BtUuid}
    (h : ctx.writeHandle uuid ≠ 0) : ctx.writeHandle uuid ∈ ctx.handles := by
  unfold GattClientCtx.writeHandle at h ⊢
  split_ifs at h ⊢ <;> simp [GattClientCtx.handles] at h ⊢

theorem subscribeHandle_mem {ctx : GattClientCtx} {uuid : BtUuid}
    (h : ctx.subscribeHandle uuid ≠ 0) : ctx.subscribeHandle uuid ∈ ctx.handles := by
  unfold GattClientCtx.subscribeHandle at h ⊢
  split_ifs at h ⊢ <;> simp [GattClientCtx.handles] at h ⊢

theorem mem_handles_store {ctx : GattClientCtx} {chrc : GattChrc} {h : UInt16}
    (hmem : h ∈ (ctx.store chrc).handles) : h ∈ ctx.handles ∨ h = chrc.valueHandle := by
  unfold GattClientCtx.store at hmem
  split_ifs at hmem <;> simp only [GattClientCtx.handles, List.mem_cons,
    List.not_mem_nil, or_false] at hmem ⊢ <;> tauto

/-- What a call for `c` can do to the client, by case:
1. there is no context: nothing happens;
2. the context is claimed, and the requests made use its handles;
3. the context is claimed and a reported handle stored;
4. the context is claimed and then released. -/
inductive GattEffect (d : GattClient) (c : BtConn) : GattOp → GattClient → Prop where
  | refused {op} : d.slotOf (some c) = none → GattEffect d c op d
  | touch {op i d' new} : d.slotOf (some c) = some i →
      (∀ j, (d'.contexts j).Same ((d.claim i (some c)).contexts j)) →
      d'.requests = d.requests ++ new →
      (∀ reported : BtConn → List UInt16,
        (∀ h ∈ (d.contexts i).handles, h ≠ 0 → h ∈ reported c) →
          ∀ r ∈ new, r.Fresh reported) →
      GattEffect d c op d'
  | store {i chrc} : d.slotOf (some c) = some i →
      GattEffect d c (.discoverFunc (some c) (some chrc))
        ((d.claim i (some c)).modify i (·.store chrc))
  | release {op i d' params} : d.slotOf (some c) = some i →
      d'.contexts = Function.update (d.claim i (some c)).contexts i {} →
      d'.requests = d.requests ++ [.unsubscribe (some c) params] →
      GattEffect d c op d'

theorem GattClientCtx.Same.refl (a : GattClientCtx) : a.Same a := ⟨rfl, rfl⟩

/-- Editing a context without touching its connection and handles. -/
theorem same_modify {d : GattClient} {i : Fin maxGattContexts}
    {f : GattClientCtx → GattClientCtx} (hf : ∀ ctx, (f ctx).Same ctx)
    (j : Fin maxGattContexts) : ((d.modify i f).contexts j).Same (d.contexts j) := by
  by_cases hj : j = i
  · subst hj
    rw [GattClient.modify_contexts, Function.update_self]
    exact hf _
  · rw [GattClient.modify_contexts, Function.update_of_ne hj]
    exact .refl _

namespace GattEffect

variable {d d' : GattClient} {c : BtConn} {op : GattOp} {i : Fin maxGattContexts}

/-- A call that asks the stack for nothing. -/
theorem quiet (hs : d.slotOf (some c) = some i)
    (hctx : ∀ j, (d'.contexts j).Same ((d.claim i (some c)).contexts j))
    (hreq : d'.requests = d.requests) : GattEffect d c op d' := by
  refine .touch hs hctx (hreq.trans (List.append_nil _).symm) fun _ _ r hr => ?_
  cases hr

/-- A call that makes one request with the handles of the context, and tells the
application. -/
theorem askTell {f : GattClientCtx → GattClientCtx} {r : StackRequest}
    {calls : List AppCall} (hs : d.slotOf (some c) = some i)
    (hf : ∀ ctx, (f ctx).Same ctx)
    (hfresh : ∀ reported : BtConn → List UInt16,
      (∀ h ∈ (d.contexts i).handles, h ≠ 0 → h ∈ reported c) → r.Fresh reported) :
    GattEffect d c op ((((d.claim i (some c)).modify i f).send r).tell calls) := by
  refine .touch hs (fun j => ?_) rfl fun reported hrep r' hr' => ?_
  · exact same_modify hf j
  · rw [List.mem_singleton.mp hr']
    exact hfresh reported hrep

/-- A call that makes one request with the handles of the context. -/
theorem ask {f : GattClientCtx → GattClientCtx} {r : StackRequest}
    (hs : d.slotOf (some c) = some i) (hf : ∀ ctx, (f ctx).Same ctx)
    (hfresh : ∀ reported : BtConn → List UInt16,
      (∀ h ∈ (d.contexts i).handles, h ≠ 0 → h ∈ reported c) → r.Fresh reported) :
    GattEffect d c op (((d.claim i (some c)).modify i f).send r) := by
  have h : GattEffect d c op ((((d.claim i (some c)).modify i f).send r).tell []) :=
    askTell hs hf hfresh
  rwa [GattClient.tell, List.append_nil] at h

/-- A call that needs a handle: without one it claims the context and does nothing else. -/
theorem needsHandle {handle : UInt16} {err : Int} {k : Kernel} {sent : GattClient}
    (hs : d.slotOf (some c) = some i) (hsent : handle ≠ 0 → GattEffect d c op sent) :
    GattEffect d c op
      (if handle = 0 then (-eNOENT, Fw.State.mk (d.claim i (some c)) k)
        else (err, ⟨sent, k⟩)).2.data := by
  by_cases hh : handle = 0
  · simp only [hh, if_true]
    exact .quiet hs (fun _ => .refl _) rfl
  · simp only [hh, if_false]
    exact hsent hh

end GattEffect

/-- Every call and callback for a connection has one of the four effects. -/
theorem gattEffect (d : GattClient) {c : BtConn} {op : GattOp}
    (hc : op.conn = some c) : GattEffect d c op (exec op.op d).2 := by
  cases op with
  | init => cases hc
  | discover conn cb err =>
    cases hc
    show GattEffect d c _ ((gattClientDiscover (some c) cb err).run ⟨d, .boot⟩).2.data
    rw [gattClientDiscover_run]
    cases hs : d.slotOf (some c) with
    | none => exact .refused hs
    | some i => exact .ask hs (fun _ => ⟨rfl, rfl⟩) fun _ _ => trivial
  | read conn uuid cb err =>
    cases hc
    show GattEffect d c _ ((gattClientRead (some c) uuid cb err).run ⟨d, .boot⟩).2.data
    rw [gattClientRead_run]
    cases hs : d.slotOf (some c) with
    | none => exact .refused hs
    | some i =>
      refine .needsHandle hs fun hh => ?_
      exact .ask hs (fun _ => ⟨rfl, rfl⟩) fun _ hrep =>
        ⟨c, rfl, hrep _ (readHandle_mem hh) hh⟩
  | write conn uuid data length cb err =>
    cases hc
    show GattEffect d c _
      ((gattClientWrite (some c) uuid data length cb err).run ⟨d, .boot⟩).2.data
    rw [gattClientWrite_run]
    cases hs : d.slotOf (some c) with
    | none => exact .refused hs
    | some i =>
      refine .needsHandle hs fun hh => ?_
      exact .askTell hs (fun _ => ⟨rfl, rfl⟩) fun _ hrep =>
        ⟨c, rfl, hrep _ (writeHandle_mem hh) hh⟩
  | subscribe conn uuid cb err =>
    cases hc
    show GattEffect d c _
      ((gattClientSubscribe (some c) uuid cb err).run ⟨d, .boot⟩).2.data
    rw [gattClientSubscribe_run]
    cases hs : d.slotOf (some c) with
    | none => exact .refused hs
    | some i =>
      refine .needsHandle hs fun hh => ?_
      exact .ask hs (fun _ => ⟨rfl, rfl⟩) fun _ hrep =>
        ⟨c, rfl, hrep _ (subscribeHandle_mem hh) hh, rfl⟩
  | unsubscribe conn uuid err =>
    cases hc
    show GattEffect d c _ ((gattClientUnsubscribe (some c) uuid err).run ⟨d, .boot⟩).2.data
    rw [gattClientUnsubscribe_run]
    cases hs : d.slotOf (some c) with
    | none => exact .refused hs
    | some i =>
      by_cases herr : err = 0
      · -- the only call that gives a context back
        simp only [herr, if_true, releaseContext_run, GattClient.send]
        rw [GattClient.firstSlot_claim hs]
        exact .release hs rfl rfl
      · simp only [herr, if_false]
        refine .touch hs (fun _ => .refl _) rfl ?_
        intro reported _ r hr
        rw [List.mem_singleton.mp hr]
        trivial
  | discoverFunc conn attr =>
    cases hc
    show GattEffect d c _ ((discoverFunc (some c) attr).run ⟨d, .boot⟩).2.data
    cases attr with
    | none =>
      rw [discoverFunc_done_run]
      cases hs : d.slotOf (some c) with
      | none => exact .refused hs
      | some i => exact .quiet hs (fun _ => .refl _) rfl
    | some chrc =>
      rw [discoverFunc_attr_run]
      cases hs : d.slotOf (some c) with
      | none => exact .refused hs
      | some i => exact .store hs
  | readFunc conn err data length =>
    cases hc
    obtain ⟨calls, h⟩ := readFunc_run (some c) err data length d .boot
    show GattEffect d c _ ((readFunc (some c) err data length).run ⟨d, .boot⟩).2.data
    rw [h]
    cases hs : d.slotOf (some c) with
    | none => exact .refused hs
    | some i => exact .quiet hs (fun _ => .refl _) rfl
  | notifyFunc conn params data length =>
    cases hc
    show GattEffect d c _ ((notifyFunc (some c) params data length).run ⟨d, .boot⟩).2.data
    rw [notifyFunc_run]
    cases hs : d.slotOf (some c) with
    | none => exact .refused hs
    | some i =>
      cases data with
      | none =>
        dsimp only
        -- only `value_handle` of a subscription is set, which no handle of the context is
        refine .quiet hs (same_modify ?_) rfl
        exact fun _ => ⟨rfl, rfl⟩
      | some bytes => exact .quiet hs (fun _ => .refl _) rfl

theorem code_ne (r : GattIter) : r.code ≠ -eNOMEM := by
  cases r <;> decide

/-- A call that needs a handle and ends for want of a context has the handle. -/
theorem handle_ne_zero {handle : UInt16} {err : Int} {x y : Fw.State GattClient}
    (hres : (if handle = 0 then (-eNOENT, x) else (err, y)).1 = -eNOMEM) : handle ≠ 0 := by
  intro hh
  have hcode : -eNOENT ≠ -eNOMEM := by decide
  rw [if_pos hh] at hres
  exact hcode hres

/-- A call that has a context either asks the stack or does not return `-ENOMEM`. -/
theorem slotOf_of_refused {d : GattClient} {c : BtConn} {op : GattOp}
    (hc : op.conn = some c) (hres : (exec op.op d).1 = -eNOMEM)
    (hreq : (exec op.op d).2.requests = d.requests) : d.slotOf (some c) = none := by
  have hlonger : ∀ {l : List StackRequest} {r : StackRequest}, l ++ [r] ≠ l := by
    intro l r he
    simpa using congrArg List.length he
  -- with a context, the request is made, or the result is that there is no handle
  by_contra hsome
  obtain ⟨i, hs⟩ := Option.ne_none_iff_exists'.mp hsome
  cases op with
  | init => cases hc
  | discover conn cb err =>
    cases hc
    change ((gattClientDiscover (some c) cb err).run ⟨d, .boot⟩).2.data.requests = _ at hreq
    rw [gattClientDiscover_run, hs] at hreq
    exact hlonger hreq
  | read conn uuid cb err =>
    cases hc
    change ((gattClientRead (some c) uuid cb err).run ⟨d, .boot⟩).1 = _ at hres
    change ((gattClientRead (some c) uuid cb err).run ⟨d, .boot⟩).2.data.requests = _ at hreq
    rw [gattClientRead_run, hs] at hres hreq
    have hh := handle_ne_zero hres
    simp only [hh, if_false] at hreq
    exact hlonger hreq
  | write conn uuid data length cb err =>
    cases hc
    change ((gattClientWrite (some c) uuid data length cb err).run ⟨d, .boot⟩).1 = _ at hres
    change ((gattClientWrite (some c) uuid data length cb err).run
      ⟨d, .boot⟩).2.data.requests = _ at hreq
    rw [gattClientWrite_run, hs] at hres hreq
    have hh := handle_ne_zero hres
    simp only [hh, if_false] at hreq
    exact hlonger hreq
  | subscribe conn uuid cb err =>
    cases hc
    change ((gattClientSubscribe (some c) uuid cb err).run ⟨d, .boot⟩).1 = _ at hres
    change ((gattClientSubscribe (some c) uuid cb err).run
      ⟨d, .boot⟩).2.data.requests = _ at hreq
    rw [gattClientSubscribe_run, hs] at hres hreq
    have hh := handle_ne_zero hres
    simp only [hh, if_false] at hreq
    exact hlonger hreq
  | unsubscribe conn uuid err =>
    cases hc
    change ((gattClientUnsubscribe (some c) uuid err).run ⟨d, .boot⟩).2.data.requests = _
      at hreq
    rw [gattClientUnsubscribe_run, hs] at hreq
    by_cases herr : err = 0
    · simp only [herr, if_true, releaseContext_run] at hreq
      split at hreq <;> exact hlonger hreq
    · simp only [herr, if_false] at hreq
      exact hlonger hreq
  | discoverFunc conn attr => exact code_ne _ hres
  | readFunc conn err data length => exact code_ne _ hres
  | notifyFunc conn params data length => exact code_ne _ hres

/-! ## The invariant of runs within lifetimes -/

/-- While calls and disconnects respect lifetimes:
1. a context is a live connection's;
2. no connection has two contexts;
3. every handle kept was reported in the current lifetime of the connection. -/
structure LifetimeInv (s : GattSystem) : Prop where
  live : ∀ i c, (s.gatt.contexts i).conn = some c → s.up c = true
  distinct : ∀ i j c, (s.gatt.contexts i).conn = some c →
    (s.gatt.contexts j).conn = some c → i = j
  handles : ∀ i, ∀ h ∈ (s.gatt.contexts i).handles, h ≠ 0 →
    ∃ c, (s.gatt.contexts i).conn = some c ∧ h ∈ s.reported c

theorem lifetimeInv_boot : LifetimeInv .boot where
  live i c h := by cases h
  distinct i j c h := by cases h
  handles i h hmem hne := by
    exfalso
    simp only [GattSystem.boot, exec, gattClientInit_run, GattClientCtx.handles,
      List.mem_cons, List.not_mem_nil, or_false, or_self] at hmem
    exact hne hmem

variable {s : GattSystem} {c : BtConn} {i : Fin maxGattContexts}

namespace LifetimeInv

/-- The handles of the context a connection gets were reported for it. -/
theorem reported (h : LifetimeInv s) (hs : s.gatt.slotOf (some c) = some i)
    {hd : UInt16} (hmem : hd ∈ (s.gatt.contexts i).handles) (hne : hd ≠ 0) :
    hd ∈ s.reported c := by
  obtain ⟨c', hc', hrep⟩ := h.handles i hd hmem hne
  rcases GattClient.conn_of_slotOf hs with hown | ⟨hfree, -⟩
  · rw [hc'] at hown
    cases hown
    exact hrep
  · rw [hc'] at hfree
    cases hfree

/-- Claiming a context for a live connection. -/
theorem claim (h : LifetimeInv s) (hs : s.gatt.slotOf (some c) = some i)
    (hup : s.up c = true) :
    LifetimeInv { s with gatt := s.gatt.claim i (some c) } := by
  rcases GattClient.conn_of_slotOf hs with hown | ⟨hfree, hnone⟩
  · rw [GattClient.claim_eq_self hown]
    exact h
  · have hconn : ∀ j c', ((s.gatt.claim i (some c)).contexts j).conn = some c' →
        (j = i ∧ c' = c) ∨ (j ≠ i ∧ (s.gatt.contexts j).conn = some c') := by
      intro j c' hj
      by_cases hji : j = i
      · subst hji
        rw [GattClient.claim, GattClient.modify_contexts, Function.update_self] at hj
        cases hj
        exact .inl ⟨rfl, rfl⟩
      · rw [GattClient.claim, GattClient.modify_contexts, Function.update_of_ne hji] at hj
        exact .inr ⟨hji, hj⟩
    refine { live := ?_, distinct := ?_, handles := ?_ }
    · -- only the connection of the call gets a context, and it is up
      intro j c' hj
      rcases hconn j c' hj with ⟨-, rfl⟩ | ⟨-, hj'⟩
      · exact hup
      · exact h.live j c' hj'
    · -- it had none before, or that one would have been taken
      intro j k c' hj hk
      rcases hconn j c' hj with ⟨rfl, rfl⟩ | ⟨hji, hj'⟩
      · rcases hconn k c' hk with ⟨rfl, -⟩ | ⟨-, hk'⟩
        · rfl
        · exact absurd hk' (hnone k)
      · rcases hconn k c' hk with ⟨-, rfl⟩ | ⟨-, hk'⟩
        · exact absurd hj' (hnone j)
        · exact h.distinct j k c' hj' hk'
    · intro j hd hmem hne
      by_cases hji : j = i
      · -- the context was free, so it keeps no handle
        subst hji
        have hmem' : hd ∈ (s.gatt.contexts j).handles := by
          simpa [GattClient.claim, GattClientCtx.handles] using hmem
        obtain ⟨c', hc', -⟩ := h.handles j hd hmem' hne
        rw [hfree] at hc'
        cases hc'
      · simp only [GattClient.claim, GattClient.modify_contexts,
          Function.update_of_ne hji] at hmem ⊢
        exact h.handles j hd hmem hne

/-- The invariant only looks at the connections and handles of the contexts. -/
theorem of_same (h : LifetimeInv s) {g : GattClient}
    (hsame : ∀ j, (g.contexts j).Same (s.gatt.contexts j)) :
    LifetimeInv { s with gatt := g } where
  live j c' hj := h.live j c' ((hsame j).1 ▸ hj)
  distinct j k c' hj hk := h.distinct j k c' ((hsame j).1 ▸ hj) ((hsame k).1 ▸ hk)
  handles j hd hmem hne := by
    rw [(hsame j).2] at hmem
    obtain ⟨c', hc', hrep⟩ := h.handles j hd hmem hne
    exact ⟨c', (hsame j).1.trans hc', hrep⟩

/-- Reports only add handles. -/
theorem grow (h : LifetimeInv s) {reported : BtConn → List UInt16}
    (hsub : ∀ c, s.reported c ⊆ reported c) : LifetimeInv { s with reported } where
  live := h.live
  distinct := h.distinct
  handles j hd hmem hne := by
    obtain ⟨c', hc', hrep⟩ := h.handles j hd hmem hne
    exact ⟨c', hc', hsub c' hrep⟩

/-- Storing a handle that is reported. -/
theorem store (h : LifetimeInv s) (hi : (s.gatt.contexts i).conn = some c)
    {chrc : GattChrc} (hrep : chrc.valueHandle ∈ s.reported c) :
    LifetimeInv { s with gatt := s.gatt.modify i (·.store chrc) } := by
  have hconn : ∀ j, ((s.gatt.modify i (·.store chrc)).contexts j).conn =
      (s.gatt.contexts j).conn := by
    intro j
    by_cases hji : j = i
    · subst hji
      rw [GattClient.modify_contexts, Function.update_self]
      unfold GattClientCtx.store
      split_ifs <;> rfl
    · rw [GattClient.modify_contexts, Function.update_of_ne hji]
  refine { live := ?_, distinct := ?_, handles := ?_ }
  · intro j c' hj
    exact h.live j c' (hconn j ▸ hj)
  · intro j k c' hj hk
    exact h.distinct j k c' (hconn j ▸ hj) (hconn k ▸ hk)
  · intro j hd hmem hne
    by_cases hji : j = i
    · subst hji
      refine ⟨c, (hconn j).trans hi, ?_⟩
      simp only [GattClient.modify_contexts, Function.update_self] at hmem
      -- a handle of the context was kept before, or is the one reported now
      rcases mem_handles_store hmem with hold | rfl
      · obtain ⟨c', hc', hr⟩ := h.handles j hd hold hne
        rw [hi] at hc'
        cases hc'
        exact hr
      · exact hrep
    · simp only [GattClient.modify_contexts, Function.update_of_ne hji] at hmem ⊢
      exact h.handles j hd hmem hne

/-- Clearing a context. -/
theorem clear (h : LifetimeInv s) {g : GattClient}
    (hg : g.contexts = Function.update s.gatt.contexts i {}) :
    LifetimeInv { s with gatt := g } := by
  have hconn : ∀ j c', (g.contexts j).conn = some c' →
      j ≠ i ∧ (s.gatt.contexts j).conn = some c' := by
    intro j c' hj
    rw [hg] at hj
    by_cases hji : j = i
    · subst hji
      rw [Function.update_self] at hj
      cases hj
    · rw [Function.update_of_ne hji] at hj
      exact ⟨hji, hj⟩
  refine { live := ?_, distinct := ?_, handles := ?_ }
  · intro j c' hj
    exact h.live j c' (hconn j c' hj).2
  · intro j k c' hj hk
    exact h.distinct j k c' (hconn j c' hj).2 (hconn k c' hk).2
  · intro j hd hmem hne
    change hd ∈ (g.contexts j).handles at hmem
    show ∃ c, (g.contexts j).conn = some c ∧ hd ∈ s.reported c
    rw [hg] at hmem ⊢
    by_cases hji : j = i
    · subst hji
      rw [Function.update_self] at hmem
      -- a context that is given back keeps no handle
      simp only [GattClientCtx.handles, List.mem_cons, List.not_mem_nil, or_false,
        or_self] at hmem
      exact absurd hmem hne
    · rw [Function.update_of_ne hji] at hmem ⊢
      exact h.handles j hd hmem hne

/-- A new connection starts without reports, and has no context yet. -/
theorem establish (h : LifetimeInv s) (hdown : s.up c ≠ true) :
    LifetimeInv { s with
      up := Function.update s.up c true
      reported := Function.update s.reported c [] } := by
  have hne : ∀ j c', (s.gatt.contexts j).conn = some c' → c' ≠ c := by
    rintro j c' hj rfl
    exact hdown (h.live j c' hj)
  refine { live := ?_, distinct := h.distinct, handles := ?_ }
  · intro j c' hj
    show Function.update s.up c true c' = true
    rw [Function.update_of_ne (hne j c' hj)]
    exact h.live j c' hj
  · intro j hd hmem hne0
    obtain ⟨c', hc', hrep⟩ := h.handles j hd hmem hne0
    refine ⟨c', hc', ?_⟩
    show hd ∈ Function.update s.reported c [] c'
    rw [Function.update_of_ne (hne j c' hc')]
    exact hrep

/-- A connection ends that has no context. -/
theorem disconnect (h : LifetimeInv s)
    (hno : ∀ i, (s.gatt.contexts i).conn ≠ some c) :
    LifetimeInv { s with up := Function.update s.up c false } where
  live j c' hj := by
    have hne : c' ≠ c := fun he => hno j (he ▸ hj)
    show Function.update s.up c false c' = true
    rw [Function.update_of_ne hne]
    exact h.live j c' hj
  distinct := h.distinct
  handles := h.handles

end LifetimeInv

theorem subset_report (reported : BtConn → List UInt16) (op : GattOp) (c : BtConn) :
    reported c ⊆ op.report reported c := by
  unfold GattOp.report
  split
  next c' chrc =>
    by_cases hc : c = c'
    · subst hc
      rw [Function.update_self]
      exact List.subset_append_left _ _
    · rw [Function.update_of_ne hc]
      exact List.Subset.refl _
  next => exact List.Subset.refl _

/-- An event within lifetimes keeps the invariant. -/
theorem lifetimeInv_step {s' : GattSystem} {e : GattEvent} (h : LifetimeInv s)
    (hin : WithinLifetime s e) (hstep : gattStep s e = some s') : LifetimeInv s' := by
  cases e with
  | establish c =>
    simp only [gattStep] at hstep
    split at hstep
    next => cases hstep
    next hdown => cases hstep; exact h.establish hdown
  | disconnect c =>
    simp only [gattStep] at hstep
    split at hstep
    next => cases hstep; exact h.disconnect hin
    next => cases hstep
  | op op =>
    simp only [gattStep] at hstep
    split at hstep
    next => cases hstep
    next hconn =>
      cases hstep
      obtain ⟨c, hc⟩ := Option.ne_none_iff_exists'.mp hconn
      have hup : s.up c = true := hin c hc
      have heff := gattEffect s.gatt hc
      generalize (exec op.op s.gatt).2 = g at heff
      cases heff with
      | refused hs => exact h.grow (subset_report s.reported op)
      | touch hs hsame hreq hfresh =>
        exact ((h.claim hs hup).of_same hsame).grow (subset_report s.reported op)
      | @store i chrc hs =>
        -- the report is logged before the handle is stored
        have hgrown := (h.claim hs hup).grow
          (subset_report s.reported (.discoverFunc (some c) (some chrc)))
        refine hgrown.store (c := c) (i := i) (by simp [GattClient.claim]) ?_
        simp [GattOp.report]
      | release hs hctx hreq =>
        exact ((h.claim hs hup).clear hctx).grow (subset_report s.reported op)

/-- Under the invariant every call within lifetimes is safe. -/
theorem LifetimeInv.safe (h : LifetimeInv s) {op : GattOp} {c : BtConn}
    (hc : op.conn = some c) : SafeCall s op where
  fresh := by
    have heff := gattEffect s.gatt hc
    generalize (exec op.op s.gatt).2 = g at heff ⊢
    cases heff with
    | refused hs => simp
    | @touch _ i _ new hs hsame hreq hfresh =>
      rw [hreq, List.drop_left]
      exact hfresh s.reported fun hd hmem hne => h.reported hs hmem hne
    | store hs => simp [GattClient.claim]
    | release hs hctx hreq =>
      rw [hreq, List.drop_left]
      intro r hr
      rw [List.mem_singleton.mp hr]
      trivial
  refused := by
    intro c' hc' hup href
    rw [hc] at hc'
    cases hc'
    have hnone := GattClient.slotOf_eq_none_iff.mp
      (slotOf_of_refused hc href.1 href.2)
    -- every context belongs to another connection
    have hother : ∀ i, ∃ o, (s.gatt.contexts i).conn = some o :=
      fun i => Option.ne_none_iff_exists'.mp (hnone i).2
    choose other hconn using hother
    refine ⟨other, fun i j hij => ?_, fun i => ⟨?_, h.live i _ (hconn i), hconn i⟩⟩
    · exact h.distinct i j (other i) (hconn i) (hij ▸ hconn j)
    · intro he
      exact (hnone i).1 (by rw [hconn i, he])

/-- **No stale handle**: in every run in which no connection ends while it has a
context, and calls and callbacks concern live connections, every call is safe. -/
theorem safe_of_withinLifetime {es : List GattEvent}
    (h : Along gattStep WithinLifetime .boot es) : Along gattStep SafeEvent .boot es := by
  refine along_of_inv lifetimeInv_boot
    (fun s e s' hinv hin hstep => lifetimeInv_step hinv hin hstep) ?_ h
  intro s e hinv _
  cases e with
  | establish c => trivial
  | disconnect c => trivial
  | op op => exact fun c hc => hinv.safe hc

/-- Discovery finds the config characteristic of the peer at handle 21. -/
def discoverConfig : List GattEvent :=
  [.establish 1, .op (.discover (some 1) none 0),
    .op (.discoverFunc (some 1) (some ⟨configCharUuid, 21⟩))]

/-- The application writes the config characteristic of the peer. -/
def writeConfig : GattEvent := .op (.write (some 1) configCharUuid [0] 1 none 0)

/-- Unsubscribing before the connection ends keeps every call safe. -/
theorem safe_with_unsubscribe :
    Along gattStep SafeEvent .boot (discoverConfig ++ [writeConfig,
      .op (.unsubscribe (some 1) readingCharUuid 0), .disconnect 1, .establish 1,
      writeConfig]) :=
  safe_of_withinLifetime (by decide)

/-- The object is handed out again for the next peer, and the config is written to
the handle the previous peer had for it. -/
theorem stale_handle_written : ¬ ∀ es, Along gattStep SafeEvent .boot es := by
  intro h
  have hrun := h ((discoverConfig ++ [.disconnect 1, .establish 1]) ++ [writeConfig])
  have hsafe := (along_snoc.mp hrun).2 _ rfl
  obtain ⟨c, hc, hmem⟩ := (hsafe 1 rfl).fresh
    (.write (some 1) ⟨21, 0, [0], 1⟩) (by decide)
  cases hc
  revert hmem
  decide

end SensorNet.Hub
