import SensorNet.Hub.GattLifetimes
import SensorNet.Hub.GattDiscovery

/-!
# Requests of the GATT client that fail

Each of the five requests gets a context first, claiming one if the connection has none, and
writes the callback into it before it asks the stack. None of the error exits gives the context
back or restores the callback.

- `request_run`: what each request returns and leaves in the table, in one equation.
- `leavesNoTrace_iff`: a request that fails leaves the connections, handles and callbacks of the
  table iff the connection had its context and, where the stack was asked, the callback was
  there already.
- `gattErrors_iff`: the same for whole runs; and no connection ever has two contexts.
-/

namespace SensorNet.Hub

open Fw

/-! ## The requests -/

namespace GattOp

/-- The call is one of the five requests. -/
def IsRequest : GattOp → Prop
  | discover .. | read .. | write .. | subscribe .. | unsubscribe .. => True
  | init | discoverFunc .. | readFunc .. | notifyFunc .. => False

/-- What the stack answers to the request -/
def err : GattOp → Int
  | discover _ _ err | read _ _ _ err | write _ _ _ _ _ err | subscribe _ _ _ err
  | unsubscribe _ _ err => err
  | init | discoverFunc .. | readFunc .. | notifyFunc .. => 0

/-- The request needs a handle that the context does not have. -/
def LacksHandle (ctx : GattClientCtx) : GattOp → Prop
  | read _ uuid _ _ => ctx.readHandle uuid = 0
  | write _ uuid _ _ _ _ => ctx.writeHandle uuid = 0
  | subscribe _ uuid _ _ => ctx.subscribeHandle uuid = 0
  | init | discover .. | unsubscribe .. | discoverFunc .. | readFunc .. | notifyFunc .. => False

instance (ctx : GattClientCtx) : ∀ op : GattOp, Decidable (op.LacksHandle ctx)
  | read _ uuid _ _ => inferInstanceAs (Decidable (ctx.readHandle uuid = 0))
  | write _ uuid _ _ _ _ => inferInstanceAs (Decidable (ctx.writeHandle uuid = 0))
  | subscribe _ uuid _ _ => inferInstanceAs (Decidable (ctx.subscribeHandle uuid = 0))
  | init | discover .. | unsubscribe .. | discoverFunc .. | readFunc .. | notifyFunc .. =>
    isFalse id

/-- What a request that reaches the stack leaves in the context of its connection -/
def leaves (ctx : GattClientCtx) : GattOp → GattClientCtx
  | discover _ cb _ =>
    { ctx with
      discoverCb := cb
      discoverParams := ⟨some sensorServiceUuid, 0x0001, 0xffff⟩ }
  | read _ uuid cb _ => { ctx with readCb := cb, readParams := ⟨1, ctx.readHandle uuid, 0⟩ }
  | write _ uuid data length cb _ =>
    { ctx with writeCb := cb, writeParams := ⟨ctx.writeHandle uuid, 0, data, length⟩ }
  | subscribe _ uuid cb _ =>
    { ctx with
      notifyCb := cb
      subscribeParams := ⟨0x0001, ctx.subscribeHandle uuid, ctx.subscribeHandle uuid + 1⟩ }
  | unsubscribe _ _ err => if err = 0 then {} else ctx
  | init | discoverFunc .. | readFunc .. | notifyFunc .. => ctx

/-- The callback that the request gives is in the context already. -/
def KeepsCallback (ctx : GattClientCtx) : GattOp → Prop
  | discover _ cb _ => ctx.discoverCb = cb
  | read _ _ cb _ => ctx.readCb = cb
  | write _ _ _ _ cb _ => ctx.writeCb = cb
  | subscribe _ _ cb _ => ctx.notifyCb = cb
  | init | unsubscribe .. | discoverFunc .. | readFunc .. | notifyFunc .. => True

end GattOp

variable {d : GattClient} {op : GattOp} {i : Fin maxGattContexts}

theorem claim_contexts_self (d : GattClient) (i : Fin maxGattContexts) (conn : Option BtConn) :
    (d.claim i conn).contexts i = { d.contexts i with conn } := by
  rw [GattClient.claim, GattClient.modify_contexts, Function.update_self]

/-- Two edits of a context that do the same to it -/
theorem modify_contexts_congr {f g : GattClientCtx → GattClientCtx}
    (h : f (d.contexts i) = g (d.contexts i)) :
    (d.modify i f).contexts = (d.modify i g).contexts := by
  rw [GattClient.modify_contexts, GattClient.modify_contexts, h]

/-- A request that needs a handle: without one it fails with its context claimed, with one it
reaches the stack. -/
theorem needsHandle_run {handle : UInt16} {err : Int} {k : Kernel} {conn : Option BtConn}
    {sent : GattClient} {f : GattClientCtx → GattClientCtx}
    (hsent : sent.contexts = ((d.claim i conn).modify i f).contexts) :
    (if handle = 0 then (-eNOENT, Fw.State.mk (d.claim i conn) k) else (err, ⟨sent, k⟩)).1 =
        (if handle = 0 then -eNOENT else err) ∧
      (if handle = 0 then (-eNOENT, Fw.State.mk (d.claim i conn) k)
          else (err, ⟨sent, k⟩)).2.data.contexts =
        if handle = 0 then (d.claim i conn).contexts
        else ((d.claim i conn).modify i f).contexts := by
  by_cases hh : handle = 0
  · simp only [hh, if_true]
    exact ⟨trivial, trivial⟩
  · simp only [hh, if_false]
    exact ⟨trivial, hsent⟩

/-- The result of a request, and the contexts it leaves -/
theorem request_run (hop : op.IsRequest) (d : GattClient) :
    (exec op.op d).1 =
        (match d.slotOf op.conn with
        | none => -eNOMEM
        | some i => if op.LacksHandle (d.contexts i) then -eNOENT else op.err) ∧
      (exec op.op d).2.contexts =
        (match d.slotOf op.conn with
        | none => d.contexts
        | some i =>
          if op.LacksHandle (d.contexts i) then (d.claim i op.conn).contexts
          else ((d.claim i op.conn).modify i fun ctx => op.leaves ctx).contexts) := by
  cases op with
  | init => exact hop.elim
  | discover conn cb err =>
    simp only [exec, GattOp.op, gattClientDiscover_run, GattOp.conn]
    cases d.slotOf conn with
    | none => exact ⟨rfl, rfl⟩
    | some i =>
      simp only [GattOp.LacksHandle]
      exact ⟨rfl, rfl⟩
  | read conn uuid cb err =>
    simp only [exec, GattOp.op, gattClientRead_run, GattOp.conn]
    cases d.slotOf conn with
    | none => exact ⟨rfl, rfl⟩
    | some i =>
      refine needsHandle_run ?_
      simp only [GattClient.send]
      refine modify_contexts_congr ?_
      rw [claim_contexts_self]
      rfl
  | write conn uuid data length cb err =>
    simp only [exec, GattOp.op, gattClientWrite_run, GattOp.conn]
    cases d.slotOf conn with
    | none => exact ⟨rfl, rfl⟩
    | some i =>
      refine needsHandle_run ?_
      simp only [GattClient.send, GattClient.tell]
      refine modify_contexts_congr ?_
      rw [claim_contexts_self]
      rfl
  | subscribe conn uuid cb err =>
    simp only [exec, GattOp.op, gattClientSubscribe_run, GattOp.conn]
    cases d.slotOf conn with
    | none => exact ⟨rfl, rfl⟩
    | some i =>
      refine needsHandle_run ?_
      simp only [GattClient.send]
      refine modify_contexts_congr ?_
      rw [claim_contexts_self]
      rfl
  | unsubscribe conn uuid err =>
    simp only [exec, GattOp.op, gattClientUnsubscribe_run, GattOp.conn]
    cases hs : d.slotOf conn with
    | none => exact ⟨rfl, rfl⟩
    | some i =>
      simp only [GattOp.LacksHandle]
      refine ⟨rfl, ?_⟩
      by_cases herr : err = 0
      · -- the context that is given back is the one of the request
        simp only [herr, if_true, releaseContext_run, GattClient.send]
        rw [GattClient.firstSlot_claim hs]
        rfl
      · -- a request that fails leaves the context with its connection
        simp only [herr, if_false, GattOp.leaves, GattClient.send]
        rw [GattClient.modify_contexts, Function.update_eq_self]
  | discoverFunc conn attr => exact hop.elim
  | readFunc conn err data length => exact hop.elim
  | notifyFunc conn params data length => exact hop.elim

/-- The other calls do not fail. -/
theorem result_nonneg (hop : ¬ op.IsRequest) (d : GattClient) : 0 ≤ (exec op.op d).1 := by
  have hcode : ∀ r : GattIter, 0 ≤ r.code := fun r => by cases r <;> decide
  cases op with
  | init =>
    simp only [exec, GattOp.op, gattClientInit_run]
    exact Int.le_refl 0
  | discoverFunc conn attr => exact hcode _
  | readFunc conn err data length => exact hcode _
  | notifyFunc conn params data length => exact hcode _
  | discover conn cb err => exact absurd trivial hop
  | read conn uuid cb err => exact absurd trivial hop
  | write conn uuid data length cb err => exact absurd trivial hop
  | subscribe conn uuid cb err => exact absurd trivial hop
  | unsubscribe conn uuid err => exact absurd trivial hop

/-- They need no handle and ask the stack for nothing. -/
theorem inert_of_not_request (hop : ¬ op.IsRequest) :
    (∀ ctx, ¬ op.LacksHandle ctx) ∧ op.err = 0 := by
  cases op with
  | init => exact ⟨fun _ => id, rfl⟩
  | discoverFunc conn attr => exact ⟨fun _ => id, rfl⟩
  | readFunc conn err data length => exact ⟨fun _ => id, rfl⟩
  | notifyFunc conn params data length => exact ⟨fun _ => id, rfl⟩
  | discover conn cb err => exact absurd trivial hop
  | read conn uuid cb err => exact absurd trivial hop
  | write conn uuid data length cb err => exact absurd trivial hop
  | subscribe conn uuid cb err => exact absurd trivial hop
  | unsubscribe conn uuid err => exact absurd trivial hop

/-! ## Traces -/

/-- The callbacks a context keeps -/
def GattClientCtx.callbacks (ctx : GattClientCtx) : List (Option AppCallback) :=
  [ctx.discoverCb, ctx.readCb, ctx.writeCb, ctx.notifyCb]

/-- A call that returns a negative value leaves every context its connection, its handles and
its callbacks. -/
def LeavesNoTrace (d : GattClient) (op : GattOp) : Prop :=
  (exec op.op d).1 < 0 → ∀ j,
    ((exec op.op d).2.contexts j).Same (d.contexts j) ∧
      ((exec op.op d).2.contexts j).callbacks = (d.contexts j).callbacks

/-- A request for which there is a context, and which fails nevertheless:
1. the connection had the context before;
2. if the stack refuses the request, the callback had been set before. -/
structure FailsCleanly (d : GattClient) (op : GattOp) : Prop where
  own : ∀ i, d.slotOf op.conn = some i → op.LacksHandle (d.contexts i) ∨ op.err < 0 →
    (d.contexts i).conn = op.conn
  callback : ∀ i, d.slotOf op.conn = some i → ¬ op.LacksHandle (d.contexts i) → op.err < 0 →
    op.KeepsCallback (d.contexts i)

/-- What a refused request leaves in the context has the connection and the handles there
were. -/
theorem leaves_same {ctx : GattClientCtx} (herr : op.err ≠ 0) : (op.leaves ctx).Same ctx := by
  cases op with
  | unsubscribe conn uuid err =>
    change err ≠ 0 at herr
    rw [GattOp.leaves, if_neg herr]
    exact .refl ctx
  | init => exact .refl ctx
  | discover conn cb err => exact ⟨rfl, rfl⟩
  | read conn uuid cb err => exact ⟨rfl, rfl⟩
  | write conn uuid data length cb err => exact ⟨rfl, rfl⟩
  | subscribe conn uuid cb err => exact ⟨rfl, rfl⟩
  | discoverFunc conn attr => exact .refl ctx
  | readFunc conn err data length => exact .refl ctx
  | notifyFunc conn params data length => exact .refl ctx

/-- It has the callbacks there were iff that of the request was. -/
theorem leaves_callbacks_iff {ctx : GattClientCtx} (herr : op.err ≠ 0) :
    (op.leaves ctx).callbacks = ctx.callbacks ↔ op.KeepsCallback ctx := by
  cases op with
  | unsubscribe conn uuid err =>
    change err ≠ 0 at herr
    rw [GattOp.leaves, if_neg herr]
    exact iff_of_true rfl trivial
  | init => exact iff_of_true rfl trivial
  | discover conn cb err =>
    simp [GattOp.leaves, GattOp.KeepsCallback, GattClientCtx.callbacks, eq_comm]
  | read conn uuid cb err =>
    simp [GattOp.leaves, GattOp.KeepsCallback, GattClientCtx.callbacks, eq_comm]
  | write conn uuid data length cb err =>
    simp [GattOp.leaves, GattOp.KeepsCallback, GattClientCtx.callbacks, eq_comm]
  | subscribe conn uuid cb err =>
    simp [GattOp.leaves, GattOp.KeepsCallback, GattClientCtx.callbacks, eq_comm]
  | discoverFunc conn attr => exact iff_of_true rfl trivial
  | readFunc conn err data length => exact iff_of_true rfl trivial
  | notifyFunc conn params data length => exact iff_of_true rfl trivial

/-- The callbacks of a context do not depend on whose it is. -/
theorem keepsCallback_conn (ctx : GattClientCtx) (conn : Option BtConn) :
    op.KeepsCallback { ctx with conn } ↔ op.KeepsCallback ctx := by
  cases op <;> rfl

/-- A table in which one context was written is as before iff that context is. -/
theorem same_update_iff {contexts : Fin maxGattContexts → GattClientCtx} {ctx : GattClientCtx} :
    (∀ j, (Function.update contexts i ctx j).Same (contexts j) ∧
        (Function.update contexts i ctx j).callbacks = (contexts j).callbacks) ↔
      ctx.Same (contexts i) ∧ ctx.callbacks = (contexts i).callbacks := by
  constructor
  · intro h
    have hi := h i
    rwa [Function.update_self] at hi
  · intro h j
    by_cases hj : j = i
    · subst hj
      rwa [Function.update_self]
    · rw [Function.update_of_ne hj]
      exact ⟨.refl _, rfl⟩

/-- The table after a context was claimed and written -/
theorem claim_modify_contexts (d : GattClient) (i : Fin maxGattContexts) (conn : Option BtConn)
    (f : GattClientCtx → GattClientCtx) :
    ((d.claim i conn).modify i f).contexts =
      Function.update d.contexts i (f { d.contexts i with conn }) := by
  rw [GattClient.modify_contexts, claim_contexts_self, GattClient.claim,
    GattClient.modify_contexts, Function.update_idem]

/-- Failing cleanly, for a call that gets a context -/
theorem failsCleanly_iff (hs : d.slotOf op.conn = some i) :
    FailsCleanly d op ↔
      (op.LacksHandle (d.contexts i) ∨ op.err < 0 → (d.contexts i).conn = op.conn) ∧
        (¬ op.LacksHandle (d.contexts i) → op.err < 0 → op.KeepsCallback (d.contexts i)) := by
  constructor
  · intro h
    exact ⟨h.own i hs, h.callback i hs⟩
  · rintro ⟨hown, hcallback⟩
    refine { own := fun j hj => ?_, callback := fun j hj => ?_ }
    · rw [hs] at hj
      cases hj
      exact hown
    · rw [hs] at hj
      cases hj
      exact hcallback

/-- **Errors without a trace**: a call that fails leaves the connections, handles and callbacks
of the table iff it fails cleanly. -/
theorem leavesNoTrace_iff (d : GattClient) (op : GattOp) :
    LeavesNoTrace d op ↔ FailsCleanly d op := by
  by_cases hop : op.IsRequest
  · obtain ⟨hres, hctx⟩ := request_run hop d
    unfold LeavesNoTrace
    rw [hres, hctx]
    cases hs : d.slotOf op.conn with
    | none =>
      refine iff_of_true (fun _ j => ⟨.refl _, rfl⟩)
        { own := fun i hi => ?_, callback := fun i hi => ?_ }
      · rw [hs] at hi
        cases hi
      · rw [hs] at hi
        cases hi
    | some i =>
      rw [failsCleanly_iff hs]
      dsimp only
      by_cases hh : op.LacksHandle (d.contexts i)
      · -- the context has been claimed
        have hclaimed : (∀ j, ((d.claim i op.conn).contexts j).Same (d.contexts j) ∧
            ((d.claim i op.conn).contexts j).callbacks = (d.contexts j).callbacks) ↔
              (d.contexts i).conn = op.conn := by
          rw [GattClient.claim, GattClient.modify_contexts, same_update_iff]
          exact ⟨fun h => h.1.1.symm, fun h => ⟨⟨h.symm, rfl⟩, rfl⟩⟩
        simp only [hh, if_true, hclaimed, true_or, true_imp_iff, not_true_eq_false,
          false_imp_iff, and_true]
        exact imp_iff_right (by decide)
      · simp only [hh, if_false, false_or, not_false_eq_true, true_imp_iff]
        by_cases herr : op.err < 0
        · -- it has been claimed, and the callback set
          have hne : op.err ≠ 0 := Int.ne_of_lt herr
          simp only [herr, true_imp_iff]
          rw [claim_modify_contexts, same_update_iff]
          refine and_congr ?_ ?_
          · have hsame : (op.leaves { d.contexts i with conn := op.conn }).Same
                { d.contexts i with conn := op.conn } := leaves_same hne
            exact ⟨fun h => (hsame.1.symm.trans h.1).symm,
              fun h => ⟨hsame.1.trans h.symm, hsame.2⟩⟩
          · rw [← keepsCallback_conn (d.contexts i) op.conn, ← leaves_callbacks_iff hne]
            rfl
        · simp only [herr, false_imp_iff, and_self]
  · -- an initialization or a callback does not fail
    refine iff_of_true (fun hneg => absurd hneg (Int.not_lt.mpr (result_nonneg hop d))) ?_
    obtain ⟨hlacks, herr⟩ := inert_of_not_request hop
    refine { own := fun i _ hfails => ?_, callback := fun i _ _ hneg => ?_ }
    · rcases hfails with hfails | hneg
      · exact absurd hfails (hlacks _)
      · rw [herr] at hneg
        exact absurd hneg (Int.lt_irrefl 0)
    · rw [herr] at hneg
      exact absurd hneg (Int.lt_irrefl 0)

/-! ## Owners -/

/-- No connection has two contexts. -/
def OwnsOnce (d : GattClient) : Prop :=
  ∀ c i j, (d.contexts i).conn = some c → (d.contexts j).conn = some c → i = j

/-- Editing a context without touching its connection -/
theorem conn_modify {f : GattClientCtx → GattClientCtx} (hf : ∀ ctx, (f ctx).conn = ctx.conn)
    (j : Fin maxGattContexts) : ((d.modify i f).contexts j).conn = (d.contexts j).conn := by
  by_cases hj : j = i
  · subst hj
    rw [GattClient.modify_contexts, Function.update_self, hf]
  · rw [GattClient.modify_contexts, Function.update_of_ne hj]

/-- What a call does to the owners of the contexts, by case:
1. all contexts are free after it;
2. nothing;
3. the context that the connection of the call has or gets becomes its own, or free. -/
inductive OwnersChange (d : GattClient) (op : GattOp) (d' : GattClient) : Prop where
  | cleared : (∀ j, (d'.contexts j).conn = none) → OwnersChange d op d'
  | same : (∀ j, (d'.contexts j).conn = (d.contexts j).conn) → OwnersChange d op d'
  | got (i : Fin maxGattContexts) : d.slotOf op.conn = some i →
      (∀ j, j ≠ i → (d'.contexts j).conn = (d.contexts j).conn) →
      ((d'.contexts i).conn = op.conn ∨ (d'.contexts i).conn = none) → OwnersChange d op d'

namespace OwnersChange

variable {d' : GattClient}

/-- A context was claimed, and no owner changed after that. -/
theorem claimed (hs : d.slotOf op.conn = some i)
    (h : ∀ j, (d'.contexts j).conn = ((d.claim i op.conn).contexts j).conn) :
    OwnersChange d op d' := by
  refine .got i hs (fun j hj => ?_) (.inl ?_)
  · rw [h j, GattClient.claim, GattClient.modify_contexts, Function.update_of_ne hj]
  · rw [h i, claim_contexts_self]

/-- No change makes a connection own two contexts. -/
theorem ownsOnce (h : OwnersChange d op d') (hd : OwnsOnce d) : OwnsOnce d' := by
  intro c j k hj hk
  cases h with
  | cleared hnone =>
    rw [hnone j] at hj
    cases hj
  | same hsame => exact hd c j k (hsame j ▸ hj) (hsame k ▸ hk)
  | got i hs hother hi =>
    -- whoever owns the context now, it owned no other one
    have hnew : ∀ m, m ≠ i → (d'.contexts i).conn = some c → (d'.contexts m).conn ≠ some c := by
      intro m hm hown hm'
      rcases hi with hi | hi
      · rw [hother m hm] at hm'
        have hconn : op.conn = some c := hi.symm.trans hown
        rcases GattClient.conn_of_slotOf hs with hold | ⟨-, hnone⟩
        · exact hm (hd c m i hm' (hold.trans hconn))
        · exact hnone m (hm'.trans hconn.symm)
      · rw [hi] at hown
        cases hown
    by_cases hji : j = i
    · by_cases hki : k = i
      · rw [hji, hki]
      · exact absurd hk (hnew k hki (hji ▸ hj))
    · by_cases hki : k = i
      · exact absurd hj (hnew j hji (hki ▸ hk))
      · exact hd c j k (hother j hji ▸ hj) (hother k hki ▸ hk)

end OwnersChange

/-- What a request that reaches the stack leaves has the connection of the request, or none. -/
theorem leaves_conn (ctx : GattClientCtx) :
    (op.leaves ctx).conn = ctx.conn ∨ (op.leaves ctx).conn = none := by
  cases op with
  | unsubscribe conn uuid err =>
    by_cases herr : err = 0
    · rw [GattOp.leaves, if_pos herr]
      exact .inr rfl
    · rw [GattOp.leaves, if_neg herr]
      exact .inl rfl
  | init => exact .inl rfl
  | discover conn cb err => exact .inl rfl
  | read conn uuid cb err => exact .inl rfl
  | write conn uuid data length cb err => exact .inl rfl
  | subscribe conn uuid cb err => exact .inl rfl
  | discoverFunc conn attr => exact .inl rfl
  | readFunc conn err data length => exact .inl rfl
  | notifyFunc conn params data length => exact .inl rfl

theorem request_owners (hop : op.IsRequest) (d : GattClient) :
    OwnersChange d op (exec op.op d).2 := by
  obtain ⟨-, hctx⟩ := request_run hop d
  cases hs : d.slotOf op.conn with
  | none =>
    rw [hs] at hctx
    exact .same fun j => by rw [hctx]
  | some i =>
    rw [hs] at hctx
    dsimp only at hctx
    by_cases hh : op.LacksHandle (d.contexts i)
    · rw [if_pos hh] at hctx
      exact .claimed hs fun j => by rw [hctx]
    · rw [if_neg hh, claim_modify_contexts] at hctx
      refine .got i hs (fun j hj => ?_) ?_
      · rw [hctx, Function.update_of_ne hj]
      · rw [hctx, Function.update_self]
        exact leaves_conn _

/-- Every call and callback changes the owners in one of the three ways. -/
theorem ownersChange (d : GattClient) (op : GattOp) : OwnersChange d op (exec op.op d).2 := by
  by_cases hop : op.IsRequest
  · exact request_owners hop d
  · cases op with
    | init =>
      refine .cleared fun j => ?_
      simp only [exec, GattOp.op, gattClientInit_run]
    | discoverFunc conn attr =>
      show OwnersChange d _ ((discoverFunc conn attr).run ⟨d, .boot⟩).2.data
      cases attr with
      | none =>
        rw [discoverFunc_done_run]
        cases hs : d.slotOf conn with
        | none => exact .same fun _ => rfl
        | some i => exact .claimed hs fun _ => rfl
      | some chrc =>
        rw [discoverFunc_attr_run]
        cases hs : d.slotOf conn with
        | none => exact .same fun _ => rfl
        | some i => exact .claimed hs fun j => conn_modify (store_conn · chrc) j
    | readFunc conn err data length =>
      obtain ⟨calls, h⟩ := readFunc_run conn err data length d .boot
      show OwnersChange d _ ((readFunc conn err data length).run ⟨d, .boot⟩).2.data
      rw [h]
      cases hs : d.slotOf conn with
      | none => exact .same fun _ => rfl
      | some i => exact .claimed hs fun _ => rfl
    | notifyFunc conn params data length =>
      show OwnersChange d _ ((notifyFunc conn params data length).run ⟨d, .boot⟩).2.data
      rw [notifyFunc_run]
      cases hs : d.slotOf conn with
      | none => exact .same fun _ => rfl
      | some i =>
        cases data with
        | none =>
          refine .claimed hs fun j => ?_
          dsimp only
          refine conn_modify ?_ j
          exact fun _ => rfl
        | some bytes => exact .claimed hs fun _ => rfl
    | discover conn cb err => exact absurd trivial hop
    | read conn uuid cb err => exact absurd trivial hop
    | write conn uuid data length cb err => exact absurd trivial hop
    | subscribe conn uuid cb err => exact absurd trivial hop
    | unsubscribe conn uuid err => exact absurd trivial hop

/-! ## Runs -/

/-- One call or callback -/
def GattClient.step : GattClient → GattOp → Option GattClient :=
  always fun d op => (exec op.op d).2

/-- No connection has two contexts, after any run. -/
theorem ownsOnce_run {ops : List GattOp} (hrun : run GattClient.step .boot ops = some d) :
    OwnsOnce d := by
  refine run_inv (P := OwnsOnce) ?_ ?_ hrun
  · intro c i j hi
    cases hi
  · rintro d op _ hd ⟨⟩
    exact (ownersChange d op).ownsOnce hd

/-- **Errors of the GATT client**: in every run of calls and callbacks after
`gatt_client_init`, whatever the stack answers, no connection ever has two contexts; and every
call that fails leaves the connections, handles and callbacks of the table iff each fails
cleanly. -/
theorem gattErrors_iff (ops : List GattOp) :
    (∀ k d, run GattClient.step .boot (ops.take k) = some d → OwnsOnce d) ∧
      (Along GattClient.step LeavesNoTrace .boot ops ↔
        Along GattClient.step FailsCleanly .boot ops) := by
  refine ⟨fun k d hrun => ownsOnce_run hrun, ?_⟩
  exact along_iff_along (J := fun _ => True) trivial (fun d op _ => leavesNoTrace_iff d op)
    fun _ _ _ _ _ _ => trivial

/-- A read of a connection that has not been discovered. -/
def readBeforeDiscovery : List GattOp := [.read (some 1) readingCharUuid (some 1) 0]

/-- The read fails with `-ENOENT`, and from then on the connection has a context. -/
theorem context_leaked : ¬ ∀ ops, Along GattClient.step LeavesNoTrace .boot ops := by
  intro h
  have htrace := (h readBeforeDiscovery).1 (by decide) ⟨0, by decide⟩
  have hconn : some 1 = none := htrace.1.1
  cases hconn

end SensorNet.Hub
