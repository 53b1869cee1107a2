import SensorNet.Hub.GattErrors
import SensorNet.Lib.KeyedService

/-!
# The contexts of the GATT client are a map

What the table of contexts is for: each connection has a context of its own, and the requests
and callbacks of a connection depend on what was done with that connection and nothing else.
Slots, and pointers into the table, are not part of that.

- `ContextOp.effect` says what one call gives and leaves, as a function of the context of its
  connection; `contextService` keeps such contexts for at most `MAX_GATT_CONTEXTS` connections.
- `gattClient_observes`: from `gatt_client_init` on, every sequence of calls on the table gives
  what it gives on the map: the results, the requests to the stack, and the calls of the
  application.
- `gattClient_isolated`: so up to three connections do not notice each other.

Of an unsubscribe request this says that it is made and for which connection, not from what.
There connections do notice each other: the stack keeps a pointer to the subscription, and
`notify_func` sets its `value_handle` to zero when the stack reports the end of a subscription,
also after the context was given to another connection, which then unsubscribes from handle
zero.
-/

namespace SensorNet.Hub

open Fw

/-! ## What a call gives and leaves -/

/-- A request or callback for a connection -/
abbrev ContextOp := {op : GattOp // op.conn.isSome}

/-- The connection it is for -/
def ContextOp.about (op : ContextOp) : BtConn := op.1.conn.get op.2

/-- What is seen of a call: its result, the requests to the stack (of an unsubscribe request,
that it is made), and the calls of the application. -/
structure Seen where
  result : Int
  requests : List StackRequest
  appCalls : List AppCall
  deriving DecidableEq

/-- A request, without what an unsubscribe request asks to unsubscribe from: a late end of
another connection's subscription may have changed that. -/
def StackRequest.seen : StackRequest → StackRequest
  | unsubscribe conn _ => unsubscribe conn {}
  | r => r

/-- What later calls can tell of a context: its handles and callbacks -/
def GattClientCtx.shown (ctx : GattClientCtx) : GattClientCtx :=
  { ctx with
    conn := none
    discoverParams := {}
    readParams := {}
    writeParams := {}
    subscribeParams := {} }

/-- A request that needs a handle: without it, it fails and leaves the context as it is. -/
def withHandle (ctx : GattClientCtx) (handle : UInt16) (given : Seen × Option GattClientCtx) :
    Seen × Option GattClientCtx :=
  if handle = 0 then (⟨-eNOENT, [], []⟩, some ctx) else given

/-- What a call gives, and what it leaves of the context of its connection: `none` if the
context is given back -/
def GattOp.effect (op : GattOp) (ctx : GattClientCtx) : Seen × Option GattClientCtx :=
  match op with
  | init => (⟨0, [], []⟩, some ctx)
  | discover conn cb err =>
    (⟨err, [.discover conn ⟨some sensorServiceUuid, 0x0001, 0xffff⟩], []⟩,
      some { ctx with discoverCb := cb })
  | read conn uuid cb err =>
    withHandle ctx (ctx.readHandle uuid)
      (⟨err, [.read conn ⟨1, ctx.readHandle uuid, 0⟩], []⟩, some { ctx with readCb := cb })
  | write conn uuid data length cb err =>
    withHandle ctx (ctx.writeHandle uuid)
      (⟨err, [.write conn ⟨ctx.writeHandle uuid, 0, data, length⟩],
        if err = 0 then cb.toList.map fun cb => .written cb conn 0 else []⟩,
      some { ctx with writeCb := cb })
  | subscribe conn uuid cb err =>
    withHandle ctx (ctx.subscribeHandle uuid)
      (⟨err, [.subscribe conn ⟨0x0001, ctx.subscribeHandle uuid, ctx.subscribeHandle uuid + 1⟩],
        []⟩, some { ctx with notifyCb := cb })
  | unsubscribe conn _ err =>
    (⟨err, [.unsubscribe conn {}], []⟩, if err = 0 then none else some ctx)
  | discoverFunc conn none =>
    (⟨GattIter.stop.code, [], ctx.discoverCb.toList.map fun cb => .discovered cb conn 0⟩,
      some ctx)
  | discoverFunc _ (some chrc) => (⟨GattIter.continue.code, [], []⟩, some (ctx.store chrc))
  | readFunc conn err data length =>
    if err ≠ 0 then
      (⟨GattIter.stop.code, [], ctx.readCb.toList.map fun cb => .read cb conn err.toNat none 0⟩,
        some ctx)
    else match data with
      | none => (⟨GattIter.stop.code, [], []⟩, some ctx)
      | some bytes =>
        (⟨GattIter.continue.code, [],
          ctx.readCb.toList.map fun cb => .read cb conn 0 (some bytes) length⟩, some ctx)
  | notifyFunc _ _ none _ => (⟨GattIter.stop.code, [], []⟩, some ctx)
  | notifyFunc conn _ (some bytes) length =>
    (⟨GattIter.continue.code, [],
      ctx.notifyCb.toList.map fun cb => .notified cb conn bytes length⟩, some ctx)

/-- What a call gives for which there is no context: a request fails, and a callback stops. -/
def GattOp.refused : GattOp → Seen
  | init | discoverFunc .. | readFunc .. | notifyFunc .. => ⟨GattIter.stop.code, [], []⟩
  | discover .. | read .. | write .. | subscribe .. | unsubscribe .. => ⟨-eNOMEM, [], []⟩

/-- The GATT client, without slots -/
def contextService : KeyedService BtConn GattClientCtx ContextOp Seen where
  capacity := maxGattContexts
  fresh := {}
  about := ContextOp.about
  effect op := op.1.effect
  refused op := op.1.refused

/-! ## What is seen of the table -/

/-- What is seen of a call: what it adds to what was asked and told so far -/
def GattClient.see (d : GattClient) (op : GattOp) : Seen :=
  let r := exec op.op d
  ⟨r.1, (r.2.requests.drop d.requests.length).map StackRequest.seen,
    r.2.appCalls.drop d.appCalls.length⟩

/-- What is seen of a sequence of calls, each with its connection -/
def GattClient.observe (d : GattClient) : List ContextOp → List (BtConn × Seen)
  | [] => []
  | op :: ops => (op.about, d.see op.1) :: observe (exec op.1.op d).2 ops

/-- The table holds the contexts. -/
def GattClient.Holds (d : GattClient) (m : Finmap fun _ : BtConn => GattClientCtx) : Prop :=
  KeyedService.Holds GattClientCtx.conn GattClientCtx.shown {} d.contexts m

/-- The client after `gatt_client_init`, on any memory -/
def GattClient.initialized (d₀ : GattClient) : GattClient := (exec gattClientInit d₀).2

theorem initialized_holds (d₀ : GattClient) : d₀.initialized.Holds ∅ := by
  have hcontexts : d₀.initialized.contexts = fun _ => {} := by
    rw [GattClient.initialized, exec, gattClientInit_run]
  refine .empty (fun i => ?_) fun i => ?_
  · rw [hcontexts]
  · rw [hcontexts]
    rfl

/-! ## One call -/

/-- The contexts differ at most in slot `i`, as far as later calls can tell. -/
def SameElsewhere (d d' : GattClient) (i : Fin maxGattContexts) : Prop :=
  ∀ j, j ≠ i → (d'.contexts j).conn = (d.contexts j).conn ∧
    (d'.contexts j).shown = (d.contexts j).shown

/-- What a call for the connection `c` does that gets the context `i`:
1. it gives what its effect says, for what the context shows;
2. it asks and tells no more than that;
3. it leaves the other contexts,
4. and in the context what the effect says. -/
structure CallEffect (d : GattClient) (c : BtConn) (i : Fin maxGattContexts) (op : GattOp)
    (result : Int) (d' : GattClient) : Prop where
  seen : ∃ requests, d'.requests = d.requests ++ requests ∧
    ∃ appCalls, d'.appCalls = d.appCalls ++ appCalls ∧
      (op.effect (d.contexts i).shown).1 = ⟨result, requests.map StackRequest.seen, appCalls⟩
  elsewhere : SameElsewhere d d' i
  leaves : (d'.contexts i).conn = (op.effect (d.contexts i).shown).2.map (fun _ => c) ∧
    (d'.contexts i).shown = (op.effect (d.contexts i).shown).2.getD {}

section
variable {d d' : GattClient} {c : BtConn} {i : Fin maxGattContexts} {op : GattOp}

theorem shown_store (ctx : GattClientCtx) (chrc : GattChrc) :
    (ctx.store chrc).shown = ctx.shown.store chrc ∧ (ctx.store chrc).conn = ctx.conn := by
  unfold GattClientCtx.store
  split
  · exact ⟨rfl, rfl⟩
  split
  · exact ⟨rfl, rfl⟩
  split
  · exact ⟨rfl, rfl⟩
  split
  · exact ⟨rfl, rfl⟩
  split
  · exact ⟨rfl, rfl⟩
  · exact ⟨rfl, rfl⟩

/-- A table in which only slot `i` was written -/
theorem sameElsewhere_update {ctx : GattClientCtx}
    (h : d'.contexts = Function.update d.contexts i ctx) : SameElsewhere d d' i := by
  intro j hj
  rw [h, Function.update_of_ne hj]
  exact ⟨rfl, rfl⟩

/-- A call that writes one context, which it may ask and tell with -/
theorem CallEffect.of_update {result : Int} {requests : List StackRequest}
    {appCalls : List AppCall} (ctx : GattClientCtx)
    (hcontexts : d'.contexts = Function.update d.contexts i ctx)
    (hrequests : d'.requests = d.requests ++ requests)
    (happCalls : d'.appCalls = d.appCalls ++ appCalls)
    (hseen : (op.effect (d.contexts i).shown).1 =
      ⟨result, requests.map StackRequest.seen, appCalls⟩)
    (hconn : ctx.conn = (op.effect (d.contexts i).shown).2.map fun _ => c)
    (hshown : ctx.shown = (op.effect (d.contexts i).shown).2.getD {}) :
    CallEffect d c i op result d' := by
  refine ⟨⟨_, hrequests, _, happCalls, hseen⟩, sameElsewhere_update hcontexts, ?_⟩
  rw [hcontexts, Function.update_self]
  exact ⟨hconn, hshown⟩

/-- A call that only claims its context -/
theorem CallEffect.of_claim {result : Int} {appCalls : List AppCall}
    (hcontexts : d'.contexts = (d.claim i (some c)).contexts)
    (hrequests : d'.requests = d.requests) (happCalls : d'.appCalls = d.appCalls ++ appCalls)
    (heffect : op.effect (d.contexts i).shown =
      (⟨result, [], appCalls⟩, some (d.contexts i).shown)) :
    CallEffect d c i op result d' := by
  refine .of_update { d.contexts i with conn := some c } hcontexts
    (hrequests.trans (List.append_nil _).symm) happCalls ?_ ?_ ?_
  · rw [heffect]
    rfl
  · rw [heffect]
    rfl
  · rw [heffect]
    rfl

/-- A call that claims its context, and writes through a pointer to any context what later calls
cannot tell -/
theorem CallEffect.of_pointer {result : Int} {params : Fin maxGattContexts} {ctx : GattClientCtx}
    (hcontexts : d'.contexts = Function.update (d.claim i (some c)).contexts params ctx)
    (hrequests : d'.requests = d.requests) (happCalls : d'.appCalls = d.appCalls)
    (hconn : ctx.conn = ((d.claim i (some c)).contexts params).conn)
    (hshown : ctx.shown = ((d.claim i (some c)).contexts params).shown)
    (heffect : op.effect (d.contexts i).shown = (⟨result, [], []⟩, some (d.contexts i).shown)) :
    CallEffect d c i op result d' := by
  have hclaim : CallEffect d c i op result (d.claim i (some c)) :=
    .of_claim rfl rfl (List.append_nil _).symm heffect
  -- the context that the pointer points to shows nothing of the write
  have hsame : ∀ j, (d'.contexts j).conn = ((d.claim i (some c)).contexts j).conn ∧
      (d'.contexts j).shown = ((d.claim i (some c)).contexts j).shown := by
    intro j
    rw [hcontexts]
    by_cases hj : j = params
    · subst hj
      rw [Function.update_self]
      exact ⟨hconn, hshown⟩
    · rw [Function.update_of_ne hj]
      exact ⟨rfl, rfl⟩
  refine ⟨⟨[], by simp [hrequests], [], by simp [happCalls], by rw [heffect]; rfl⟩,
    fun j hj => ?_, ?_⟩
  · rw [(hsame j).1, (hsame j).2]
    exact hclaim.elsewhere j hj
  · rw [(hsame i).1, (hsame i).2]
    exact hclaim.leaves

/-- A call that edits its context, makes one request and tells the application -/
theorem CallEffect.askTell {result : Int} {f : GattClientCtx → GattClientCtx} {r : StackRequest}
    {appCalls : List AppCall} {left : Option GattClientCtx}
    (heffect : op.effect (d.contexts i).shown = (⟨result, [r.seen], appCalls⟩, left))
    (hconn : (f { d.contexts i with conn := some c }).conn = left.map fun _ => c)
    (hshown : (f { d.contexts i with conn := some c }).shown = left.getD {}) :
    CallEffect d c i op result ((((d.claim i (some c)).modify i f).send r).tell appCalls) := by
  refine .of_update _ (claim_modify_contexts d i (some c) f) rfl rfl ?_ ?_ ?_
  · rw [heffect]
    rfl
  · rw [heffect]
    exact hconn
  · rw [heffect]
    exact hshown

/-- A call that edits its context and makes one request -/
theorem CallEffect.ask {result : Int} {f : GattClientCtx → GattClientCtx} {r : StackRequest}
    {left : Option GattClientCtx}
    (heffect : op.effect (d.contexts i).shown = (⟨result, [r.seen], []⟩, left))
    (hconn : (f { d.contexts i with conn := some c }).conn = left.map fun _ => c)
    (hshown : (f { d.contexts i with conn := some c }).shown = left.getD {}) :
    CallEffect d c i op result (((d.claim i (some c)).modify i f).send r) := by
  have h := CallEffect.askTell heffect hconn hshown
  rwa [GattClient.tell, List.append_nil] at h

/-- A request that needs a handle -/
theorem CallEffect.withHandle {handle : UInt16} {err : Int} {k : Kernel} {sent : GattClient}
    {given : Seen × Option GattClientCtx}
    (heffect : op.effect (d.contexts i).shown = Hub.withHandle (d.contexts i).shown handle given)
    (hsent : handle ≠ 0 → op.effect (d.contexts i).shown = given →
      CallEffect d c i op err sent) :
    CallEffect d c i op
      (if handle = 0 then (-eNOENT, Fw.State.mk (d.claim i (some c)) k) else (err, ⟨sent, k⟩)).1
      (if handle = 0 then (-eNOENT, Fw.State.mk (d.claim i (some c)) k)
        else (err, ⟨sent, k⟩)).2.data := by
  unfold Hub.withHandle at heffect
  by_cases hh : handle = 0
  · simp only [hh, if_true] at heffect ⊢
    exact .of_claim rfl rfl (List.append_nil _).symm heffect
  · simp only [hh, if_false] at heffect ⊢
    exact hsent hh heffect

/-- What a call for a connection does: with a context as its effect says, and without one
nothing. -/
theorem callEffect (d : GattClient) {c : BtConn} {op : GattOp} (hc : op.conn = some c) :
    match d.slotOf (some c) with
    | some i => CallEffect d c i op (exec op.op d).1 (exec op.op d).2
    | none => exec op.op d = (op.refused.result, d) := by
  cases op with
  | init => cases hc
  | discover conn cb err =>
    cases hc
    simp only [exec, GattOp.op, gattClientDiscover_run]
    cases d.slotOf (some c) with
    | none => rfl
    | some i =>
      exact .ask rfl rfl rfl
  | read conn uuid cb err =>
    cases hc
    simp only [exec, GattOp.op, gattClientRead_run]
    cases d.slotOf (some c) with
    | none => rfl
    | some i =>
      refine .withHandle rfl fun _ heffect => ?_
      exact .ask heffect rfl rfl
  | write conn uuid data length cb err =>
    cases hc
    simp only [exec, GattOp.op, gattClientWrite_run]
    cases d.slotOf (some c) with
    | none => rfl
    | some i =>
      refine .withHandle rfl fun _ heffect => ?_
      exact .askTell heffect rfl rfl
  | subscribe conn uuid cb err =>
    cases hc
    simp only [exec, GattOp.op, gattClientSubscribe_run]
    cases d.slotOf (some c) with
    | none => rfl
    | some i =>
      refine .withHandle rfl fun _ heffect => ?_
      exact .ask heffect rfl rfl
  | unsubscribe conn uuid err =>
    cases hc
    simp only [exec, GattOp.op, gattClientUnsubscribe_run]
    cases hs : d.slotOf (some c) with
    | none => rfl
    | some i =>
      by_cases herr : err = 0
      · -- the context that is given back is the one of the request
        simp only [herr, if_true, releaseContext_run, GattClient.send]
        rw [GattClient.firstSlot_claim hs]
        refine .of_update _ (claim_modify_contexts d i (some c) fun _ => {}) rfl
          (List.append_nil _).symm rfl ?_ ?_
        · rw [GattOp.effect, if_pos rfl]
          rfl
        · rw [GattOp.effect, if_pos rfl]
          rfl
      · simp only [herr, if_false]
        refine .of_update { d.contexts i with conn := some c } rfl rfl
          (List.append_nil _).symm rfl ?_ ?_
        · rw [GattOp.effect, if_neg herr]
          rfl
        · rw [GattOp.effect, if_neg herr]
          rfl
  | discoverFunc conn attr =>
    cases hc
    cases attr with
    | none =>
      simp only [exec, GattOp.op, run_map, discoverFunc_done_run]
      cases d.slotOf (some c) with
      | none => rfl
      | some i => exact .of_claim rfl rfl rfl rfl
    | some chrc =>
      simp only [exec, GattOp.op, run_map, discoverFunc_attr_run]
      cases d.slotOf (some c) with
      | none => rfl
      | some i =>
        refine .of_update _ (claim_modify_contexts ..) (List.append_nil _).symm
          (List.append_nil _).symm rfl ?_ ?_
        · exact (shown_store _ chrc).2
        · exact (shown_store _ chrc).1
  | readFunc conn err data length =>
    cases hc
    simp only [exec, GattOp.op, run_map]
    unfold Hub.readFunc
    rw [run_bind, getContext_run]
    cases d.slotOf (some c) with
    | none => rfl
    | some i =>
      by_cases herr : err = 0
      · cases data with
        | none =>
          simp only [herr, ne_eq, not_true_eq_false, if_false, run_pure]
          exact .of_claim rfl rfl (List.append_nil _).symm rfl
        | some bytes =>
          simp only [herr, ne_eq, not_true_eq_false, if_false, run_bind, run_statics, run_callBack,
            run_pure, claim_contexts_self]
          exact .of_claim rfl rfl rfl rfl
      · simp only [herr, ne_eq, not_false_eq_true, if_true, run_bind, run_statics, run_callBack,
          run_pure, claim_contexts_self]
        exact .of_claim rfl rfl rfl (if_pos herr)
  | notifyFunc conn params data length =>
    cases hc
    simp only [exec, GattOp.op, run_map]
    unfold Hub.notifyFunc
    rw [run_bind, getContext_run]
    cases d.slotOf (some c) with
    | none => rfl
    | some i =>
      cases data with
      | none =>
        simp only [run_bind, run_setCtx, run_pure]
        -- the write goes through the pointer, to whatever context that is
        exact .of_pointer rfl rfl rfl rfl rfl rfl
      | some bytes =>
        simp only [run_bind, run_statics, run_callBack, run_pure, claim_contexts_self]
        exact .of_claim rfl rfl rfl rfl

end

/-! ## The table is the map -/

section
variable {d : GattClient} {m : Finmap fun _ : BtConn => GattClientCtx}

/-- A call that does as its effect says is seen so. -/
theorem CallEffect.see {d : GattClient} {c : BtConn} {i : Fin maxGattContexts} {op : GattOp}
    (h : CallEffect d c i op (exec op.op d).1 (exec op.op d).2) :
    d.see op = (op.effect (d.contexts i).shown).1 := by
  obtain ⟨requests, hrequests, appCalls, happCalls, hseen⟩ := h.seen
  rw [GattClient.see, hseen, hrequests, happCalls, List.drop_left, List.drop_left]

/-- **One call**: on a table that holds the contexts, what is seen of it is what the map gives,
and the new table holds the new contexts. -/
theorem see_step (h : d.Holds m) (op : ContextOp) :
    d.see op.1 = (contextService.step m op).1 ∧
      (exec op.1.op d).2.Holds (contextService.step m op).2 := by
  have hc : op.1.conn = some op.about := (Option.some_get op.2).symm
  have hcall := callEffect d hc
  have hslot := KeyedService.Holds.slot h (S := contextService) (k := op.about) rfl rfl
  rw [show d.slotOf (some op.about) =
    KeyedService.slotFor GattClientCtx.conn d.contexts op.about from rfl] at hcall
  unfold KeyedService.step
  cases hfound : KeyedService.slotFor GattClientCtx.conn d.contexts op.about with
  | none =>
    rw [hfound] at hcall hslot
    simp only at hcall hslot
    rw [show contextService.about op = op.about from rfl, hslot]
    dsimp only
    -- no context is left, in the table or the map
    refine ⟨?_, ?_⟩
    · rw [GattClient.see, hcall]
      simp only [List.drop_length, List.map_nil]
      obtain ⟨op, hop⟩ := op
      cases op <;> rfl
    · rw [hcall]
      exact h
  | some i =>
    rw [hfound] at hcall hslot
    obtain ⟨hentry, hown⟩ := hslot
    have hcall : CallEffect d op.about i op.1 (exec op.1.op d).1 (exec op.1.op d).2 := hcall
    -- the table has a slot exactly where the map has room
    have hleaves := hcall.leaves
    rw [show contextService.about op = op.about from rfl, hentry]
    refine ⟨hcall.see, ?_⟩
    show (exec op.1.op d).2.Holds
      (KeyedService.leave m op.about (op.1.effect (d.contexts i).shown).2)
    cases hleft : (op.1.effect (d.contexts i).shown).2 with
    | some ctx =>
      rw [hleft] at hleaves
      exact KeyedService.Holds.insert h hown hcall.elsewhere hleaves.1 hleaves.2
    | none =>
      rw [hleft] at hleaves
      exact KeyedService.Holds.erase h hown hcall.elsewhere hleaves.1 hleaves.2

/-- What is seen of a sequence of calls is what the map gives. -/
theorem observe_eq (h : d.Holds m) (ops : List ContextOp) :
    d.observe ops = contextService.observe m ops := by
  induction ops generalizing d m with
  | nil => rfl
  | cons op ops ih =>
    obtain ⟨hsee, hnext⟩ := see_step h op
    rw [GattClient.observe, KeyedService.observe, hsee, ih hnext]
    rfl

end

/-- **The client is a map of at most three connections**: whatever calls are made from
`gatt_client_init` on, what is seen of them is what the map gives. -/
theorem gattClient_observes (d₀ : GattClient) (ops : List ContextOp) :
    d₀.initialized.observe ops = contextService.observe ∅ ops :=
  observe_eq (initialized_holds d₀) ops

/-- **Connections do not notice each other**: of up to three connections, each gets the results,
the requests and the calls of the application that it would get alone. -/
theorem gattClient_isolated (d₀ : GattClient) {ops : List ContextOp}
    (hfew : (ops.map ContextOp.about).toFinset.card ≤ maxGattContexts) (c : BtConn) :
    (d₀.initialized.observe ops).filter (fun o => o.1 = c) =
      d₀.initialized.observe (ops.filter fun op => op.about = c) := by
  rw [observe_eq (initialized_holds d₀), observe_eq (initialized_holds d₀)]
  exact KeyedService.observe_isolated hfew c

/-- Two connections discover their readings and subscribe to them, and one is notified. -/
def subscribeBoth : List ContextOp := [
  ⟨.discover (some 1) none 0, rfl⟩,
  ⟨.discover (some 2) none 0, rfl⟩,
  ⟨.discoverFunc (some 2) (some ⟨readingCharUuid, 9⟩), rfl⟩,
  ⟨.discoverFunc (some 1) (some ⟨readingCharUuid, 5⟩), rfl⟩,
  ⟨.subscribe (some 2) readingCharUuid (some 20) 0, rfl⟩,
  ⟨.subscribe (some 1) readingCharUuid (some 10) 0, rfl⟩,
  ⟨.notifyFunc (some 1) ⟨0, by decide⟩ (some [42]) 1, rfl⟩]

/-- A client's memory when it boots -/
def blankClient : GattClient := ⟨fun _ => {}, [], []⟩

theorem subscribeBoth_isolated :
    (blankClient.initialized.observe subscribeBoth).filter (fun o => o.1 = 1) =
      blankClient.initialized.observe (subscribeBoth.filter fun op => op.about = 1) :=
  gattClient_isolated blankClient (by decide) 1

/-- The notification is given to the callback of its connection. -/
example : (blankClient.observe subscribeBoth).getLast? =
    some (1, ⟨1, [], [.notified 10 (some 1) [42] 1]⟩) := by decide +kernel

/-- Connection 1 subscribes in the context that connection 2 had before. Then the stack reports
the end of 2's subscription. -/
def lateEnd : List GattOp := [
  .discover (some 2) none 0,
  .discoverFunc (some 2) (some ⟨readingCharUuid, 9⟩),
  .subscribe (some 2) readingCharUuid none 0,
  .unsubscribe (some 2) readingCharUuid 0,
  .discover (some 1) none 0,
  .discoverFunc (some 1) (some ⟨readingCharUuid, 5⟩),
  .subscribe (some 1) readingCharUuid none 0,
  .notifyFunc (some 2) ⟨0, by decide⟩ none 0]

/-- Connection 1 then unsubscribes from handle zero, which `Seen` leaves out. -/
example : ((exec (lateEnd.forM fun op => discard op.op) blankClient.initialized).2.contexts
    ⟨0, by decide⟩).subscribeParams = ⟨1, 0, 6⟩ := by decide +kernel

end SensorNet.Hub
