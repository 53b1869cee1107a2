import SensorNet.Hub.NodeMap
import SensorNet.Lib.Run

/-!
# The number of connected nodes

`node_manager_get_connected_count` counts the records in state
`NODE_STATE_CONNECTED`, and `node_manager_bind_node` overwrites that state: binding
a connected node takes it out of the count, while its connection stays.
`connectedCount_iff`: the count is right throughout a run iff no node was bound
while it was connected.
-/

namespace SensorNet.Hub

open Fw

/-- The count is the number of valid nodes with a connection. -/
def NodeManager.Truthful (d : NodeManager) : Prop :=
  (Fw.exec nodeManagerGetConnectedCount d).1 =
    countSlots (fun n => n.valid && n.conn.isSome) d.nodes

/-- A call does not bind a node that is connected. -/
def BindsUnconnected (d : NodeManager) (call : NodeCall) : Prop :=
  ∀ addr i, call = .bindNode addr → d.find addr = some i → (d.nodes i).conn = none

/-- What holds of every record, and of every record a call writes, holds after it. -/
theorem records_step {Q : NodeInfo → Prop} {d : NodeManager} {call : NodeCall}
    (h : ∀ i, Q (d.nodes i)) (hwrites : ∀ i n, call.Writes d i n → Q n) (j : Fin maxNodes) :
    Q ((call.exec d).2.nodes j) := by
  rcases exec_cases call d with hsame | ⟨-, i, n, hn, hwrite⟩
  · rw [hsame]
    exact h j
  · rw [hwrite]
    show Q (Function.update d.nodes i n j)
    rw [Function.update_apply]
    split
    · exact hwrites i n hn
    · exact h j

/-! ## Where the count is right -/

/-- A record in state `NODE_STATE_CONNECTED` has a connection. -/
def HasConn (n : NodeInfo) : Prop := n.state = .connected → n.conn.isSome

/-- A node with a connection is in state `NODE_STATE_CONNECTED`. -/
def ShowsConn (n : NodeInfo) : Prop :=
  n.valid = true → n.conn.isSome → n.state = .connected

/-- What a call makes of a record's state and connection: it keeps both, starts a record
without connection, sets both together, or hides the state behind a binding. -/
theorem writes_conn {d : NodeManager} {call : NodeCall} {i : Fin maxNodes} {n : NodeInfo}
    (h : call.Writes d i n) :
    (n.valid = (d.nodes i).valid ∧ n.state = (d.nodes i).state ∧ n.conn = (d.nodes i).conn) ∨
    (n.state = .discovered ∧ n.conn = none) ∨
    n.state = (if n.conn.isSome then .connected else .disconnected) ∨
    (n.state = .bound ∧ n.conn = (d.nodes i).conn ∧
      ∃ addr, call = .bindNode addr ∧ d.find addr = some i) := by
  cases call with
  | addNode addr rssi advData len uptime =>
    rcases h with rfl | rfl
    · obtain ⟨hvalid, -, hstate, hconn⟩ :=
        refreshed_keeps (d.nodes i) rssi advData len uptime
      exact .inl ⟨hvalid, hstate, hconn⟩
    · -- a new record, which has no connection
      obtain ⟨-, -, hstate, hconn⟩ :=
        refreshed_keeps { valid := true, addr } rssi advData len uptime
      exact .inr (.inl ⟨hstate, hconn⟩)
  | updateConnection addr conn =>
    rw [show n = _ from h]
    exact .inr (.inr (.inl rfl))
  | updateReading addr reading uptime =>
    rw [show n = _ from h]
    exact .inl ⟨rfl, rfl, rfl⟩
  | updateBattery addr batteryLevel =>
    rw [show n = _ from h]
    exact .inl ⟨rfl, rfl, rfl⟩
  | bindNode addr =>
    obtain ⟨hfind, rfl⟩ := h
    exact .inr (.inr (.inr ⟨rfl, rfl, addr, rfl, hfind⟩))
  | getByAddr addr => exact h.elim
  | getCount => exact h.elim

theorem hasConn_step {d : NodeManager} (h : ∀ i, HasConn (d.nodes i)) (call : NodeCall)
    (i : Fin maxNodes) : HasConn ((call.exec d).2.nodes i) := by
  refine records_step h (fun j n hn => ?_) i
  rcases writes_conn hn with ⟨-, hstate, hconn⟩ | ⟨hstate, -⟩ | hset | ⟨hstate, -⟩
  · unfold HasConn
    rw [hstate, hconn]
    exact h j
  · intro hc
    rw [hstate] at hc
    cases hc
  · intro hc
    by_contra hnone
    rw [hset, if_neg hnone] at hc
    cases hc
  · intro hc
    rw [hstate] at hc
    cases hc

/-- Every call but a bind of a connected node keeps the connections visible. -/
theorem showsConn_step {d : NodeManager} (h : ∀ i, ShowsConn (d.nodes i)) {call : NodeCall}
    (hbind : BindsUnconnected d call) (i : Fin maxNodes) :
    ShowsConn ((call.exec d).2.nodes i) := by
  refine records_step h (fun j n hn => ?_) i
  rcases writes_conn hn with ⟨hvalid, hstate, hconn⟩ | ⟨-, hconn⟩ | hset |
    ⟨-, hconn, addr, hcall, hfind⟩
  · unfold ShowsConn
    rw [hvalid, hstate, hconn]
    exact h j
  · intro _ hc
    rw [hconn] at hc
    cases hc
  · intro _ hc
    rw [hset, if_pos hc]
  · intro _ hc
    rw [hconn, hbind addr j hcall hfind] at hc
    cases hc

/-- A bind of a connected node hides its connection. -/
theorem hidden_of_bind {d : NodeManager} {addr : BtAddrLe} {i : Fin maxNodes}
    (hfind : d.find addr = some i) (hconn : (d.nodes i).conn ≠ none) :
    ¬ ShowsConn (((NodeCall.bindNode addr).exec d).2.nodes i) := by
  have hfound : ((d.nodes i).valid && (d.nodes i).addr == addr) = true := firstSlot_spec hfind
  obtain ⟨hvalid, -⟩ := Bool.and_eq_true_iff.mp hfound
  have hexec : ((NodeCall.bindNode addr).exec d).2.nodes i =
      { d.nodes i with boundToHub := true, state := .bound } := by
    show (Fw.exec (updateByAddr addr _) d).2.nodes i = _
    rw [exec_updateByAddr, hfind]
    exact Function.update_self ..
  rw [hexec]
  intro hshows
  have hstate := hshows hvalid (Option.isSome_iff_ne_none.mpr hconn)
  cases hstate

/-- The count is right iff every connected node is in state `NODE_STATE_CONNECTED`. -/
theorem truthful_iff {d : NodeManager} (h : ∀ i, HasConn (d.nodes i)) :
    d.Truthful ↔ ∀ i, ShowsConn (d.nodes i) := by
  have hcount : (Fw.exec nodeManagerGetConnectedCount d).1 =
      countSlots (fun n => n.valid && n.state == .connected) d.nodes := by
    simp [Fw.exec, nodeManagerGetConnectedCount]
  have hle : ∀ i, ((d.nodes i).valid && (d.nodes i).state == .connected) = true →
      ((d.nodes i).valid && (d.nodes i).conn.isSome) = true := by
    intro i hi
    obtain ⟨hvalid, hstate⟩ := Bool.and_eq_true_iff.mp hi
    rw [hvalid, h i (eq_of_beq hstate)]
    rfl
  unfold NodeManager.Truthful
  rw [hcount, Nat.cast_inj, countSlots_eq_iff hle]
  refine forall_congr' fun i => ?_
  unfold ShowsConn
  cases (d.nodes i).valid <;> simp

/-- The system as a run of calls. -/
def nodeStep (d : NodeManager) (call : NodeCall) : NodeManager := (call.exec d).2

/-- **Connected count**: the count is right in every state of a run from
`node_manager_init` iff no call of the run binds a node that is connected then. -/
theorem connectedCount_iff (d₀ : NodeManager) (calls : List NodeCall) :
    (∀ k, (NodeManager.after d₀ (calls.take k)).Truthful) ↔
      Along (always nodeStep) BindsUnconnected (NodeManager.after d₀ []) calls := by
  have hinit : NodeManager.after d₀ [] = ⟨fun _ => {}⟩ := by
    simp [NodeManager.after, Fw.exec]
  have hJ₀ : ∀ i, HasConn ((NodeManager.after d₀ []).nodes i) := by
    rw [hinit]
    intro i hstate
    cases hstate
  have hP₀ : (NodeManager.after d₀ []).Truthful := by
    rw [truthful_iff hJ₀, hinit]
    intro i hvalid
    cases hvalid
  have hafter : ∀ es, run (always nodeStep) (NodeManager.after d₀ []) es =
      some (NodeManager.after d₀ es) := run_always nodeStep _
  rw [← prefixes_iff_along (P := NodeManager.Truthful)
    (J := fun d => ∀ i, HasConn (d.nodes i)) hP₀ hJ₀ ?_ ?_ (hafter calls)]
  · refine forall_congr' fun k => ?_
    simp only [hafter, Option.some.injEq, forall_eq']
  · rintro d call v hJ hstep
    cases hstep
    exact hasConn_step hJ call
  · rintro d call v hJ hP hstep
    cases hstep
    have hshows := (truthful_iff hJ).mp hP
    show (call.exec d).2.Truthful ↔ _
    rw [truthful_iff (hasConn_step hJ call)]
    constructor
    · -- a connected node that is bound is no longer counted
      rintro hall addr i rfl hfind
      by_contra hconn
      exact hidden_of_bind hfind hconn (hall i)
    · exact fun hC => showsConn_step hshows hC

/-- A node that is added, and then connected and bound. -/
def connectThenBind : List NodeCall :=
  [.addNode ⟨0, 1⟩ 0 none 0 0, .updateConnection ⟨0, 1⟩ (some 5), .bindNode ⟨0, 1⟩]

/-- A node that is added, and then bound and connected. -/
def bindThenConnect : List NodeCall :=
  [.addNode ⟨0, 1⟩ 0 none 0 0, .bindNode ⟨0, 1⟩, .updateConnection ⟨0, 1⟩ (some 5)]

/-- The two orders give different counts, and the first a wrong one. -/
theorem bound_node_not_counted :
    (¬ ∀ d₀ calls, (NodeManager.after d₀ calls).Truthful) ∧
    (Fw.exec nodeManagerGetConnectedCount (NodeManager.after ⟨fun _ => {}⟩ connectThenBind)).1 ≠
      (Fw.exec nodeManagerGetConnectedCount
        (NodeManager.after ⟨fun _ => {}⟩ bindThenConnect)).1 := by
  have hwrong : (Fw.exec nodeManagerGetConnectedCount
      (NodeManager.after ⟨fun _ => {}⟩ connectThenBind)).1 = 0 := by
    decide +kernel
  have hright : (Fw.exec nodeManagerGetConnectedCount
      (NodeManager.after ⟨fun _ => {}⟩ bindThenConnect)).1 = 1 := by
    decide +kernel
  have hconns : countSlots (fun n => n.valid && n.conn.isSome)
      (NodeManager.after ⟨fun _ => {}⟩ connectThenBind).nodes = 1 := by
    decide +kernel
  refine ⟨fun hall => ?_, ?_⟩
  · have htruthful := hall ⟨fun _ => {}⟩ connectThenBind
    unfold NodeManager.Truthful at htruthful
    rw [hwrong, hconns] at htruthful
    cases htruthful
  · rw [hwrong, hright]
    decide

end SensorNet.Hub
