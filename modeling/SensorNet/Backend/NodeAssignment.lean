import SensorNet.Lib.JsDate
import SensorNet.Lib.Json
import SensorNet.Lib.Snapshot
import Mathlib.Data.List.Induction

/-!
# Assigning and binding a node (`node.entity.ts`, `topology.service.ts`)

`assignNodeToSensorGroup` and `bindNodeToHub` load a node, set one property and save the
whole of it; `updateNode` updates the given columns in place. We follow the row of one node:
each call is a transaction on it (`SensorNet.Lib.Snapshot`) that reads the row and later
writes it. (`updateNode` does not look at what it read.)

A group assigned while a hub is being bound is put back to what it was
(`assignment_lost`). `columns_iff`: at every time of a run each column has the value that
the last call naming it has written iff every call that saves a node has read, in the
columns that it does not name, what is still there.

Of TypeORM we assume that `save` makes the row equal to the entity in every column, and
that `update` changes the given columns only.
-/

namespace SensorNet.Backend

open SensorNet.Js SensorNet.Snapshot

/-- The states of a node, `enum` of `Node.status` -/
inductive NodeStatus where
  | uncommissioned
  | operational
  | maintenance
  | fault
  | offline
  deriving DecidableEq, Repr

/-- The columns of the table `nodes` -/
inductive NodeColumn where
  | id
  | nodeId
  | serialNumber
  | firmwareVersion
  | hardwareRevision
  | status
  | configuration
  | calibration
  | lastReading
  | batteryPercent
  | batteryMillivolts
  | faults
  | rssi
  | lastSeen
  | metadata
  | sensorGroupId
  | hubId
  | createdAt
  | updatedAt
  deriving DecidableEq, Repr

/-- What a column holds; `none` is `NULL`. -/
abbrev NodeColumn.Value : NodeColumn → Type
  | id | nodeId => String
  | serialNumber | firmwareVersion | hardwareRevision | sensorGroupId | hubId => Option String
  | status => NodeStatus
  | configuration | calibration | lastReading | faults | metadata => Option Json
  | batteryPercent | batteryMillivolts | rssi => Option Int
  | lastSeen => Option Date
  | createdAt | updatedAt => Date

/-- A row of the table `nodes`, and the entity that is loaded from it -/
abbrev Node := ∀ c : NodeColumn, c.Value

/-- A `Partial<Node>`; `none` where the property is not there -/
abbrev PartialNode := ∀ c : NodeColumn, Option c.Value

/-! ## The service, as far as one row is concerned -/

/-- `findNodeByNodeId`, if it finds the row -/
def findNodeByNodeId (row : Node) (nodeId : String) : Option Node :=
  if (row .nodeId : String) = nodeId then some row else none

/-- `nodeRepository.save(node)`: the row after it, `none` if it is not the node's -/
def saveNode (node row : Node) : Option Node :=
  if (row .id : String) = node .id then some node else none

/-- `nodeRepository.update(id, data)`: the row after it, `none` if it does not have the id -/
def updateColumns (id : String) (data : PartialNode) (row : Node) : Option Node :=
  if (row .id : String) = id then some fun c => (data c).getD (row c) else none

/-- A call on a node. -/
inductive NodeCall where
  | assignNodeToSensorGroup (nodeId sensorGroupId : String)
  | bindNodeToHub (nodeId hubId : String)
  | updateNode (id : String) (data : PartialNode)

namespace NodeCall

/-- What the call makes of `row` after it has read `read`: `none` if it does not write the
row. -/
def write (read row : Node) : NodeCall → Option Node
  | assignNodeToSensorGroup nodeId sensorGroupId =>
    (findNodeByNodeId read nodeId).bind fun node =>
      saveNode (Function.update node .sensorGroupId (some sensorGroupId)) row
  | bindNodeToHub nodeId hubId =>
    (findNodeByNodeId read nodeId).bind fun node =>
      saveNode (Function.update node .hubId (some hubId)) row
  | updateNode id data => updateColumns id data row

/-- The columns that the call names, and the values it gives them -/
def names : NodeCall → PartialNode
  | assignNodeToSensorGroup _ sensorGroupId =>
    Function.update (fun _ => none) .sensorGroupId (some (some sensorGroupId))
  | bindNodeToHub _ hubId => Function.update (fun _ => none) .hubId (some (some hubId))
  | updateNode _ data => data

/-- What the call puts into the columns that it does not name -/
def carries (read row : Node) : NodeCall → Node
  | assignNodeToSensorGroup .. | bindNodeToHub .. => read
  | updateNode .. => row

/-- What saving a node with one property set leaves -/
theorem saveNode_update {read row new : Node} {nodeId : String} {column : NodeColumn}
    {value : column.Value}
    (h : ((findNodeByNodeId read nodeId).bind fun node =>
      saveNode (Function.update node column value) row) = some new) :
    new = Function.update read column value := by
  obtain ⟨node, hfound, hsaved⟩ := Option.bind_eq_some_iff.mp h
  obtain ⟨-, hnode⟩ := Option.ite_none_right_eq_some.mp hfound
  obtain ⟨-, hnew⟩ := Option.ite_none_right_eq_some.mp hsaved
  rw [← Option.some.inj hnew, ← Option.some.inj hnode]

/-- A column of a node with one property set: the value given, or what was there. -/
theorem update_apply_eq (read : Node) (column : NodeColumn) (value : column.Value)
    (c : NodeColumn) :
    Function.update read column value c =
      ((Function.update (fun _ => none) column (some value) : PartialNode) c).getD (read c) := by
  by_cases hc : c = column
  · subst hc
    rw [Function.update_self, Function.update_self, Option.getD_some]
  · rw [Function.update_of_ne hc, Function.update_of_ne hc, Option.getD_none]

/-- A write puts the values given into the columns named, and what the call carries into the
others. -/
theorem write_spec {call : NodeCall} {read row new : Node}
    (h : call.write read row = some new) (c : NodeColumn) :
    new c = (call.names c).getD (call.carries read row c) := by
  cases call with
  | assignNodeToSensorGroup nodeId sensorGroupId =>
    rw [saveNode_update h]
    exact update_apply_eq read .sensorGroupId (some sensorGroupId) c
  | bindNodeToHub nodeId hubId =>
    rw [saveNode_update h]
    exact update_apply_eq read .hubId (some hubId) c
  | updateNode id data =>
    obtain ⟨-, hnew⟩ := Option.ite_none_right_eq_some.mp h
    rw [← Option.some.inj hnew]
    rfl

end NodeCall

/-! ## Runs -/

variable {n : Nat}

/-- A call, and whether the database fails at its write. -/
structure NodeRequest where
  call : NodeCall
  saveFails : Bool := false

/-- The calls as transactions on the row and the list of the calls that have written it. -/
def nodeApply (requests : Fin n → NodeRequest) (i : Fin n) (read cell : Node × List (Fin n)) :
    Node × List (Fin n) :=
  if (requests i).saveFails then cell
  else match (requests i).call.write read.1 cell.1 with
    | some row => (row, cell.2 ++ [i])
    | none => cell

/-- What the last of the calls that names a column gives it; without one, what was there
first. -/
def lastGiven (requests : Fin n → NodeRequest) (first : Node) (writes : List (Fin n)) : Node :=
  fun c => (writes.filterMap fun i => (requests i).call.names c).getLast?.getD (first c)

theorem lastGiven_snoc (requests : Fin n → NodeRequest) (first : Node) (writes : List (Fin n))
    (i : Fin n) (c : NodeColumn) :
    lastGiven requests first (writes ++ [i]) c =
      ((requests i).call.names c).getD (lastGiven requests first writes c) := by
  unfold lastGiven
  rw [List.filterMap_append]
  cases hnames : (requests i).call.names c with
  | none => simp [hnames]
  | some value => simp [hnames]

/-- Each column has the value that the last call naming it has written. -/
def LastWrites (requests : Fin n → NodeRequest) (first : Node)
    (s : System (Node × List (Fin n)) n) : Prop :=
  ∀ c, s.cell.1 c = lastGiven requests first s.cell.2 c

/-- A call that writes the row now carries, in the columns that it does not name, what is
still in the row. -/
def CarriesNode (requests : Fin n → NodeRequest) (s : System (Node × List (Fin n)) n) :
    Event n → Prop
  | .read _ => True
  | .write i => ∀ read, s.phase i = .pending read → (requests i).saveFails = false →
      ((requests i).call.write read.1 s.cell.1).isSome →
      ∀ c, (requests i).call.names c = none →
        (requests i).call.carries read.1 s.cell.1 c = s.cell.1 c

theorem lastWrites_step {requests : Fin n → NodeRequest} {first : Node}
    {s v : System (Node × List (Fin n)) n} {e : Event n} (h : LastWrites requests first s)
    (hstep : step (nodeApply requests) s e = some v) :
    LastWrites requests first v ↔ CarriesNode requests s e := by
  rcases step_cases hstep with ⟨i, rfl, -, rfl⟩ | ⟨i, read, rfl, hread, rfl⟩
  · exact iff_of_true h trivial
  · cases hfails : (requests i).saveFails with
    | true =>
      -- the database fails, and nothing is written
      have hnone : nodeApply requests i read s.cell = s.cell := if_pos hfails
      rw [hnone]
      refine iff_of_true h fun _ _ hok => ?_
      rw [hfails] at hok
      cases hok
    | false =>
      have hwrite : nodeApply requests i read s.cell =
          match (requests i).call.write read.1 s.cell.1 with
          | some row => (row, s.cell.2 ++ [i])
          | none => s.cell := if_neg (by simp [hfails])
      rw [hwrite]
      cases hnew : (requests i).call.write read.1 s.cell.1 with
      | none =>
        refine iff_of_true h fun other hother _ hsome => ?_
        rw [hread] at hother
        cases hother
        rw [hnew] at hsome
        cases hsome
      | some row =>
        -- a column that is not named has what is carried, and should have what was there
        have hspec := NodeCall.write_spec hnew
        constructor
        · intro hv other hother _ _ c hc
          rw [hread] at hother
          cases hother
          have hcolumn : row c = lastGiven requests first (s.cell.2 ++ [i]) c := hv c
          rw [hspec c, lastGiven_snoc, hc, Option.getD_none, Option.getD_none, ← h c] at hcolumn
          exact hcolumn
        · intro hcarry c
          show row c = lastGiven requests first (s.cell.2 ++ [i]) c
          rw [hspec c, lastGiven_snoc, ← h c]
          cases hc : (requests i).call.names c with
          | some value => rfl
          | none =>
            exact hcarry read hread hfails (by rw [hnew]; rfl) c hc

/-- **Assignments are not lost**: at every time of a run each column of the row has the value
that the last call naming it has written, or the one it had at first, iff every call that
writes the row has read, in the columns that it puts back, what is still there. -/
theorem columns_iff {requests : Fin n → NodeRequest} {first : Node} {es : List (Event n)}
    {s : System (Node × List (Fin n)) n}
    (hrun : run (step (nodeApply requests)) (.start (first, [])) es = some s) :
    (∀ k t, run (step (nodeApply requests)) (.start (first, [])) (es.take k) = some t →
        LastWrites requests first t) ↔
      Along (step (nodeApply requests)) (CarriesNode requests) (.start (first, [])) es :=
  prefixes_iff_along (J := fun _ => True) (fun _ => rfl) trivial (fun _ _ _ _ _ => trivial)
    (fun _ _ _ _ h hstep => lastWrites_step h hstep) hrun

/-- A node without a group and without a hub -/
def looseNode : Node
  | .id => "7"
  | .nodeId => "AA:BB:CC:DD:EE:FF"
  | .status => NodeStatus.uncommissioned
  | .createdAt | .updatedAt => (0 : Nat)
  | .serialNumber | .firmwareVersion | .hardwareRevision | .sensorGroupId | .hubId
  | .configuration | .calibration | .lastReading | .faults | .metadata
  | .batteryPercent | .batteryMillivolts | .rssi | .lastSeen => none

/-- The node is assigned to a group and bound to a hub. -/
def assignAndBind : Fin 2 → NodeRequest
  | 0 => { call := .assignNodeToSensorGroup "AA:BB:CC:DD:EE:FF" "group-1" }
  | 1 => { call := .bindNodeToHub "AA:BB:CC:DD:EE:FF" "hub-1" }

/-- One call reads after the other has written. -/
theorem assigned_then_bound :
    ∃ s : System (Node × List (Fin 2)) 2,
      run (step (nodeApply assignAndBind)) (.start (looseNode, []))
        [.read 0, .write 0, .read 1, .write 1] = some s ∧
      ((∀ k t, run (step (nodeApply assignAndBind)) (.start (looseNode, []))
          ([.read 0, .write 0, .read 1, .write 1].take k) = some t →
          LastWrites assignAndBind looseNode t) ↔
        Along (step (nodeApply assignAndBind)) (CarriesNode assignAndBind)
          (.start (looseNode, [])) [.read 0, .write 0, .read 1, .write 1]) :=
  ⟨_, rfl, columns_iff rfl⟩

/-- Both calls read the node before either writes: binding it to the hub takes it out of the
group again. -/
theorem assignment_lost :
    ¬ ∀ (n : Nat) (requests : Fin n → NodeRequest) (first : Node) (es : List (Event n))
      (s : System (Node × List (Fin n)) n),
      run (step (nodeApply requests)) (.start (first, [])) es = some s →
        (∀ i, s.phase i = .done) → LastWrites requests first s := by
  intro h
  obtain ⟨s, hrun⟩ : ∃ s : System (Node × List (Fin 2)) 2,
      run (step (nodeApply assignAndBind)) (.start (looseNode, []))
        [.read 0, .read 1, .write 0, .write 1] = some s := ⟨_, rfl⟩
  have hlast := h 2 assignAndBind looseNode _ s hrun ?_ .sensorGroupId
  · cases hrun
    have hnone : (none : Option String) = some "group-1" := hlast
    cases hnone
  · cases hrun
    intro i
    match i with
    | 0 => rfl
    | 1 => rfl

end SensorNet.Backend
