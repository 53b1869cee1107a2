import SensorNet.Hub.NodeMap
import Mathlib.Data.Fintype.Fin

/-!
# The node table is in the order of discovery

The map of `NodeMap` gives a new address some free index. Which one follows from the scan of
`node_manager_add_node`, and from no operation freeing a record: record `i` holds the address
that was the `i`-th new one to be added, whatever else was called in between
(`inOrder_after`).

So the table is a prefix of the addresses in the order of discovery (`seenAddrs`), and what the
lookups by address and by index, the count and the next `node_manager_add_node` return can be
read off this list (`nodeManager_in_order`): the indices below `node_manager_get_count` are the
known nodes, each once and in order, and an address that was not among the first `MAX_NODES`
is refused for good.
-/

namespace SensorNet.Hub

open Fw

/-- The address a call tries to add -/
def NodeCall.adding : NodeCall → Option BtAddrLe
  | .addNode addr _ _ _ _ => some addr
  | _ => none

/-- The addresses that were tried to be added, each where it came up first -/
def seenAddrs (calls : List NodeCall) : List BtAddrLe :=
  (calls.filterMap NodeCall.adding).eraseDups

/-- The address of a record that is in use -/
def NodeInfo.known (n : NodeInfo) : Option BtAddrLe := if n.valid then some n.addr else none

/-! ## The order of discovery -/

/-- A call that adds no address leaves the order as it is. -/
theorem seenAddrs_snoc_none {calls : List NodeCall} {call : NodeCall}
    (h : call.adding = none) : seenAddrs (calls ++ [call]) = seenAddrs calls := by
  simp [seenAddrs, List.filterMap_append, h]

/-- An address comes last in the order, unless it came up before. -/
theorem seenAddrs_snoc_some {calls : List NodeCall} {call : NodeCall} {addr : BtAddrLe}
    (h : call.adding = some addr) :
    seenAddrs (calls ++ [call]) =
      if addr ∈ seenAddrs calls then seenAddrs calls else seenAddrs calls ++ [addr] := by
  unfold seenAddrs
  rw [List.filterMap_append, List.filterMap_cons_some h, List.filterMap_nil,
    List.eraseDups_append]
  generalize calls.filterMap NodeCall.adding = added
  by_cases hmem : addr ∈ added
  · rw [if_pos (List.mem_eraseDups.mpr hmem)]
    simp [List.removeAll, hmem]
  · rw [if_neg fun h => hmem (List.mem_eraseDups.mp h)]
    simp [List.removeAll, hmem, List.eraseDups_cons]

/-- No address comes up twice. -/
theorem nodup_seenAddrs (calls : List NodeCall) : (seenAddrs calls).Nodup := by
  induction calls using List.reverseRecOn with
  | nil => exact List.nodup_nil
  | append_singleton calls call ih =>
    cases hadd : call.adding with
    | none => rwa [seenAddrs_snoc_none hadd]
    | some addr =>
      rw [seenAddrs_snoc_some hadd]
      split
      next => exact ih
      next hnew =>
        refine List.nodup_append.mpr ⟨ih, List.nodup_singleton _, ?_⟩
        rintro a ha b hb rfl
        exact hnew (List.mem_singleton.mp hb ▸ ha)

/-! ## The table follows it -/

/-- Record `i` holds the `i`-th address, as far as the records go. -/
def NodeManager.InOrder (d : NodeManager) (addrs : List BtAddrLe) : Prop :=
  ∀ i, (d.nodes i).known = addrs[i.val]?

section
variable {d : NodeManager} {addrs : List BtAddrLe} {addr : BtAddrLe}

theorem known_eq_some {n : NodeInfo} : n.known = some addr ↔ n.valid = true ∧ n.addr = addr := by
  unfold NodeInfo.known
  split
  next h => simp [h]
  next h => simp [h]

theorem known_eq_none {n : NodeInfo} : n.known = none ↔ n.valid = false := by
  unfold NodeInfo.known
  split
  next h => simp [h]
  next h => simpa using h

/-- A record in use is one that has an address of its own in the list. -/
theorem NodeManager.InOrder.valid_iff (h : d.InOrder addrs) (i : Fin maxNodes) :
    (d.nodes i).valid = true ↔ i.val < addrs.length := by
  rw [← not_iff_not, Bool.not_eq_true, ← known_eq_none, h i, List.getElem?_eq_none_iff,
    Nat.not_lt]

/-- The scan for an address gives its place in the list, if it has a record. -/
theorem NodeManager.InOrder.find (h : d.InOrder addrs) (hnodup : addrs.Nodup) :
    d.find addr =
      if h : addr ∈ addrs ∧ addrs.idxOf addr < maxNodes then some ⟨_, h.2⟩ else none := by
  -- the records in which the scan could find the address
  have hfound : ∀ i : Fin maxNodes, ((d.nodes i).valid && (d.nodes i).addr == addr) = true ↔
      addrs[i.val]? = some addr := by
    intro i
    rw [← h i, known_eq_some, Bool.and_eq_true, beq_iff_eq]
  have hidx : ∀ i : Nat, addrs[i]? = some addr → i = addrs.idxOf addr := by
    intro i hi
    obtain ⟨hlt, heq⟩ := List.getElem?_eq_some_iff.mp hi
    rw [← heq, hnodup.idxOf_getElem]
  unfold NodeManager.find
  split
  next hin =>
    refine firstSlot_eq_of_unique ?_ fun j hj => Fin.ext (hidx _ ((hfound j).mp hj))
    rw [hfound, List.getElem?_idxOf hin.1]
  next hout =>
    rw [firstSlot_eq_none_iff]
    intro i
    rw [← Bool.not_eq_true, hfound]
    intro hi
    have hplace := hidx _ hi
    exact hout ⟨List.mem_of_getElem? hi, hplace ▸ i.isLt⟩

/-- The scan for a free record gives the one behind the last address. -/
theorem NodeManager.InOrder.firstSlot_free (h : d.InOrder addrs) :
    firstSlot (fun n => !n.valid) d.nodes =
      if hlt : addrs.length < maxNodes then some ⟨_, hlt⟩ else none := by
  split
  next hlt =>
    refine firstSlot_eq_some_iff.mpr ⟨?_, fun j hj => ?_⟩
    · rw [Bool.not_eq_true', ← Bool.not_eq_true, h.valid_iff]
      exact Nat.lt_irrefl _
    · rw [Bool.not_eq_false', h.valid_iff]
      exact hj
  next hge =>
    refine firstSlot_eq_none_iff.mpr fun i => ?_
    rw [Bool.not_eq_false', h.valid_iff]
    exact Nat.lt_of_lt_of_le i.isLt (Nat.not_lt.mp hge)

/-- Writing a record that keeps its address keeps the order. -/
theorem NodeManager.InOrder.edit (h : d.InOrder addrs) {i : Fin maxNodes} {n : NodeInfo}
    (hn : n.known = (d.nodes i).known) :
    (⟨Function.update d.nodes i n⟩ : NodeManager).InOrder addrs := by
  intro j
  by_cases hj : j = i
  · subst hj
    show (Function.update d.nodes j n j).known = _
    rw [Function.update_self, hn, h j]
  · show (Function.update d.nodes i n j).known = _
    rw [Function.update_of_ne hj, h j]

/-- A new address goes into the record behind the last one. -/
theorem NodeManager.InOrder.append (h : d.InOrder addrs) (hlt : addrs.length < maxNodes)
    {n : NodeInfo} (hn : n.known = some addr) :
    (⟨Function.update d.nodes ⟨_, hlt⟩ n⟩ : NodeManager).InOrder (addrs ++ [addr]) := by
  intro j
  by_cases hj : j = ⟨_, hlt⟩
  · subst hj
    show (Function.update d.nodes _ n _).known = _
    rw [Function.update_self, hn, List.getElem?_concat_length]
  · show (Function.update d.nodes _ n j).known = _
    rw [Function.update_of_ne hj, h j]
    have hne : j.val ≠ addrs.length := fun heq => hj (Fin.ext heq)
    rcases Nat.lt_or_gt_of_ne hne with hbefore | hbehind
    · rw [List.getElem?_append_left hbefore]
    · rw [List.getElem?_eq_none (Nat.le_of_lt hbehind), List.getElem?_eq_none]
      rw [List.length_append]
      exact hbehind

/-- An address behind the last record changes nothing. -/
theorem NodeManager.InOrder.append_full (h : d.InOrder addrs) (hfull : maxNodes ≤ addrs.length) :
    d.InOrder (addrs ++ [addr]) := by
  intro j
  rw [h j, List.getElem?_append_left (Nat.lt_of_lt_of_le j.isLt hfull)]

/-- The refreshed record has the address it had. -/
theorem known_refreshed (n : NodeInfo) (rssi : Int8) (advData : Option (List UInt8))
    (len : UInt8) (uptime : UInt32) : (n.refreshed rssi advData len uptime).known = n.known := by
  obtain ⟨hvalid, haddr, -⟩ := refreshed_keeps n rssi advData len uptime
  unfold NodeInfo.known
  rw [hvalid, haddr]

/-- An update of a record by address keeps the order. -/
theorem NodeManager.InOrder.updateByAddr (h : d.InOrder addrs) (addr : BtAddrLe)
    {f : NodeInfo → NodeInfo} (hf : ∀ n, (f n).known = n.known) :
    (intResult (Fw.exec (Hub.updateByAddr addr f) d)).2.InOrder addrs := by
  rw [exec_updateByAddr]
  cases d.find addr with
  | none => exact h
  | some i => exact h.edit (hf _)

/-- What `node_manager_add_node` returns, from the list of the addresses with the new one -/
def indexIn (addrs : List BtAddrLe) (addr : BtAddrLe) : Int :=
  if addrs.idxOf addr < maxNodes then addrs.idxOf addr else -eNOMEM

/-- `node_manager_add_node` puts the address where it is in the list, or refuses it. -/
theorem NodeManager.InOrder.addNode (h : d.InOrder addrs) (hnodup : addrs.Nodup)
    (addr : BtAddrLe) (rssi : Int8) (advData : Option (List UInt8)) (len : UInt8)
    (uptime : UInt32) :
    let r := Fw.exec (nodeManagerAddNode addr rssi advData len uptime) d
    let addrs' := if addr ∈ addrs then addrs else addrs ++ [addr]
    r.1 = indexIn addrs' addr ∧ r.2.InOrder addrs' := by
  dsimp only
  rw [exec_addNode, h.find hnodup, h.firstSlot_free]
  by_cases hmem : addr ∈ addrs
  · rw [if_pos hmem]
    unfold indexIn
    by_cases hlt : addrs.idxOf addr < maxNodes
    · rw [dif_pos ⟨hmem, hlt⟩, if_pos hlt]
      exact ⟨rfl, h.edit (known_refreshed ..)⟩
    · -- the address has no record, so none is free
      have hfull : ¬ addrs.length < maxNodes := fun hlen =>
        hlt (Nat.lt_trans (List.idxOf_lt_length_of_mem hmem) hlen)
      rw [dif_neg fun hin => hlt hin.2, dif_neg hfull, if_neg hlt]
      exact ⟨rfl, h⟩
  · -- a new address comes last, with a record if there is room
    have hidx : (addrs ++ [addr]).idxOf addr = addrs.length := by
      rw [List.idxOf_append_of_notMem hmem]
      simp
    rw [if_neg hmem, dif_neg fun hin => hmem hin.1]
    unfold indexIn
    rw [hidx]
    by_cases hlt : addrs.length < maxNodes
    · rw [dif_pos hlt, if_pos hlt]
      exact ⟨rfl, h.append hlt (by rw [known_refreshed]; rfl)⟩
    · rw [dif_neg hlt, if_neg hlt]
      exact ⟨rfl, h.append_full (Nat.not_lt.mp hlt)⟩

/-- The valid records are counted up to the size of the table. -/
theorem NodeManager.InOrder.count (h : d.InOrder addrs) :
    countSlots NodeInfo.valid d.nodes = min addrs.length maxNodes := by
  unfold countSlots
  have hset : (Finset.univ.filter fun i => (d.nodes i).valid = true) =
      Finset.univ.filter fun i : Fin maxNodes => i.val < addrs.length := by
    ext i
    simp only [Finset.mem_filter, Finset.mem_univ, true_and, h.valid_iff]
  rw [hset, Fin.card_filter_val_lt, Nat.min_comm]

end

/-- **The order of discovery**: after every run of calls from `node_manager_init`, the records
hold the addresses in the order in which they were first added. -/
theorem inOrder_after (d₀ : NodeManager) (calls : List NodeCall) :
    (NodeManager.after d₀ calls).InOrder (seenAddrs calls) := by
  -- on the last call: only `add_node` can add an address to the list
  induction calls using List.reverseRecOn with
  | nil =>
    intro i
    simp [NodeManager.after, Fw.exec, seenAddrs, NodeInfo.known]
  | append_singleton calls call ih =>
    rw [NodeManager.after_snoc]
    cases call with
    | addNode addr rssi advData len uptime =>
      rw [seenAddrs_snoc_some rfl]
      exact (ih.addNode (nodup_seenAddrs calls) addr rssi advData len uptime).2
    | updateConnection addr conn =>
      rw [seenAddrs_snoc_none rfl]
      exact ih.updateByAddr addr fun _ => rfl
    | updateReading addr reading uptime =>
      rw [seenAddrs_snoc_none rfl]
      exact ih.updateByAddr addr fun _ => rfl
    | updateBattery addr batteryLevel =>
      rw [seenAddrs_snoc_none rfl]
      exact ih.updateByAddr addr fun _ => rfl
    | bindNode addr =>
      rw [seenAddrs_snoc_none rfl]
      exact ih.updateByAddr addr fun _ => rfl
    | getByAddr addr =>
      rw [seenAddrs_snoc_none rfl]
      simpa [NodeCall.exec, Fw.exec] using ih
    | getCount =>
      rw [seenAddrs_snoc_none rfl]
      simpa [NodeCall.exec, intResult, Fw.exec, nodeManagerGetCount] using ih

/-! ## What the operations return -/

/-- What the operations say of the table `d` is read off the list `addrs`:
1. the count is that of the addresses with a record;
2. the indices below the count are the records in use, for `node_manager_get_by_index`;
3. the record at such an index has the address at that place of the list;
4. the record of an address, for `node_manager_get_by_addr`, is that of its place;
5. a known address is added at its place, and a new one behind the last one, where there is a
record for it. -/
structure ReadsOff (d : NodeManager) (addrs : List BtAddrLe) : Prop where
  count : (Fw.exec nodeManagerGetCount d).1 = min addrs.length maxNodes
  byIndex : ∀ index : Int, ((Fw.exec (nodeManagerGetByIndex index) d).1.map Fin.val) =
    if 0 ≤ index ∧ index < min addrs.length maxNodes then some index.toNat else none
  record : ∀ i : Fin maxNodes, i.val < addrs.length →
    addrs[i.val]? = some (d.nodes i).addr
  byAddr : ∀ addr, ((Fw.exec (nodeManagerGetByAddr addr) d).1.map Fin.val) =
    if addr ∈ addrs ∧ addrs.idxOf addr < maxNodes then some (addrs.idxOf addr) else none
  added : ∀ addr rssi advData len uptime,
    (Fw.exec (nodeManagerAddNode addr rssi advData len uptime) d).1 =
      indexIn (if addr ∈ addrs then addrs else addrs ++ [addr]) addr

/-- A table in order says so. -/
theorem NodeManager.InOrder.readsOff {d : NodeManager} {addrs : List BtAddrLe}
    (h : d.InOrder addrs) (hnodup : addrs.Nodup) : ReadsOff d addrs where
  count := by
    simp [Fw.exec, nodeManagerGetCount, h.count]
  byIndex index := by
    unfold nodeManagerGetByIndex
    split
    -- a record is returned if it is valid, that is, if the list is so long
    next hin =>
      simp only [Fw.exec, run_bind, run_statics, run_pure]
      have hvalid := h.valid_iff ⟨index.toNat, hin.2⟩
      by_cases hlt : index.toNat < addrs.length
      · rw [if_pos (hvalid.mpr hlt), if_pos]
        · rfl
        · omega
      · rw [if_neg (hvalid.not.mpr hlt), if_neg]
        · rfl
        · omega
    next hout =>
      rw [if_neg (by omega)]
      rfl
  record i hi := by
    rw [← h i, known_eq_some]
    exact ⟨(h.valid_iff i).mpr hi, rfl⟩
  byAddr addr := by
    simp only [Fw.exec, nodeManagerGetByAddr_run, h.find hnodup]
    split
    next hin => rfl
    next hout => rfl
  added addr rssi advData len uptime := (h.addNode hnodup addr rssi advData len uptime).1

/-- **The node table lists the nodes in the order of discovery**, after every run of calls from
`node_manager_init`: all its operations answer from the list of the addresses, each where it was
first added. -/
theorem nodeManager_in_order (d₀ : NodeManager) (calls : List NodeCall) :
    ReadsOff (NodeManager.after d₀ calls) (seenAddrs calls) :=
  (inOrder_after d₀ calls).readsOff (nodup_seenAddrs calls)

end SensorNet.Hub
