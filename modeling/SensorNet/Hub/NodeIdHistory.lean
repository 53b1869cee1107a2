import SensorNet.Hub.NodeIdentity

/-!
# The recorded id and earlier advertisements

`node_manager_add_node` clears the record of an address when it is first seen. After that it
copies as many bytes of the id as it is handed, and leaves the bytes behind them.

- `lastByte`: the byte that the last long enough advertisement had at a position.
- `idHistory_after`: the recorded id consists of these bytes, after every run of calls.
- `latestIdOnly_iff`: so the id is that of the latest advertisement alone iff no longer one
  before it left anything but zeros behind its end.
-/

namespace SensorNet.Hub

open Fw

/-! ## The bytes handed over -/

/-- The byte that a call hands over for a position of the id of an address -/
def NodeCall.idByte (addr : BtAddrLe) (j : Fin nodeIdLen) : NodeCall → Option UInt8
  | .addNode addr' _ (some bytes) len _ =>
    if addr' = addr ∧ j.val < len.toNat then some (bytes.getD j.val 0) else none
  | .addNode _ _ none _ _ | .updateConnection .. | .updateReading .. | .updateBattery ..
  | .bindNode _ | .getByAddr _ | .getCount => none

/-- The byte for the position in the last advertisement of the address that is long enough, 0 if
there is none -/
def lastByte (calls : List NodeCall) (addr : BtAddrLe) (j : Fin nodeIdLen) : UInt8 :=
  ((calls.filterMap (NodeCall.idByte addr j)).getLast?).getD 0

theorem lastByte_snoc (calls : List NodeCall) (call : NodeCall) (addr : BtAddrLe)
    (j : Fin nodeIdLen) :
    lastByte (calls ++ [call]) addr j = (call.idByte addr j).getD (lastByte calls addr j) := by
  rw [lastByte, List.filterMap_append, List.filterMap_cons]
  cases call.idByte addr j with
  | none => rw [List.filterMap_nil, List.append_nil, Option.getD_none, lastByte]
  | some byte => rw [List.filterMap_nil, List.getLast?_append, List.getLast?_singleton,
      Option.some_or, Option.getD_some, Option.getD_some]

/-- Where `node_manager_add_node` writes to a record, it copies what it is handed. -/
theorem refreshed_idByte (n : NodeInfo) (addr : BtAddrLe) (rssi : Int8)
    (advData : Option (List UInt8)) (len : UInt8) (uptime : UInt32) (j : Fin nodeIdLen) :
    (n.refreshed rssi advData len uptime).nodeId j =
      ((NodeCall.addNode addr rssi advData len uptime).idByte addr j).getD (n.nodeId j) := by
  cases advData with
  | none => rfl
  | some bytes =>
    have hmin : j.val < min len.toNat nodeIdLen ↔ j.val < len.toNat := by
      rw [Nat.lt_min, and_iff_left j.isLt]
    rw [NodeInfo.refreshed, NodeCall.idByte]
    by_cases hlen : 0 < len
    · simp only [hlen, if_true, NodeInfo.copyId, hmin, true_and]
      by_cases hj : j.val < len.toNat
      · rw [if_pos hj, if_pos hj, Option.getD_some]
      · rw [if_neg hj, if_neg hj, Option.getD_none]
    · -- with `len` 0 nothing is copied
      have hj : ¬ j.val < len.toNat := fun hj =>
        hlen (UInt8.lt_iff_toNat_lt.mpr (Nat.lt_of_le_of_lt (Nat.zero_le _) hj))
      simp only [hlen, if_false, hj, and_false, Option.getD_none]

/-- A call for another address hands over nothing for this one. -/
theorem idByte_of_ne {addr addr' : BtAddrLe} (hne : addr ≠ addr') (rssi : Int8)
    (advData : Option (List UInt8)) (len : UInt8) (uptime : UInt32) (j : Fin nodeIdLen) :
    (NodeCall.addNode addr rssi advData len uptime).idByte addr' j = none := by
  cases advData with
  | none => rfl
  | some bytes => exact if_neg fun h => hne h.1

/-! ## What is recorded -/

/-- After the calls the map records the last bytes:
1. for an address that it has;
2. and for a new one there were none, as long as it can be added. -/
structure IdHistory (calls : List NodeCall) (m : NodeMap) : Prop where
  known : ∀ addr i n, m.entry addr = some (i, n) → ∀ j, n.nodeId j = lastByte calls addr j
  fresh : ∀ addr i, m.entry addr = none → m.Free i → ∀ j, lastByte calls addr j = 0

variable {calls : List NodeCall} {m m' : NodeMap} {call : NodeCall} {addr : BtAddrLe}

namespace IdHistory

/-- A call that hands over nothing and leaves the map. -/
theorem same (h : IdHistory calls m) (hnone : ∀ addr j, call.idByte addr j = none) :
    IdHistory (calls ++ [call]) m where
  known addr i n hentry j := by
    rw [lastByte_snoc, hnone, Option.getD_none]
    exact h.known addr i n hentry j
  fresh addr i hentry hfree j := by
    rw [lastByte_snoc, hnone, Option.getD_none]
    exact h.fresh addr i hentry hfree j

/-- A call that writes the record of one address. -/
theorem write (h : IdHistory calls m) {i : Fin maxNodes} {n : NodeInfo}
    (hslot : ∀ i' n', m.entry addr = some (i', n') → i' = i)
    (hm' : m'.entry = Function.update m.entry addr (some (i, n)))
    (hid : ∀ j, n.nodeId j = lastByte (calls ++ [call]) addr j)
    (hother : ∀ addr', addr' ≠ addr → ∀ j, call.idByte addr' j = none) :
    IdHistory (calls ++ [call]) m' where
  known addr' i' n' hentry j := by
    by_cases haddr : addr' = addr
    · subst haddr
      rw [hm', Function.update_self] at hentry
      cases hentry
      exact hid j
    · rw [hm', Function.update_of_ne haddr] at hentry
      rw [lastByte_snoc, hother addr' haddr, Option.getD_none]
      exact h.known addr' i' n' hentry j
  fresh addr' i' hentry hfree j := by
    have haddr : addr' ≠ addr := by
      rintro rfl
      rw [hm', Function.update_self] at hentry
      cases hentry
    rw [hm', Function.update_of_ne haddr] at hentry
    -- the slot was free before the write, too
    have hfree' : m.Free i' := by
      intro k a hk
      by_cases hkaddr : k = addr
      · subst hkaddr
        refine hfree k n ?_
        rw [hm', Function.update_self, hslot i' a hk]
      · refine hfree k a ?_
        rw [hm', Function.update_of_ne hkaddr, hk]
    rw [lastByte_snoc, hother addr' haddr, Option.getD_none]
    exact h.fresh addr' i' hentry hfree' j

/-- An update that does not touch the id. -/
theorem edit (h : IdHistory calls m) {f : NodeInfo → NodeInfo} {r : NodeResult}
    (hspec : EditSpec m addr f r m') (hf : ∀ n, (f n).nodeId = n.nodeId)
    (hnone : ∀ addr j, call.idByte addr j = none) : IdHistory (calls ++ [call]) m' := by
  rcases hspec with ⟨i, n, hentry, -, hm'⟩ | ⟨-, -, rfl⟩
  · refine h.write (fun i' n' hentry' => ?_) hm' (fun j => ?_) fun addr' _ j => hnone addr' j
    · rw [hentry] at hentry'
      cases hentry'
      rfl
    · rw [lastByte_snoc, hnone, Option.getD_none, hf]
      exact h.known addr i n hentry j
  · exact h.same hnone

/-- Adding a node. -/
theorem addNode (h : IdHistory calls m) {rssi : Int8} {advData : Option (List UInt8)}
    {len : UInt8} {uptime : UInt32} {r : NodeResult}
    (hspec : (NodeCall.addNode addr rssi advData len uptime).Spec m r m') :
    IdHistory (calls ++ [.addNode addr rssi advData len uptime]) m' := by
  have hother : ∀ addr', addr' ≠ addr → ∀ j,
      (NodeCall.addNode addr rssi advData len uptime).idByte addr' j = none :=
    fun addr' hne j => idByte_of_ne hne.symm rssi advData len uptime j
  rcases hspec with ⟨i, n, hentry, -, hm'⟩ | ⟨i, hnew, hfree, -, hm'⟩ | ⟨hnew, hfull, -, rfl⟩
  · refine h.write (fun i' n' hentry' => ?_) hm' (fun j => ?_) hother
    · rw [hentry] at hentry'
      cases hentry'
      rfl
    · rw [lastByte_snoc, ← h.known addr i n hentry j]
      -- a known node: what the advertisement is too short for stays
      exact refreshed_idByte n addr rssi advData len uptime j
  · refine h.write (fun i' n' hentry' => ?_) hm' (fun j => ?_) hother
    · rw [hnew] at hentry'
      cases hentry'
    · rw [lastByte_snoc, h.fresh addr i hnew hfree j]
      -- a new node: the record may still hold what was there at boot
      exact refreshed_idByte _ addr rssi advData len uptime j
  · -- the call was refused, since the table is full
    refine { known := fun addr' i n hentry j => ?_, fresh := fun addr' i _ hfree => ?_ }
    · have hne : addr' ≠ addr := by
        rintro rfl
        rw [hnew] at hentry
        cases hentry
      rw [lastByte_snoc, hother addr' hne, Option.getD_none]
      exact h.known addr' i n hentry j
    · exact absurd hfree (m'.ncard_keys_eq_iff.mp hfull i)

/-- Every call that meets its specification. -/
theorem step (h : IdHistory calls m) {r : NodeResult} (hspec : call.Spec m r m') :
    IdHistory (calls ++ [call]) m' := by
  cases call with
  | addNode addr rssi advData len uptime => exact h.addNode hspec
  | updateConnection addr conn => exact h.edit hspec (fun _ => rfl) fun _ _ => rfl
  | updateReading addr reading uptime => exact h.edit hspec (fun _ => rfl) fun _ _ => rfl
  | updateBattery addr batteryLevel => exact h.edit hspec (fun _ => rfl) fun _ _ => rfl
  | bindNode addr => exact h.edit hspec (fun _ => rfl) fun _ _ => rfl
  | getByAddr addr =>
    obtain ⟨-, rfl⟩ := hspec
    exact h.same fun _ _ => rfl
  | getCount =>
    obtain ⟨-, rfl⟩ := hspec
    exact h.same fun _ _ => rfl

end IdHistory

/-- After every run of calls from `node_manager_init` the ids are made of the last bytes. -/
theorem idHistory_after (d₀ : NodeManager) (calls : List NodeCall) :
    ∃ m, (NodeManager.after d₀ calls).Holds m ∧ IdHistory calls m := by
  induction calls using List.reverseRecOn with
  | nil =>
    have hinit : NodeManager.after d₀ [] = ⟨fun _ => {}⟩ := by
      simp [NodeManager.after, Fw.exec]
    refine ⟨.empty, ?_, { known := fun addr i n hentry => ?_, fresh := fun _ _ _ _ _ => rfl }⟩
    · rw [hinit]
      exact Represents.of_unused fun _ => rfl
    · cases hentry
  | append_singleton calls call ih =>
    obtain ⟨m, hholds, hids⟩ := ih
    obtain ⟨m', hspec, hholds'⟩ := nodeCall_refines hholds call
    refine ⟨m', ?_, hids.step hspec⟩
    rw [NodeManager.after_snoc]
    exact hholds'

/-- The id recorded for an address, if there is one -/
theorem recordedId_after {d₀ : NodeManager} {nodeId : Fin nodeIdLen → UInt8}
    (h : (NodeManager.after d₀ calls).recordedId addr = some nodeId) :
    nodeId = lastByte calls addr := by
  obtain ⟨m, hholds, hids⟩ := idHistory_after d₀ calls
  rw [NodeManager.recordedId, Option.map_eq_some_iff] at h
  obtain ⟨i, hi, rfl⟩ := h
  exact funext (hids.known addr i _ (find_known hholds hi).1)

/-- A new address has had no byte before, as long as there is room for it. -/
theorem lastByte_of_new {d₀ : NodeManager} (hfind : (NodeManager.after d₀ calls).find addr = none)
    {i : Fin maxNodes} (hfree : ((NodeManager.after d₀ calls).nodes i).valid = false)
    (j : Fin nodeIdLen) : lastByte calls addr j = 0 := by
  obtain ⟨m, hholds, hids⟩ := idHistory_after d₀ calls
  exact hids.fresh addr i (find_unknown hholds hfind) (hholds.free_iff.mpr hfree) j

/-! ## The latest advertisement -/

/-- The first `min(len, NODE_ID_LEN)` bytes of an advertisement, followed by zeros -/
def paddedId (advData : List UInt8) (len : UInt8) : Fin nodeIdLen → UInt8 := fun j =>
  if j.val < min len.toNat nodeIdLen then advData.getD j.val 0 else 0

/-- After each call that hands over an advertisement, the id of the node is that of this
advertisement alone. -/
def LatestIdOnly (d₀ : NodeManager) (calls : List NodeCall) : Prop :=
  ∀ pre addr rssi advData len uptime post,
    calls = pre ++ .addNode addr rssi (some advData) len uptime :: post → 0 < len →
      ∀ nodeId, (NodeManager.after d₀
          (pre ++ [.addNode addr rssi (some advData) len uptime])).recordedId addr =
          some nodeId →
        nodeId = paddedId advData len

/-- Behind the end of each advertisement of a known address, there were only zeros in the last
advertisements of the address that reached there. -/
def TailsClear (d₀ : NodeManager) (calls : List NodeCall) : Prop :=
  ∀ pre addr rssi advData len uptime post,
    calls = pre ++ .addNode addr rssi (some advData) len uptime :: post → 0 < len →
      (NodeManager.after d₀ pre).find addr ≠ none →
        ∀ j : Fin nodeIdLen, len.toNat ≤ j.val → lastByte pre addr j = 0

/-- The bytes after an advertisement: its own, and behind its end those of before -/
theorem lastByte_addNode (pre : List NodeCall) (addr : BtAddrLe) (rssi : Int8)
    (advData : List UInt8) (len : UInt8) (uptime : UInt32) (j : Fin nodeIdLen) :
    lastByte (pre ++ [.addNode addr rssi (some advData) len uptime]) addr j =
      if j.val < min len.toNat nodeIdLen then advData.getD j.val 0 else lastByte pre addr j := by
  have hmin : j.val < min len.toNat nodeIdLen ↔ j.val < len.toNat := by
    rw [Nat.lt_min, and_iff_left j.isLt]
  rw [lastByte_snoc, NodeCall.idByte]
  simp only [hmin, true_and]
  by_cases hj : j.val < len.toNat
  · rw [if_pos hj, if_pos hj, Option.getD_some]
  · rw [if_neg hj, if_neg hj, Option.getD_none]

/-- An address that is known stays known. -/
theorem recordedId_of_known {d₀ : NodeManager} {pre : List NodeCall}
    (h : (NodeManager.after d₀ pre).find addr ≠ none) (more : List NodeCall) :
    ∃ nodeId, (NodeManager.after d₀ (pre ++ more)).recordedId addr = some nodeId := by
  obtain ⟨i, hi⟩ := Option.ne_none_iff_exists'.mp h
  refine ⟨((NodeManager.after d₀ (pre ++ more)).nodes i).nodeId, ?_⟩
  rw [NodeManager.recordedId, find_after_append hi more, Option.map_some]

/-- A new address gets a record only where there is room. -/
theorem exists_free_of_recorded {d : NodeManager} (hfind : d.find addr = none) {rssi : Int8}
    {advData : Option (List UInt8)} {len : UInt8} {uptime : UInt32}
    {nodeId : Fin nodeIdLen → UInt8}
    (h : ((NodeCall.addNode addr rssi advData len uptime).exec d).2.recordedId addr =
      some nodeId) : ∃ i, (d.nodes i).valid = false := by
  by_contra hfull
  have hnone : firstSlot (fun n : NodeInfo => !n.valid) d.nodes = none := by
    refine firstSlot_eq_none_iff.mpr fun i => ?_
    rw [Bool.not_eq_false']
    exact Bool.eq_true_of_not_eq_false fun hi => hfull ⟨i, hi⟩
  have hsame : ((NodeCall.addNode addr rssi advData len uptime).exec d).2 = d := by
    rw [NodeCall.exec, exec_addNode, hfind]
    simp only [hnone, intResult]
  rw [hsame, NodeManager.recordedId, hfind] at h
  cases h

/-- **The recorded id and the latest advertisement**: in a run of calls from
`node_manager_init`, the id recorded after each advertisement is that of this advertisement
alone iff none of them leaves bytes of longer ones before it. -/
theorem latestIdOnly_iff (d₀ : NodeManager) (calls : List NodeCall) :
    LatestIdOnly d₀ calls ↔ TailsClear d₀ calls := by
  constructor
  · intro hlatest pre addr rssi advData len uptime post hcalls hlen hknown j hj
    obtain ⟨nodeId, hid⟩ := recordedId_of_known hknown
      [.addNode addr rssi (some advData) len uptime]
    have hpadded := hlatest pre addr rssi advData len uptime post hcalls hlen nodeId hid
    have hlast := recordedId_after hid
    -- this byte is behind the end of the advertisement, so it should be zero
    have hend : ¬ j.val < min len.toNat nodeIdLen := by
      rw [Nat.lt_min]
      exact fun h => Nat.not_lt.mpr hj h.1
    have hbyte := congrFun (hlast.symm.trans hpadded) j
    rwa [lastByte_addNode, if_neg hend, paddedId, if_neg hend] at hbyte
  · intro hclear pre addr rssi advData len uptime post hcalls hlen nodeId hid
    rw [recordedId_after hid]
    funext j
    rw [lastByte_addNode, paddedId]
    by_cases hj : j.val < min len.toNat nodeIdLen
    · rw [if_pos hj, if_pos hj]
    · rw [if_neg hj, if_neg hj]
      have hend : len.toNat ≤ j.val := by
        rw [Nat.lt_min, and_iff_left j.isLt] at hj
        exact Nat.not_lt.mp hj
      by_cases hfind : (NodeManager.after d₀ pre).find addr = none
      · -- the record is new, so there was a free slot
        rw [NodeManager.after_snoc] at hid
        obtain ⟨i, hfree⟩ := exists_free_of_recorded hfind hid
        exact lastByte_of_new hfind hfree j
      · exact hclear pre addr rssi advData len uptime post hcalls hlen hfind j hend

/-- An advertisement of two bytes and then one of one byte -/
def shrinkingAdvertisement : List NodeCall :=
  [.addNode ⟨1, 7⟩ (-60) (some [1, 2]) 2 10, .addNode ⟨1, 7⟩ (-60) (some [3]) 1 20]

/-- The second byte of the first advertisement is still in the id after the second one. -/
theorem stale_id_byte : ¬ ∀ d₀ calls, LatestIdOnly d₀ calls := by
  intro h
  have hlatest := h ⟨fun _ => {}⟩ shrinkingAdvertisement
    [.addNode ⟨1, 7⟩ (-60) (some [1, 2]) 2 10] ⟨1, 7⟩ (-60) [3] 1 20 [] rfl (by decide)
  have hknown : (NodeManager.after ⟨fun _ => {}⟩
      [.addNode ⟨1, 7⟩ (-60) (some [1, 2]) 2 10]).find ⟨1, 7⟩ ≠ none := by decide
  obtain ⟨nodeId, hid⟩ := recordedId_of_known hknown [.addNode ⟨1, 7⟩ (-60) (some [3]) 1 20]
  have hstale : lastByte shrinkingAdvertisement ⟨1, 7⟩ ⟨1, by decide⟩ = 0 :=
    congrFun ((recordedId_after hid).symm.trans (hlatest nodeId hid)) ⟨1, by decide⟩
  exact absurd hstale (by decide)

end SensorNet.Hub
