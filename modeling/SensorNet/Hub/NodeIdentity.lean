import SensorNet.Hub.NodeMap
import SensorNet.Common.BleAdvertisement

/-!
# The identity the hub records for a node

`node_manager_add_node` records as `node_id` the first `NODE_ID_LEN` bytes of what it is
handed. Of an advertisement these are all bytes but the last one, and not the six of the
node id (`take_advertisementBytes`): the readings are part of the identity. So a second
advertisement of the same node leaves the recorded id alone iff all that it says is what
the first one said, but for the high byte of the counter (`identity_iff`).
-/

namespace SensorNet.Hub

open SensorNet.Js SensorNet.Common Fw

/-! ## Hearing an advertisement -/

/-- Hand an advertisement, as `encodeNodeAdvertisement` writes it, to
`node_manager_add_node`. -/
def NodeManager.heard (setFloat32 : BitVec 32 → BitVec 32) (addr : BtAddrLe) (rssi : Int8)
    (uptime : UInt32) (adv : ReceivedAdvertisement) (d : NodeManager) : NodeManager :=
  match encodeNodeAdvertisementWith setFloat32 adv with
  | .ok data =>
    (Fw.exec (nodeManagerAddNode addr rssi (some data.bytes) (UInt8.ofNat data.length)
      uptime) d).2
  | .error _ => d

/-- The id recorded for an address. -/
def NodeManager.recordedId (d : NodeManager) (addr : BtAddrLe) :
    Option (Fin nodeIdLen → UInt8) :=
  (d.find addr).map fun i => (d.nodes i).nodeId

/-- The table has the address, or a free record. -/
def NodeManager.HasRoom (d : NodeManager) (addr : BtAddrLe) : Prop :=
  d.find addr ≠ none ∨ ∃ i, (d.nodes i).valid = false

/-- The id that is copied from `data`. -/
def idOf (data : List UInt8) : Fin nodeIdLen → UInt8 := fun i => data.getD i.val 0

theorem refreshed_nodeId (n : NodeInfo) (rssi : Int8) (data : List UInt8) {len : UInt8}
    (hlen : nodeIdLen ≤ len.toNat) (uptime : UInt32) :
    (n.refreshed rssi (some data) len uptime).nodeId = idOf data := by
  have hpos : 0 < len := by
    rw [UInt8.lt_iff_toNat_lt]
    exact Nat.lt_of_lt_of_le (by decide : 0 < nodeIdLen) hlen
  rw [NodeInfo.refreshed]
  simp only [hpos, if_true]
  funext i
  have hi : i.val < min len.toNat nodeIdLen := by
    rw [Nat.min_eq_right hlen]
    exact i.isLt
  exact if_pos hi

section Heard

variable (setFloat32 : BitVec 32 → BitVec 32) (addr : BtAddrLe) (rssi : Int8)
  (uptime : UInt32) {adv : ReceivedAdvertisement} {mac : List UInt8} (hmac : mac.length = 6)
  (hid : adv.nodeId = macText mac)

include hmac hid

/-- What is handed on are the 17 bytes of the layout. -/
theorem heard_eq (d : NodeManager) :
    d.heard setFloat32 addr rssi uptime adv =
      (Fw.exec (nodeManagerAddNode addr rssi (some (advertisementBytes
        adv.toNodeAdvertisement mac (setFloat32 adv.lastReading))) 17 uptime) d).2 := by
  rw [NodeManager.heard, encode_eq setFloat32 hmac hid]
  simp only [Uint8Array.bytes_ofBytes, Uint8Array.length_ofBytes,
    length_advertisementBytes _ hmac]
  rfl

/-- With room for the address, its record gets the id from the advertisement. -/
theorem recordedId_heard {d : NodeManager} (h : d.HasRoom addr) :
    (d.heard setFloat32 addr rssi uptime adv).recordedId addr = some (idOf
      (advertisementBytes adv.toNodeAdvertisement mac (setFloat32 adv.lastReading))) := by
  rw [heard_eq setFloat32 addr rssi uptime hmac hid, exec_addNode]
  generalize advertisementBytes adv.toNodeAdvertisement mac (setFloat32 adv.lastReading) = data
  -- the record is written to slot `i`, where the address is found afterwards
  have hwritten : ∀ (i : Fin maxNodes) (n : NodeInfo), n.valid = true → n.addr = addr →
      (∀ j < i, ((d.nodes j).valid && (d.nodes j).addr == addr) = false) →
      NodeManager.recordedId ⟨Function.update d.nodes i
        (n.refreshed rssi (some data) 17 uptime)⟩ addr = some (idOf data) := by
    intro i n hvalid haddr hbefore
    obtain ⟨hnvalid, hnaddr, -⟩ := refreshed_keeps n rssi (some data) 17 uptime
    have hfind : NodeManager.find ⟨Function.update d.nodes i
        (n.refreshed rssi (some data) 17 uptime)⟩ addr = some i := by
      refine firstSlot_update ?_ hbefore
      rw [hnvalid, hnaddr, hvalid, haddr, Bool.true_and, beq_self_eq_true]
    rw [NodeManager.recordedId, hfind, Option.map_some]
    show some (Function.update d.nodes i _ i).nodeId = _
    rw [Function.update_self, refreshed_nodeId _ _ _ (by decide)]
  cases hfind : d.find addr with
  | some i =>
    obtain ⟨hfound, hbefore⟩ := firstSlot_eq_some_iff.mp hfind
    rw [Bool.and_eq_true, beq_iff_eq] at hfound
    exact hwritten i (d.nodes i) hfound.1 hfound.2 hbefore
  | none =>
    obtain hknown | ⟨free, hfree⟩ := h
    · exact absurd hfind hknown
    · obtain ⟨i, hi⟩ := exists_firstSlot (p := fun n : NodeInfo => !n.valid) (t := d.nodes)
        (i := free) (by rw [hfree]; rfl)
      simp only [hi]
      exact hwritten i _ rfl rfl fun j _ => firstSlot_eq_none_iff.mp hfind j

/-- A full table without the address stays as it is. -/
theorem heard_of_not_hasRoom {d : NodeManager} (h : ¬ d.HasRoom addr) :
    d.heard setFloat32 addr rssi uptime adv = d := by
  obtain ⟨hfind, hfull⟩ := not_or.mp h
  -- no slot is free, so the call ends with `-ENOMEM`
  have hnone : firstSlot (fun n : NodeInfo => !n.valid) d.nodes = none := by
    refine firstSlot_eq_none_iff.mpr fun i => ?_
    rw [Bool.not_eq_false']
    exact Bool.eq_true_of_not_eq_false fun hi => hfull ⟨i, hi⟩
  rw [heard_eq setFloat32 addr rssi uptime hmac hid, exec_addNode, not_not.mp hfind]
  simp only [hnone]

end Heard

/-- Where an id is recorded for the address, there is room for it. -/
theorem hasRoom_of_recordedId {d : NodeManager} {addr : BtAddrLe}
    {nodeId : Fin nodeIdLen → UInt8} (h : d.recordedId addr = some nodeId) :
    d.HasRoom addr := by
  refine .inl fun hfind => ?_
  rw [NodeManager.recordedId, hfind] at h
  cases h

/-! ## The bytes of the identity -/

theorem idOf_eq_iff {x y : List UInt8} (hx : nodeIdLen ≤ x.length)
    (hy : nodeIdLen ≤ y.length) : idOf x = idOf y ↔ x.take nodeIdLen = y.take nodeIdLen := by
  constructor
  · intro h
    refine List.ext_getElem? fun i => ?_
    rw [List.getElem?_take, List.getElem?_take]
    split
    next hi =>
      have hbyte : x.getD i 0 = y.getD i 0 := congrFun h ⟨i, hi⟩
      rw [List.getD_eq_getElem?_getD, List.getD_eq_getElem?_getD,
        List.getElem?_eq_getElem (by omega), List.getElem?_eq_getElem (by omega),
        Option.getD_some, Option.getD_some] at hbyte
      rw [List.getElem?_eq_getElem (by omega), List.getElem?_eq_getElem (by omega), hbyte]
    next => rfl
  · intro h
    funext i
    have hbyte := congrArg (fun bytes => bytes.getD i.val 0) h
    simpa only [List.getD_eq_getElem?_getD, List.getElem?_take, i.isLt, if_true, idOf]
      using hbyte

/-- The bytes of an advertisement but for the high byte of its counter. -/
def identityBytes (adv : NodeAdvertisement) (mac : List UInt8) (reading : BitVec 32) :
    List UInt8 :=
  leBytes 2 adv.companyId ++ (leBytes 1 adv.version ++ (mac ++
    (leBytes 1 adv.batteryPercent ++ (leBytes 4 reading.toNat ++
      (leBytes 1 adv.faultFlags ++ leBytes 1 adv.counter)))))

/-- What becomes the id is not the node id, but nearly all of the advertisement. -/
theorem take_advertisementBytes (adv : NodeAdvertisement) {mac : List UInt8}
    (hmac : mac.length = 6) (reading : BitVec 32) :
    (advertisementBytes adv mac reading).take nodeIdLen = identityBytes adv mac reading := by
  obtain ⟨m₀, m₁, m₂, m₃, m₄, m₅, rfl⟩ := exists_six hmac
  rfl

theorem append_eq_iff {α : Type} {s s' t t' : List α} (h : s.length = s'.length) :
    s ++ t = s' ++ t' ↔ s = s' ∧ t = t' := by
  constructor
  · intro heq
    exact List.append_inj heq h
  · rintro ⟨rfl, rfl⟩
    rfl

/-- The two advertisements say the same of everything but the node id and the high byte
of the counter; of a reading counts the pattern that is sent. -/
structure SameReadings (setFloat32 : BitVec 32 → BitVec 32) (a b : NodeAdvertisement) :
    Prop where
  companyId : a.companyId = b.companyId
  version : a.version = b.version
  batteryPercent : a.batteryPercent = b.batteryPercent
  lastReading : setFloat32 a.lastReading = setFloat32 b.lastReading
  faultFlags : a.faultFlags = b.faultFlags
  counter : a.counter % 256 = b.counter % 256

/-- The identities agree iff the node ids and the readings do. -/
theorem identityBytes_eq_iff (setFloat32 : BitVec 32 → BitVec 32) {a b : NodeAdvertisement}
    (ha : a.InRange) (hb : b.InRange) {mac mac' : List UInt8} (hmac : mac.length = 6)
    (hmac' : mac'.length = 6) :
    identityBytes a mac (setFloat32 a.lastReading) =
        identityBytes b mac' (setFloat32 b.lastReading) ↔
      mac = mac' ∧ SameReadings setFloat32 a b := by
  have hlen : ∀ k n m, (leBytes k n).length = (leBytes k m).length := by
    intro k n m
    rw [length_leBytes, length_leBytes]
  have hsmall : ∀ {k n m}, n < 256 ^ k → m < 256 ^ k → (leBytes k n = leBytes k m ↔ n = m) := by
    intro k n m hn hm
    rw [leBytes_eq_iff, Nat.mod_eq_of_lt hn, Nat.mod_eq_of_lt hm]
  -- the pieces have the same lengths, so the strings agree piece by piece
  rw [identityBytes, identityBytes, append_eq_iff (hlen _ _ _), append_eq_iff (hlen _ _ _),
    append_eq_iff (hmac.trans hmac'.symm), append_eq_iff (hlen _ _ _),
    append_eq_iff (hlen _ _ _), append_eq_iff (hlen _ _ _),
    hsmall (k := 2) ha.companyId hb.companyId, hsmall (k := 1) ha.version hb.version,
    hsmall (k := 1) ha.batteryPercent hb.batteryPercent,
    hsmall (k := 4) (BitVec.isLt _) (BitVec.isLt _),
    hsmall (k := 1) ha.faultFlags hb.faultFlags, leBytes_eq_iff 1, BitVec.toNat_inj]
  constructor
  · rintro ⟨hcompany, hversion, hid, hbattery, hreading, hfaults, hcounter⟩
    exact ⟨hid, hcompany, hversion, hbattery, hreading, hfaults, hcounter⟩
  · rintro ⟨hid, hcompany, hversion, hbattery, hreading, hfaults, hcounter⟩
    exact ⟨hcompany, hversion, hid, hbattery, hreading, hfaults, hcounter⟩

/-! ## Two advertisements -/

/-- After `a` the table records for the address what it records after `a` and `b`. -/
def NodeManager.IdUnchanged (setFloat32 : BitVec 32 → BitVec 32) (d : NodeManager)
    (addr : BtAddrLe) (rssi rssi' : Int8) (uptime uptime' : UInt32)
    (a b : ReceivedAdvertisement) : Prop :=
  let first := d.heard setFloat32 addr rssi uptime a
  let second := first.heard setFloat32 addr rssi' uptime' b
  second.recordedId addr = first.recordedId addr

section Two

variable (setFloat32 : BitVec 32 → BitVec 32) (addr : BtAddrLe) (rssi rssi' : Int8)
  (uptime uptime' : UInt32) {a b : ReceivedAdvertisement} (ha : a.InRange) (hb : b.InRange)

include ha hb

/-- With room, the id is unchanged iff the advertisements say the same. -/
theorem idUnchanged_iff {d : NodeManager} (h : d.HasRoom addr) :
    d.IdUnchanged setFloat32 addr rssi rssi' uptime uptime' a b ↔
      a.nodeId = b.nodeId ∧
        SameReadings setFloat32 a.toNodeAdvertisement b.toNodeAdvertisement := by
  obtain ⟨mac, hmac, hid⟩ := (isMac_iff _).mp ha.nodeId
  obtain ⟨mac', hmac', hid'⟩ := (isMac_iff _).mp hb.nodeId
  have hfirst := recordedId_heard setFloat32 addr rssi uptime hmac hid h
  have hsecond := recordedId_heard setFloat32 addr rssi' uptime' hmac' hid'
    (hasRoom_of_recordedId hfirst)
  have hne : ∀ {l : List UInt8}, l.length = 6 → l ≠ [] := by
    rintro l hl rfl
    cases hl
  have hlen : ∀ (adv : NodeAdvertisement) {l : List UInt8} (r : BitVec 32), l.length = 6 →
      nodeIdLen ≤ (advertisementBytes adv l r).length := by
    intro adv l r hl
    rw [length_advertisementBytes adv hl]
    decide
  show _ = _ ↔ _
  rw [hsecond, hfirst, Option.some_inj, idOf_eq_iff (hlen _ _ hmac') (hlen _ _ hmac),
    take_advertisementBytes _ hmac', take_advertisementBytes _ hmac, eq_comm,
    identityBytes_eq_iff setFloat32 ha hb hmac hmac', hid, hid',
    macText_inj (hne hmac) (hne hmac')]

/-- Without room, nothing is recorded. -/
theorem idUnchanged_of_not_hasRoom {d : NodeManager} (h : ¬ d.HasRoom addr) :
    d.IdUnchanged setFloat32 addr rssi rssi' uptime uptime' a b := by
  obtain ⟨mac, hmac, hid⟩ := (isMac_iff _).mp ha.nodeId
  obtain ⟨mac', hmac', hid'⟩ := (isMac_iff _).mp hb.nodeId
  have hfirst := heard_of_not_hasRoom setFloat32 addr rssi uptime hmac hid h
  have hsecond := heard_of_not_hasRoom setFloat32 addr rssi' uptime' hmac' hid' h
  show (NodeManager.heard _ _ _ _ _ (NodeManager.heard _ _ _ _ _ _)).recordedId addr = _
  rw [hfirst, hsecond]

end Two

/-- **The recorded id and the node**: two advertisements of an address leave the same id
iff they are of the same node, exactly when

1. there is room for the address, and two advertisements of the same node also agree in
   their readings; or
2. there is no room, so that nothing is recorded, and the node is the same. -/
theorem identity_iff (setFloat32 : BitVec 32 → BitVec 32) (d : NodeManager) (addr : BtAddrLe)
    (rssi rssi' : Int8) (uptime uptime' : UInt32) (a b : ReceivedAdvertisement)
    (ha : a.InRange) (hb : b.InRange) :
    (d.IdUnchanged setFloat32 addr rssi rssi' uptime uptime' a b ↔ a.nodeId = b.nodeId) ↔
      (d.HasRoom addr ∧ (a.nodeId = b.nodeId →
        SameReadings setFloat32 a.toNodeAdvertisement b.toNodeAdvertisement)) ∨
      (¬ d.HasRoom addr ∧ a.nodeId = b.nodeId) := by
  by_cases hroom : d.HasRoom addr
  · rw [idUnchanged_iff setFloat32 addr rssi rssi' uptime uptime' ha hb hroom]
    simp only [hroom, true_and, not_true_eq_false, false_and, or_false]
    constructor
    · intro h hsame
      exact (h.mpr hsame).2
    · intro h
      exact ⟨fun hsame => hsame.1, fun hsame => ⟨hsame, h hsame⟩⟩
  · have hunchanged :=
      idUnchanged_of_not_hasRoom setFloat32 addr rssi rssi' uptime uptime' ha hb hroom
    simp only [hroom, hunchanged, true_iff, not_false_eq_true, true_and, false_and, false_or]

/-- The sample again, one sample later and with the battery one percent lower. -/
def laterAdvertisement : NodeAdvertisement :=
  { sampleAdvertisement with batteryPercent := 86, counter := 301 }

theorem laterAdvertisement_inRange : laterAdvertisement.InRange where
  companyId := sampleAdvertisement_inRange.companyId
  version := sampleAdvertisement_inRange.version
  nodeId := sampleAdvertisement_inRange.nodeId
  batteryPercent := by decide
  faultFlags := sampleAdvertisement_inRange.faultFlags
  counter := by decide

/-- The sample twice, heard by an empty table. -/
theorem identity_iff_sample :
    (NodeManager.IdUnchanged id ⟨fun _ => {}⟩ ⟨1, 7⟩ (-60) (-61) 10 20
        ⟨sampleAdvertisement, none⟩ ⟨sampleAdvertisement, none⟩ ↔
      sampleAdvertisement.nodeId = sampleAdvertisement.nodeId) :=
  (identity_iff id ⟨fun _ => {}⟩ ⟨1, 7⟩ (-60) (-61) 10 20 ⟨sampleAdvertisement, none⟩
    ⟨sampleAdvertisement, none⟩ sampleAdvertisement_inRange sampleAdvertisement_inRange).mpr
    (.inl ⟨.inr ⟨⟨0, by decide⟩, rfl⟩, fun _ => ⟨rfl, rfl, rfl, rfl, rfl, rfl⟩⟩)

/-- The next sample of a node gives it another id. -/
theorem id_follows_battery :
    ¬ ∀ (d : NodeManager) (addr : BtAddrLe) (rssi rssi' : Int8) (uptime uptime' : UInt32)
      (a b : ReceivedAdvertisement), a.InRange → b.InRange →
      (d.IdUnchanged id addr rssi rssi' uptime uptime' a b ↔ a.nodeId = b.nodeId) := by
  intro h
  have hsame := (h ⟨fun _ => {}⟩ ⟨1, 7⟩ (-60) (-61) 10 20 ⟨sampleAdvertisement, none⟩
    ⟨laterAdvertisement, none⟩ sampleAdvertisement_inRange laterAdvertisement_inRange).mpr rfl
  rw [idUnchanged_iff id ⟨1, 7⟩ (-60) (-61) 10 20 sampleAdvertisement_inRange
    laterAdvertisement_inRange (.inr ⟨⟨0, by decide⟩, rfl⟩)] at hsame
  exact absurd hsame.2.batteryPercent (by decide)

end SensorNet.Hub
