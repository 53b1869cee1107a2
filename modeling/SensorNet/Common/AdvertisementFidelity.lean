import SensorNet.Common.BleAdvertisement
import Mathlib.Tactic.IntervalCases

/-!
# What is sent of an advertisement

`encodeNodeAdvertisement` checks nothing. Numbers lose what does not fit; of the node id
the first six parts between colons are read as `parseInt` reads them, missing parts are
zeros, and parts behind the sixth are overwritten by the fields that are written later. Only
with more than 14 parts there is an exception, when the parts do not fit into the buffer
(`encode_eq_sent`, `encode_throws`).

So the receiver reads what was to be sent iff the numbers fit and the node id is six
octets, of either case (`faithful_iff`).
-/

namespace SensorNet.Common

open SensorNet.Js

/-! ## Octets of either case -/

/-- The value of a part of a node id that is two hexadecimal digits, of either case -/
def octetOf : List Char → Option UInt8
  | [high, low] => do
    let high ← hexDigitValue high
    let low ← hexDigitValue low
    return UInt8.ofNat (16 * high + low)
  | _ => none

/-- The node id is these six octets. -/
structure Denotes (nodeId : String) (mac : List UInt8) : Prop where
  length : mac.length = 6
  octets : (nodeId.toList.splitOn ':').map octetOf = mac.map some

/-- The same six octets, regardless of the case of the digits -/
def SameNode (nodeId nodeId' : String) : Prop := ∃ mac, Denotes nodeId mac ∧ Denotes nodeId' mac

/-- The hexadecimal digits of either case -/
def hexChars : List Char := hexDigits ++ ['A', 'B', 'C', 'D', 'E', 'F']

theorem mem_hexChars_of_between {c : Char} {lo hi : Nat}
    (hall : ∀ n, lo ≤ n → n ≤ hi → Char.ofNat n ∈ hexChars) (hlo : lo ≤ c.toNat)
    (hhi : c.toNat ≤ hi) : c ∈ hexChars := by
  rw [← Char.ofNat_toNat c]
  exact hall c.toNat hlo hhi

/-- What has a value is one of them. -/
theorem mem_hexChars {c : Char} {d : Nat} (h : hexDigitValue c = some d) : c ∈ hexChars := by
  have hdigit : ∀ n, 48 ≤ n → n ≤ 57 → Char.ofNat n ∈ hexChars := by
    intro n hlo hhi
    interval_cases n <;> decide
  have hlower : ∀ n, 97 ≤ n → n ≤ 102 → Char.ofNat n ∈ hexChars := by
    intro n hlo hhi
    interval_cases n <;> decide
  have hupper : ∀ n, 65 ≤ n → n ≤ 70 → Char.ofNat n ∈ hexChars := by
    intro n hlo hhi
    interval_cases n <;> decide
  unfold hexDigitValue at h
  by_cases h₁ : '0' ≤ c ∧ c ≤ '9'
  · exact mem_hexChars_of_between hdigit h₁.1 h₁.2
  · rw [if_neg h₁] at h
    by_cases h₂ : 'a' ≤ c ∧ c ≤ 'f'
    · exact mem_hexChars_of_between hlower h₂.1 h₂.2
    · rw [if_neg h₂] at h
      by_cases h₃ : 'A' ≤ c ∧ c ≤ 'F'
      · exact mem_hexChars_of_between hupper h₃.1 h₃.2
      · rw [if_neg h₃] at h
        cases h

/-- Two digits are read as the octet. -/
theorem parse_octets :
    (hexChars.all fun high => hexChars.all fun low =>
      octetOf [high, low] == some (toUint8 (parseIntHex [high, low]))) = true := by
  decide +kernel

theorem toUint8_of_octetOf {part : List Char} {b : UInt8} (h : octetOf part = some b) :
    toUint8 (parseIntHex part) = b := by
  match part, h with
  | [high, low], h =>
    obtain ⟨dh, hh, h'⟩ := Option.bind_eq_some_iff.mp h
    obtain ⟨dl, hl, -⟩ := Option.bind_eq_some_iff.mp h'
    have hall := List.all_eq_true.mp (List.all_eq_true.mp parse_octets high (mem_hexChars hh))
      low (mem_hexChars hl)
    rw [beq_iff_eq, h] at hall
    exact (Option.some.inj hall).symm

theorem octetOf_hexByte (b : UInt8) : octetOf (hexByte b).toList = some b := by
  obtain ⟨high, hhigh, low, hlow, htext⟩ := (isOctet_iff _).mpr ⟨b, rfl⟩
  have hmem : ∀ c ∈ hexDigits, c ∈ hexChars := fun c hc => List.mem_append_left _ hc
  have hall := List.all_eq_true.mp (List.all_eq_true.mp parse_octets high (hmem high hhigh))
    low (hmem low hlow)
  have hbyte := toUint8_hexByte b
  rw [htext, String.toList_ofList] at hbyte ⊢
  rw [beq_iff_eq] at hall
  rw [hall, hbyte]

/-- The text of six bytes is these six octets. -/
theorem denotes_macText {mac : List UInt8} (h : mac.length = 6) : Denotes (macText mac) mac := by
  refine ⟨h, ?_⟩
  rw [splitOn_macText (List.ne_nil_of_length_eq_add_one h), List.map_map]
  exact List.map_congr_left fun b _ => octetOf_hexByte b

theorem Denotes.unique {nodeId : String} {mac mac' : List UInt8} (h : Denotes nodeId mac)
    (h' : Denotes nodeId mac') : mac = mac' :=
  List.map_inj_right (fun _ _ => Option.some.inj) |>.mp (h.octets.symm.trans h'.octets)

/-! ## What the encoder writes -/

/-- The parts of a node id, as bytes -/
def macBytesOf (nodeId : String) : List UInt8 :=
  ((nodeId.toList.splitOn ':').map parseIntHex).map toUint8

/-- The six bytes that are sent as the node id -/
def sentMac (nodeId : String) : List UInt8 :=
  (macBytesOf nodeId ++ List.replicate 6 0).take 6

theorem length_sentMac (nodeId : String) : (sentMac nodeId).length = 6 := by
  rw [sentMac, List.length_take, List.length_append, List.length_replicate]
  omega

/-- Octets are sent as they are. -/
theorem sentMac_of_denotes {nodeId : String} {mac : List UInt8} (h : Denotes nodeId mac) :
    sentMac nodeId = mac ∧ (macBytesOf nodeId).length = 6 := by
  have hbytes : macBytesOf nodeId = mac := by
    have hread : ∀ (parts : List (List Char)) (bytes : List UInt8),
        parts.map octetOf = bytes.map some →
        (parts.map parseIntHex).map toUint8 = bytes := by
      intro parts
      induction parts with
      | nil =>
        intro bytes heq
        exact (List.map_eq_nil_iff.mp heq.symm).symm
      | cons part parts ih =>
        intro bytes heq
        cases bytes with
        | nil => cases heq
        | cons b bytes =>
          rw [List.map_cons, List.map_cons, List.cons.injEq] at heq
          rw [List.map_cons, List.map_cons, ih bytes heq.2, toUint8_of_octetOf heq.1]
    exact hread _ mac h.octets
  rw [sentMac, hbytes]
  exact ⟨List.take_left' h.length, h.length⟩

variable (setFloat32 getFloat32 : BitVec 32 → BitVec 32)

/-- The encoder, from the node id on -/
def encodeFrom (adv : ReceivedAdvertisement) (view : DataView) : Except RangeError Uint8Array := do
  let view ← view.setUint8 9 adv.batteryPercent
  let view ← view.setUint32 10 (setFloat32 adv.lastReading).toNat
  let view ← view.setUint8 14 adv.faultFlags
  let view ← view.setUint16 15 adv.counter
  return .ofBytes view.buffer

/-- The first two fields are written, and the parts of the node id behind them. -/
theorem encode_eq_bind (adv : ReceivedAdvertisement) :
    encodeNodeAdvertisementWith setFloat32 adv =
      (DataView.mk (leBytes 2 adv.companyId ++ leBytes 1 adv.version ++ List.replicate 14 0)).set 3
        (macBytesOf adv.nodeId) >>= encodeFrom setFloat32 adv := rfl

/-- Too many parts do not fit behind offset 3. -/
theorem encode_throws {adv : ReceivedAdvertisement} (h : 14 < (macBytesOf adv.nodeId).length) :
    encodeNodeAdvertisementWith setFloat32 adv = .error .outOfBounds := by
  have hset : (DataView.mk (leBytes 2 adv.companyId ++ leBytes 1 adv.version ++
      List.replicate 14 0)).set 3 (macBytesOf adv.nodeId) = .error .outOfBounds := by
    refine if_neg ?_
    show ¬ 3 + (macBytesOf adv.nodeId).length ≤ 17
    omega
  rw [encode_eq_bind, hset]
  rfl

/-- Fourteen bytes, one by one. -/
theorem exists_fourteen {bytes : List UInt8} (h : bytes.length = 14) :
    ∃ m₀ m₁ m₂ m₃ m₄ m₅ x₀ x₁ x₂ x₃ x₄ x₅ x₆ x₇,
      bytes = [m₀, m₁, m₂, m₃, m₄, m₅, x₀, x₁, x₂, x₃, x₄, x₅, x₆, x₇] := by
  match bytes, h with
  | [m₀, m₁, m₂, m₃, m₄, m₅, x₀, x₁, x₂, x₃, x₄, x₅, x₆, x₇], _ =>
    exact ⟨m₀, m₁, m₂, m₃, m₄, m₅, x₀, x₁, x₂, x₃, x₄, x₅, x₆, x₇, rfl⟩

/-- Otherwise the layout is written, with the bytes that are sent as the node id. -/
theorem encode_eq_sent {adv : ReceivedAdvertisement} (h : (macBytesOf adv.nodeId).length ≤ 14) :
    encodeNodeAdvertisementWith setFloat32 adv = .ok (.ofBytes (advertisementBytes
      adv.toNodeAdvertisement (sentMac adv.nodeId) (setFloat32 adv.lastReading))) := by
  have hfill : macBytesOf adv.nodeId ++ List.replicate (14 - (macBytesOf adv.nodeId).length) 0 =
      (macBytesOf adv.nodeId ++ List.replicate 14 0).take 14 := by
    rw [List.take_append, List.take_of_length_le h, List.take_replicate, Nat.min_eq_left]
    omega
  have hsent : sentMac adv.nodeId =
      (macBytesOf adv.nodeId ++ List.replicate (14 - (macBytesOf adv.nodeId).length) 0).take 6 := by
    rw [sentMac, List.take_append, List.take_append, List.take_replicate, List.take_replicate,
      show min (6 - (macBytesOf adv.nodeId).length) 6 =
        min (6 - (macBytesOf adv.nodeId).length) (14 - (macBytesOf adv.nodeId).length) by omega]
  have hset : (DataView.mk (leBytes 2 adv.companyId ++ leBytes 1 adv.version ++
      List.replicate 14 0)).set 3 (macBytesOf adv.nodeId) =
        .ok ⟨leBytes 2 adv.companyId ++ leBytes 1 adv.version ++ (macBytesOf adv.nodeId ++
          List.replicate (14 - (macBytesOf adv.nodeId).length) 0)⟩ := by
    have hfits : 3 + (macBytesOf adv.nodeId).length ≤ 17 := by omega
    refine (if_pos hfits).trans ?_
    rw [Nat.add_comm 3, ← List.drop_replicate, List.append_assoc]
    rfl
  have hlen : (macBytesOf adv.nodeId ++
      List.replicate (14 - (macBytesOf adv.nodeId).length) 0).length = 14 := by
    rw [List.length_append, List.length_replicate]
    omega
  obtain ⟨m₀, m₁, m₂, m₃, m₄, m₅, x₀, x₁, x₂, x₃, x₄, x₅, x₆, x₇, hbytes⟩ :=
    exists_fourteen hlen
  rw [hbytes] at hset hsent
  rw [encode_eq_bind, hset, hsent]
  -- the bytes behind the sixth are all written again
  rfl

/-! ## What the parser reads -/

/-- Of each number the parser reads what its bytes hold. -/
theorem parse_sent (adv : NodeAdvertisement) {mac : List UInt8} (hmac : mac.length = 6)
    (reading : BitVec 32) :
    parseNodeAdvertisementWith getFloat32 (.ofBytes (advertisementBytes adv mac reading)) = some
      { companyId := adv.companyId % 65536
        version := adv.version % 256
        nodeId := macText mac
        batteryPercent := adv.batteryPercent % 256
        lastReading := getFloat32 reading
        faultFlags := adv.faultFlags % 256
        counter := adv.counter % 65536 } := by
  -- the layout is that of the advertisement whose numbers are reduced
  let reduced : NodeAdvertisement :=
    { companyId := adv.companyId % 65536
      version := adv.version % 256
      nodeId := macText mac
      batteryPercent := adv.batteryPercent % 256
      lastReading := adv.lastReading
      faultFlags := adv.faultFlags % 256
      counter := adv.counter % 65536 }
  have hbytes : advertisementBytes adv mac reading = advertisementBytes reduced mac reading := by
    have h₁ : ∀ n, leBytes 1 (n % 256) = leBytes 1 n := fun n =>
      (leBytes_eq_iff 1 (n % 256) n).mpr (Nat.mod_mod n 256)
    have h₂ : ∀ n, leBytes 2 (n % 65536) = leBytes 2 n := fun n =>
      (leBytes_eq_iff 2 (n % 65536) n).mpr (Nat.mod_mod n 65536)
    show _ = leBytes 2 (adv.companyId % 65536) ++ (leBytes 1 (adv.version % 256) ++ (mac ++
      (leBytes 1 (adv.batteryPercent % 256) ++ (leBytes 4 reading.toNat ++
        (leBytes 1 (adv.faultFlags % 256) ++ leBytes 2 (adv.counter % 65536))))))
    rw [h₁, h₁, h₁, h₂, h₂]
    rfl
  have hreduced : reduced.InRange := {
    companyId := Nat.mod_lt _ (by decide)
    version := Nat.mod_lt _ (by decide)
    nodeId := (isMac_iff _).mpr ⟨mac, hmac, rfl⟩
    batteryPercent := Nat.mod_lt _ (by decide)
    faultFlags := Nat.mod_lt _ (by decide)
    counter := Nat.mod_lt _ (by decide) }
  rw [hbytes]
  exact parse_advertisementBytes getFloat32 hreduced hmac rfl reading

/-! ## What arrives -/

/-- What is received is what was to be sent: the node id as the same six octets. -/
structure SameAdvertisement (received adv : NodeAdvertisement) : Prop where
  companyId : received.companyId = adv.companyId
  version : received.version = adv.version
  nodeId : SameNode received.nodeId adv.nodeId
  batteryPercent : received.batteryPercent = adv.batteryPercent
  lastReading : received.lastReading = adv.lastReading
  faultFlags : received.faultFlags = adv.faultFlags
  counter : received.counter = adv.counter

/-- The encoder throws, or makes 17 bytes that the parser reads as the advertisement. -/
def Faithful (adv : ReceivedAdvertisement) : Prop :=
  ∀ data, encodeNodeAdvertisementWith setFloat32 adv = .ok data →
    data.bytes.length = 17 ∧
      ∃ received, parseNodeAdvertisementWith getFloat32 data = some received ∧
        SameAdvertisement received adv.toNodeAdvertisement

/-- The numbers fit into their fields. -/
structure NumbersFit (adv : NodeAdvertisement) : Prop where
  companyId : adv.companyId < 65536
  version : adv.version < 256
  batteryPercent : adv.batteryPercent < 256
  faultFlags : adv.faultFlags < 256
  counter : adv.counter < 65536

theorem mod_eq_self_iff {n m : Nat} (hm : 0 < m) : n % m = n ↔ n < m :=
  ⟨fun h => h ▸ Nat.mod_lt n hm, Nat.mod_eq_of_lt⟩

/-- The node id arrives as it is iff it is six octets. -/
theorem sameNode_sentMac (nodeId : String) :
    SameNode (macText (sentMac nodeId)) nodeId ↔ ∃ mac, Denotes nodeId mac := by
  constructor
  · rintro ⟨mac, -, h⟩
    exact ⟨mac, h⟩
  · rintro ⟨mac, h⟩
    rw [(sentMac_of_denotes h).1]
    exact ⟨mac, denotes_macText h.length, h⟩

/-- **An advertisement is sent faithfully iff its node id has more than 14 parts, so that
it is not sent at all, or is six octets, and its numbers fit.** -/
theorem faithful_iff (get_set : ∀ reading, getFloat32 (setFloat32 reading) = reading)
    (adv : ReceivedAdvertisement) :
    Faithful setFloat32 getFloat32 adv ↔
      14 < (adv.nodeId.toList.splitOn ':').length ∨
        ((∃ mac, Denotes adv.nodeId mac) ∧ NumbersFit adv.toNodeAdvertisement) := by
  have hparts : (macBytesOf adv.nodeId).length = (adv.nodeId.toList.splitOn ':').length := by
    rw [macBytesOf, List.length_map, List.length_map]
  rw [← hparts]
  by_cases hmany : 14 < (macBytesOf adv.nodeId).length
  · refine iff_of_true (fun data hdata => ?_) (.inl hmany)
    rw [encode_throws setFloat32 hmany] at hdata
    cases hdata
  · have hencode := encode_eq_sent setFloat32 (Nat.not_lt.mp hmany)
    have hmac := length_sentMac adv.nodeId
    have hparse := parse_sent getFloat32 adv.toNodeAdvertisement hmac (setFloat32 adv.lastReading)
    -- what is parsed is what the encoder has cut to its fields
    rw [get_set] at hparse
    rw [or_iff_right hmany]
    constructor
    · intro h
      obtain ⟨-, received, hreceived, hsame⟩ := h _ hencode
      rw [hparse] at hreceived
      cases hreceived
      exact ⟨(sameNode_sentMac adv.nodeId).mp hsame.nodeId,
        (mod_eq_self_iff (by decide)).mp hsame.companyId,
        (mod_eq_self_iff (by decide)).mp hsame.version,
        (mod_eq_self_iff (by decide)).mp hsame.batteryPercent,
        (mod_eq_self_iff (by decide)).mp hsame.faultFlags,
        (mod_eq_self_iff (by decide)).mp hsame.counter⟩
    · rintro ⟨hid, hfit⟩ data hdata
      rw [hencode] at hdata
      cases hdata
      refine ⟨?_, _, hparse, ?_⟩
      · rw [Uint8Array.bytes_ofBytes]
        exact length_advertisementBytes _ hmac _
      · exact {
          companyId := Nat.mod_eq_of_lt hfit.companyId
          version := Nat.mod_eq_of_lt hfit.version
          nodeId := (sameNode_sentMac adv.nodeId).mpr hid
          batteryPercent := Nat.mod_eq_of_lt hfit.batteryPercent
          lastReading := rfl
          faultFlags := Nat.mod_eq_of_lt hfit.faultFlags
          counter := Nat.mod_eq_of_lt hfit.counter }

/-- The sample, with this node id -/
def advertisementOf (nodeId : String) : ReceivedAdvertisement :=
  ⟨{ sampleAdvertisement with nodeId }, none⟩

/-- Upper-case octets arrive. -/
theorem upperCase_faithful :
    Faithful id id (advertisementOf "D0:11:22:33:04:EE") ↔
      14 < ("D0:11:22:33:04:EE".toList.splitOn ':').length ∨
        ((∃ mac, Denotes "D0:11:22:33:04:EE" mac) ∧
          NumbersFit (advertisementOf "D0:11:22:33:04:EE").toNodeAdvertisement) :=
  faithful_iff id id (fun _ => rfl) (advertisementOf "D0:11:22:33:04:EE")

/-- A node id that is cut short arrives as that of another node. -/
theorem shortId_not_faithful :
    ¬ ∀ (setFloat32 getFloat32 : BitVec 32 → BitVec 32) (adv : ReceivedAdvertisement),
      (∀ reading, getFloat32 (setFloat32 reading) = reading) →
        Faithful setFloat32 getFloat32 adv := by
  intro h
  have hencode : encodeNodeAdvertisementWith id (advertisementOf "d0:11:22") =
      .ok (.ofBytes (advertisementBytes (advertisementOf "d0:11:22").toNodeAdvertisement
        (sentMac "d0:11:22") (advertisementOf "d0:11:22").lastReading)) :=
    encode_eq_sent id (by decide +kernel)
  obtain ⟨-, received, -, hsame⟩ := h id id (advertisementOf "d0:11:22") (fun _ => rfl) _ hencode
  obtain ⟨mac, -, hdenotes⟩ := hsame.nodeId
  have hsix := (sentMac_of_denotes hdenotes).2
  have hthree : (macBytesOf (advertisementOf "d0:11:22").nodeId).length = 3 := by decide +kernel
  rw [hthree] at hsix
  exact absurd hsix (by decide)

end SensorNet.Common
