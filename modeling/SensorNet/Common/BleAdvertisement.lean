import SensorNet.Common.BleProtocol
import SensorNet.Lib.JsNumber

/-!
# The advertisement codec (`encodeNodeAdvertisement`)

An advertisement is seven fields in 17 bytes. `advertisementBytes` is their layout;
the encoder writes it (`encode_eq`), the parser reads it (`parse_advertisementBytes`),
and every string of 17 bytes has it (`exists_layout`). Hence the two are inverse to each
other (`advertisement_codec`), when `setFloat32` and `getFloat32` are: the encoder's
texts are those of `IsMac`, and its numbers those that fit their fields (`InRange`).
-/

namespace SensorNet.Common

open SensorNet.Js

/-! ## The encoder -/

/-- `NodeAdvertisement` with the strength of the signal, which the receiver fills in. -/
structure ReceivedAdvertisement extends NodeAdvertisement where
  rssi : Option Int := none
  deriving DecidableEq, Repr

/-- `encodeNodeAdvertisement`, over the pattern that `setFloat32` writes. -/
def encodeNodeAdvertisementWith (setFloat32 : BitVec 32 → BitVec 32)
    (adv : ReceivedAdvertisement) : Except RangeError Uint8Array := do
  let view : DataView := ⟨List.replicate 17 0⟩
  let view ← view.setUint16 0 adv.companyId
  let view ← view.setUint8 2 adv.version
  let macBytes := (adv.nodeId.toList.splitOn ':').map parseIntHex
  -- `bytes.set` throws when the bytes do not fit behind offset 3
  let view ← view.set 3 (macBytes.map toUint8)
  let view ← view.setUint8 9 adv.batteryPercent
  let view ← view.setUint32 10 (setFloat32 adv.lastReading).toNat
  let view ← view.setUint8 14 adv.faultFlags
  let view ← view.setUint16 15 adv.counter
  return .ofBytes view.buffer

/-! ## Node ids -/

/-- The node id of six bytes. -/
def macText (mac : List UInt8) : String := ":".intercalate (mac.map hexByte)

/-- The lower-case hexadecimal digits. -/
def hexDigits : List Char :=
  ['0', '1', '2', '3', '4', '5', '6', '7', '8', '9', 'a', 'b', 'c', 'd', 'e', 'f']

/-- Two lower-case hexadecimal digits. -/
def IsOctet (octet : String) : Prop :=
  ∃ high ∈ hexDigits, ∃ low ∈ hexDigits, octet = String.ofList [high, low]

/-- Six octets, joined by colons. -/
def IsMac (nodeId : String) : Prop :=
  ∃ octets : List String, octets.length = 6 ∧ (∀ octet ∈ octets, IsOctet octet) ∧
    nodeId = ":".intercalate octets

theorem mem_hexDigits_iff (c : Char) : c ∈ hexDigits ↔ ∃ d < 16, c = Nat.digitChar d := by
  have hall : hexDigits = (List.range 16).map Nat.digitChar := by decide
  constructor
  · intro h
    rw [hall] at h
    obtain ⟨d, hd, rfl⟩ := List.mem_map.mp h
    exact ⟨d, List.mem_range.mp hd, rfl⟩
  · rintro ⟨d, hd, rfl⟩
    rw [hall]
    exact List.mem_map.mpr ⟨d, List.mem_range.mpr hd, rfl⟩

/-- The octets are the texts of the bytes. -/
theorem isOctet_iff (octet : String) : IsOctet octet ↔ ∃ b, octet = hexByte b := by
  constructor
  · rintro ⟨high, hhigh, low, hlow, rfl⟩
    obtain ⟨h, hh, rfl⟩ := (mem_hexDigits_iff high).mp hhigh
    obtain ⟨l, hl, rfl⟩ := (mem_hexDigits_iff low).mp hlow
    have hb : (UInt8.ofNat (16 * h + l)).toNat = 16 * h + l := by
      rw [UInt8.toNat_ofNat', Nat.mod_eq_of_lt (by omega)]
    refine ⟨UInt8.ofNat (16 * h + l), ?_⟩
    rw [hexByte, hb, show (16 * h + l) / 16 = h by omega, show (16 * h + l) % 16 = l by omega]
  · rintro ⟨b, rfl⟩
    have hb : b.toNat < 256 := b.toNat_lt
    exact ⟨_, (mem_hexDigits_iff _).mpr ⟨b.toNat / 16, by omega, rfl⟩,
      _, (mem_hexDigits_iff _).mpr ⟨b.toNat % 16, by omega, rfl⟩, rfl⟩

/-- Texts of bytes, one by one. -/
theorem octets_iff (octets : List String) :
    (∀ octet ∈ octets, IsOctet octet) ↔ ∃ mac : List UInt8, octets = mac.map hexByte := by
  constructor
  · intro h
    induction octets with
    | nil => exact ⟨[], rfl⟩
    | cons octet octets ih =>
      obtain ⟨b, rfl⟩ := (isOctet_iff octet).mp (h octet List.mem_cons_self)
      obtain ⟨mac, rfl⟩ := ih fun o ho => h o (List.mem_cons_of_mem _ ho)
      exact ⟨b :: mac, rfl⟩
  · rintro ⟨mac, rfl⟩ octet ho
    obtain ⟨b, _, rfl⟩ := List.mem_map.mp ho
    exact (isOctet_iff _).mpr ⟨b, rfl⟩

theorem isMac_iff (nodeId : String) :
    IsMac nodeId ↔ ∃ mac : List UInt8, mac.length = 6 ∧ nodeId = macText mac := by
  constructor
  · rintro ⟨octets, hlen, hoctets, rfl⟩
    obtain ⟨mac, rfl⟩ := (octets_iff octets).mp hoctets
    exact ⟨mac, by rwa [List.length_map] at hlen, rfl⟩
  · rintro ⟨mac, hlen, rfl⟩
    exact ⟨mac.map hexByte, by rw [List.length_map, hlen], (octets_iff _).mpr ⟨mac, rfl⟩, rfl⟩

/-- The text of a byte is read as the byte. -/
theorem toUint8_hexByte (b : UInt8) : toUint8 (parseIntHex (hexByte b).toList) = b := by
  have hb : b.toNat < 256 := b.toNat_lt
  rw [hexByte, String.toList_ofList, toUint8_parseIntHex _ (by omega) _ (by omega),
    Nat.div_add_mod, UInt8.ofNat_toNat]

/-- The text of a byte has no colon. -/
theorem colon_not_mem_hexByte (b : UInt8) : ':' ∉ (hexByte b).toList := by
  obtain ⟨high, hhigh, low, hlow, h⟩ := (isOctet_iff _).mpr ⟨b, rfl⟩
  have hcolon : ':' ∉ hexDigits := by decide
  rw [h, String.toList_ofList]
  simp only [List.mem_cons, List.not_mem_nil, or_false, not_or]
  exact ⟨fun heq => hcolon (heq ▸ hhigh), fun heq => hcolon (heq ▸ hlow)⟩

/-- A node id is split at its colons. -/
theorem splitOn_macText {mac : List UInt8} (h : mac ≠ []) :
    (macText mac).toList.splitOn ':' = mac.map fun b => (hexByte b).toList := by
  rw [macText, String.toList_intercalate, List.map_map]
  refine List.splitOn_intercalate ':' ?_ (by simpa using h)
  intro l hl
  obtain ⟨b, _, rfl⟩ := List.mem_map.mp hl
  exact colon_not_mem_hexByte b

/-- Splitting a node id at the colons and reading the parts gives the bytes back. -/
theorem macBytes_macText {mac : List UInt8} (h : mac ≠ []) :
    (((macText mac).toList.splitOn ':').map parseIntHex).map toUint8 = mac := by
  rw [splitOn_macText h, List.map_map, List.map_map]
  simp only [Function.comp_def, toUint8_hexByte, List.map_id']

/-- Different bytes have different texts. -/
theorem macText_inj {mac mac' : List UInt8} (h : mac ≠ []) (h' : mac' ≠ []) :
    macText mac = macText mac' ↔ mac = mac' := by
  constructor
  · intro heq
    rw [← macBytes_macText h, heq, macBytes_macText h']
  · rintro rfl
    rfl

/-! ## The layout -/

/-- The fields of an advertisement that fit into their bytes:

1. the company id and the counter into two,
2. the version, the battery's percentage and the fault flags into one,
3. the node id, as six octets, into six. -/
structure NodeAdvertisement.InRange (adv : NodeAdvertisement) : Prop where
  companyId : adv.companyId < 65536
  version : adv.version < 256
  nodeId : IsMac adv.nodeId
  batteryPercent : adv.batteryPercent < 256
  faultFlags : adv.faultFlags < 256
  counter : adv.counter < 65536

/-- The seven fields in their order; the node id and the reading as bytes. -/
def advertisementBytes (adv : NodeAdvertisement) (mac : List UInt8) (reading : BitVec 32) :
    List UInt8 :=
  leBytes 2 adv.companyId ++ (leBytes 1 adv.version ++ (mac ++
    (leBytes 1 adv.batteryPercent ++ (leBytes 4 reading.toNat ++
      (leBytes 1 adv.faultFlags ++ leBytes 2 adv.counter)))))

theorem length_advertisementBytes (adv : NodeAdvertisement) {mac : List UInt8}
    (hmac : mac.length = 6) (reading : BitVec 32) :
    (advertisementBytes adv mac reading).length = 17 := by
  simp only [advertisementBytes, List.length_append, length_leBytes, hmac]

/-- Six bytes, one by one. -/
theorem exists_six {mac : List UInt8} (h : mac.length = 6) :
    ∃ m₀ m₁ m₂ m₃ m₄ m₅, mac = [m₀, m₁, m₂, m₃, m₄, m₅] := by
  match mac, h with
  | [m₀, m₁, m₂, m₃, m₄, m₅], _ => exact ⟨m₀, m₁, m₂, m₃, m₄, m₅, rfl⟩

/-- The encoder writes the layout. -/
theorem encode_eq (setFloat32 : BitVec 32 → BitVec 32) {adv : ReceivedAdvertisement}
    {mac : List UInt8} (hmac : mac.length = 6) (hid : adv.nodeId = macText mac) :
    encodeNodeAdvertisementWith setFloat32 adv = .ok (.ofBytes
      (advertisementBytes adv.toNodeAdvertisement mac (setFloat32 adv.lastReading))) := by
  obtain ⟨m₀, m₁, m₂, m₃, m₄, m₅, rfl⟩ := exists_six hmac
  rw [encodeNodeAdvertisementWith]
  simp only [hid, macBytes_macText (List.cons_ne_nil _ _)]
  -- with six bytes written out, the writes to the 17 bytes evaluate
  rfl

/-- The parser reads the layout. -/
theorem parse_advertisementBytes (getFloat32 : BitVec 32 → BitVec 32)
    {adv : NodeAdvertisement} (hadv : adv.InRange) {mac : List UInt8} (hmac : mac.length = 6)
    (hid : adv.nodeId = macText mac) (reading : BitVec 32) :
    parseNodeAdvertisementWith getFloat32 (.ofBytes (advertisementBytes adv mac reading)) =
      some { adv with lastReading := getFloat32 reading } := by
  have hlen := length_advertisementBytes adv hmac reading
  obtain ⟨m₀, m₁, m₂, m₃, m₄, m₅, rfl⟩ := exists_six hmac
  rw [parseNodeAdvertisementWith_eq getFloat32 (by rw [Uint8Array.length_ofBytes, hlen])]
  generalize hb : Uint8Array.ofBytes (advertisementBytes adv _ reading) = b
  -- each number is found at its offset, and is small enough to be all there
  have hcompanyId : bufferField b 0 2 = adv.companyId := by
    rw [← hb]
    exact leNat_leBytes_of_lt (k := 2) hadv.companyId
  have hversion : bufferField b 2 1 = adv.version := by
    rw [← hb]
    exact leNat_leBytes_of_lt (k := 1) hadv.version
  have hbattery : bufferField b 9 1 = adv.batteryPercent := by
    rw [← hb]
    exact leNat_leBytes_of_lt (k := 1) hadv.batteryPercent
  have hreading : bufferField b 10 4 = reading.toNat := by
    rw [← hb]
    exact leNat_leBytes_of_lt (k := 4) reading.isLt
  have hfaults : bufferField b 14 1 = adv.faultFlags := by
    rw [← hb]
    exact leNat_leBytes_of_lt (k := 1) hadv.faultFlags
  have hcounter : bufferField b 15 2 = adv.counter := by
    rw [← hb]
    exact leNat_leBytes_of_lt (k := 2) hadv.counter
  have hmac : ":".intercalate ((b.slice 3 9).bytes.map hexByte) = adv.nodeId := by
    rw [← hb, Uint8Array.bytes_slice, Uint8Array.bytes_ofBytes, hid]
    rfl
  rw [hcompanyId, hversion, hmac, hbattery, hreading, hfaults, hcounter,
    BitVec.ofNat_toNat, BitVec.setWidth_eq]

/-! ## Strings of 17 bytes -/

/-- `k` bytes of a string, and what is behind them. -/
theorem drop_eq_append (b : List UInt8) (offset k : Nat) :
    b.drop offset = (b.drop offset).take k ++ b.drop (offset + k) := by
  rw [← List.drop_drop, List.take_append_drop]

/-- A number that was read from a string is written as the bytes it was read from. -/
theorem leBytes_bufferField {b : List UInt8} {offset k : Nat} (h : offset + k ≤ b.length) :
    leBytes k (bufferField (.ofBytes b) offset k) = (b.drop offset).take k := by
  have hlen : ((b.drop offset).take k).length = k := by
    rw [List.length_take, List.length_drop]
    omega
  have hinv := leBytes_leNat ((b.drop offset).take k)
  rwa [hlen] at hinv

theorem bufferField_lt {b : List UInt8} {offset k : Nat} (h : offset + k ≤ b.length) :
    bufferField (.ofBytes b) offset k < 256 ^ k := by
  have hlen : ((b.drop offset).take k).length = k := by
    rw [List.length_take, List.length_drop]
    omega
  have hlt := leNat_lt ((b.drop offset).take k)
  rwa [hlen] at hlt

/-- The first 17 bytes hold everything the parser reads. -/
theorem bufferField_take (b : List UInt8) {offset k : Nat} (h : offset + k ≤ 17) :
    bufferField (.ofBytes (b.take 17)) offset k = bufferField (.ofBytes b) offset k := by
  show leNat (((b.take 17).drop offset).take k) = leNat ((b.drop offset).take k)
  rw [List.drop_take, List.take_take, Nat.min_eq_left (by omega)]

/-- What the parser makes of 17 bytes is in range, and has these bytes as its
layout. -/
theorem exists_layout (getFloat32 : BitVec 32 → BitVec 32) {b : List UInt8}
    (h : b.length = 17) :
    ∃ adv mac, parseNodeAdvertisementWith getFloat32 (.ofBytes b) = some adv ∧ adv.InRange ∧
      mac.length = 6 ∧ adv.nodeId = macText mac ∧
      ∃ reading, adv.lastReading = getFloat32 reading ∧ advertisementBytes adv mac reading = b := by
  have hmac : (((Uint8Array.ofBytes b).slice 3 9).bytes).length = 6 := by
    rw [Uint8Array.bytes_slice, Uint8Array.bytes_ofBytes, List.length_drop, List.length_take]
    omega
  refine ⟨_, ((Uint8Array.ofBytes b).slice 3 9).bytes,
    parseNodeAdvertisementWith_eq getFloat32 (by rw [Uint8Array.length_ofBytes, h]), ?_, hmac,
    rfl, _, rfl, ?_⟩
  · exact {
      companyId := bufferField_lt (k := 2) (by omega)
      version := bufferField_lt (k := 1) (by omega)
      nodeId := (isMac_iff _).mpr ⟨_, hmac, rfl⟩
      batteryPercent := bufferField_lt (k := 1) (by omega)
      faultFlags := bufferField_lt (k := 1) (by omega)
      counter := bufferField_lt (k := 2) (by omega) }
  · have hreading : (BitVec.ofNat 32 (bufferField (.ofBytes b) 10 4)).toNat =
        bufferField (.ofBytes b) 10 4 :=
      Nat.mod_eq_of_lt (bufferField_lt (k := 4) (by omega))
    have hslice : ((Uint8Array.ofBytes b).slice 3 9).bytes = (b.drop 3).take 6 := by
      rw [Uint8Array.bytes_slice, Uint8Array.bytes_ofBytes, List.drop_take]
    have hend : (b.drop 15).take 2 = b.drop 15 := by
      rw [List.take_of_length_le]
      rw [List.length_drop]
      omega
    -- written again, the seven pieces make up the string
    show leBytes 2 _ ++ (leBytes 1 _ ++ (_ ++ (leBytes 1 _ ++ (leBytes 4 _ ++
      (leBytes 1 _ ++ leBytes 2 _))))) = b
    rw [hreading, hslice, leBytes_bufferField (by omega), leBytes_bufferField (by omega),
      leBytes_bufferField (by omega), leBytes_bufferField (by omega),
      leBytes_bufferField (by omega), leBytes_bufferField (by omega), hend,
      ← drop_eq_append b 14 1, ← drop_eq_append b 10 4, ← drop_eq_append b 9 1,
      ← drop_eq_append b 3 6, ← drop_eq_append b 2 1, ← drop_eq_append b 0 2, List.drop_zero]

/-! ## The codec -/

/-- The parser answers `null` iff there are fewer than 17 bytes. -/
theorem parse_eq_none_iff (getFloat32 : BitVec 32 → BitVec 32) (data : Uint8Array) :
    parseNodeAdvertisementWith getFloat32 data = none ↔ data.length < 17 := by
  constructor
  · intro h
    by_contra hlen
    rw [parseNodeAdvertisementWith_eq getFloat32 (by omega)] at h
    cases h
  · intro h
    rw [parseNodeAdvertisementWith, if_pos h]

/-- The parser reads the first 17 bytes alone. -/
theorem parse_take (getFloat32 : BitVec 32 → BitVec 32) {b : List UInt8}
    (h : 17 ≤ b.length) :
    parseNodeAdvertisementWith getFloat32 (.ofBytes (b.take 17)) =
      parseNodeAdvertisementWith getFloat32 (.ofBytes b) := by
  have hlen : 17 ≤ (b.take 17).length := by
    rw [List.length_take]
    omega
  have hslice : ((Uint8Array.ofBytes (b.take 17)).slice 3 9).bytes =
      ((Uint8Array.ofBytes b).slice 3 9).bytes := by
    rw [Uint8Array.bytes_slice, Uint8Array.bytes_slice, Uint8Array.bytes_ofBytes,
      Uint8Array.bytes_ofBytes, List.take_take]
    rfl
  rw [parseNodeAdvertisementWith_eq getFloat32 hlen, parseNodeAdvertisementWith_eq getFloat32 h,
    hslice, bufferField_take b (by decide), bufferField_take b (by decide),
    bufferField_take b (by decide), bufferField_take b (by decide),
    bufferField_take b (by decide), bufferField_take b (by decide)]

/-- **The advertisement codec**, for `setFloat32` and `getFloat32` inverse to each other:

1. 17 bytes are parsed to an advertisement in range, which is encoded as these bytes;
2. an advertisement in range is encoded as 17 bytes, which are parsed to it, but for the
   signal strength;
3. of more bytes the first 17 decide the result;
4. the result is `null` iff there are fewer than 17 bytes. -/
theorem advertisement_codec (getFloat32 setFloat32 : BitVec 32 → BitVec 32)
    (get_set : ∀ reading, getFloat32 (setFloat32 reading) = reading)
    (set_get : ∀ bits, setFloat32 (getFloat32 bits) = bits) :
    (∀ b : List UInt8, b.length = 17 →
      ∃ adv, parseNodeAdvertisementWith getFloat32 (.ofBytes b) = some adv ∧ adv.InRange ∧
        encodeNodeAdvertisementWith setFloat32 ⟨adv, none⟩ = .ok (.ofBytes b)) ∧
    (∀ adv : ReceivedAdvertisement, adv.InRange →
      ∃ b : List UInt8, b.length = 17 ∧
        encodeNodeAdvertisementWith setFloat32 adv = .ok (.ofBytes b) ∧
        parseNodeAdvertisementWith getFloat32 (.ofBytes b) = some adv.toNodeAdvertisement) ∧
    (∀ b : List UInt8, 17 ≤ b.length →
      parseNodeAdvertisementWith getFloat32 (.ofBytes b) =
        parseNodeAdvertisementWith getFloat32 (.ofBytes (b.take 17))) ∧
    (∀ data : Uint8Array,
      parseNodeAdvertisementWith getFloat32 data = none ↔ data.length < 17) := by
  refine ⟨?_, ?_, ?_, parse_eq_none_iff getFloat32⟩
  · intro b hb
    obtain ⟨adv, mac, hparse, hadv, hmac, hid, reading, hreading, hbytes⟩ :=
      exists_layout getFloat32 hb
    -- the advertisement is laid out in these bytes, and the encoder writes its layout
    refine ⟨adv, hparse, hadv, ?_⟩
    rw [encode_eq setFloat32 hmac hid, hreading, set_get, hbytes]
  · intro adv hadv
    obtain ⟨mac, hmac, hid⟩ := (isMac_iff adv.nodeId).mp hadv.nodeId
    refine ⟨_, length_advertisementBytes _ hmac _, encode_eq setFloat32 hmac hid, ?_⟩
    rw [parse_advertisementBytes getFloat32 hadv hmac hid, get_set]
  · intro b hb
    exact (parse_take getFloat32 hb).symm

/-- An advertisement of a node with a disconnected sensor. -/
def sampleAdvertisement : NodeAdvertisement :=
  { companyId := 0x0059, version := 1, nodeId := "d0:11:22:33:04:ee", batteryPercent := 87,
    lastReading := 0x41bc0000, faultFlags := 0x04, counter := 300 }

theorem sampleAdvertisement_inRange : sampleAdvertisement.InRange where
  companyId := by decide
  version := by decide
  nodeId := (isMac_iff _).mpr ⟨[0xd0, 0x11, 0x22, 0x33, 0x04, 0xee], rfl, by decide +kernel⟩
  batteryPercent := by decide
  faultFlags := by decide
  counter := by decide

/-- The sample, received at -60 dBm, with readings that are their own pattern. -/
theorem sampleAdvertisement_codec :
    ∃ b : List UInt8, b.length = 17 ∧
      encodeNodeAdvertisementWith id ⟨sampleAdvertisement, some (-60)⟩ = .ok (.ofBytes b) ∧
      parseNodeAdvertisementWith id (.ofBytes b) = some sampleAdvertisement :=
  (advertisement_codec id id (fun _ => rfl) (fun _ => rfl)).2.1
    ⟨sampleAdvertisement, some (-60)⟩ sampleAdvertisement_inRange

end SensorNet.Common
