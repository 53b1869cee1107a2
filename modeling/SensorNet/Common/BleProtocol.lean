import SensorNet.Lib.TypedArray

/-!
# The shared BLE protocol (`common/protocol/ble-protocol.ts`)

- The node's custom GATT service: the characteristics of
  `INDUSTRIAL_SENSOR_CHARACTERISTICS` and their UUIDs, given as text. `uuidOfText`
  reads such a text as the 128-bit value that goes over the air.
- The node's advertisement (`parseNodeAdvertisement`).
-/

namespace SensorNet.Common

open SensorNet.Js

/-! ## UUIDs as text -/

/-- The value of a lower-case hexadecimal digit. -/
def hexDigit (c : Char) : Nat :=
  if c.isDigit then c.toNat - '0'.toNat else c.toNat - 'a'.toNat + 10

/-- The UUID that a text of the form `xxxxxxxx-xxxx-xxxx-xxxx-xxxxxxxxxxxx`
denotes. -/
def uuidOfText (text : String) : BitVec 128 :=
  BitVec.ofNat 128
    ((text.toList.filter (· != '-')).foldl (fun n c => 16 * n + hexDigit c) 0)

/-! ## The industrial sensor service -/

/-- The keys of `INDUSTRIAL_SENSOR_CHARACTERISTICS`. -/
inductive SensorCharacteristic where
  | reading
  | config
  | calibration
  | binding
  | diagnostics
  | logExport
  | command
  deriving DecidableEq, Repr

/-- `INDUSTRIAL_SENSOR_CHARACTERISTICS` -/
def industrialSensorCharacteristics : SensorCharacteristic → String
  | .reading => "00001001-0000-1000-8000-00805f9b34fb"
  | .config => "00001002-0000-1000-8000-00805f9b34fb"
  | .calibration => "00001003-0000-1000-8000-00805f9b34fb"
  | .binding => "00001004-0000-1000-8000-00805f9b34fb"
  | .diagnostics => "00001005-0000-1000-8000-00805f9b34fb"
  | .logExport => "00001006-0000-1000-8000-00805f9b34fb"
  | .command => "00001007-0000-1000-8000-00805f9b34fb"

/-- The UUID of a characteristic of the node. -/
def SensorCharacteristic.uuid (ch : SensorCharacteristic) : BitVec 128 :=
  uuidOfText (industrialSensorCharacteristics ch)

/-! ## Advertisements -/

/-- `NodeAdvertisement`; a `float` reading is its bit pattern. -/
structure NodeAdvertisement where
  companyId : Nat
  version : Nat
  nodeId : String
  batteryPercent : Nat
  lastReading : BitVec 32
  faultFlags : Nat
  counter : Nat
  deriving DecidableEq, Repr

/-- The number a 32-bit float pattern stands for: every NaN pattern is the one
`NaN` of JavaScript. -/
def float32Value (bits : BitVec 32) : BitVec 32 :=
  if bits.extractLsb' 23 8 = 0xff ∧ bits.extractLsb' 0 23 ≠ 0 then 0x7fc00000 else bits

/-- `b.toString(16).padStart(2, '0')` -/
def hexByte (b : UInt8) : String :=
  String.ofList [Nat.digitChar (b.toNat / 16), Nat.digitChar (b.toNat % 16)]

/-- `parseNodeAdvertisement`, over what `getFloat32` makes of a pattern; `none` is `null`, which
is also what the `catch` clause returns. -/
def parseNodeAdvertisementWith (getFloat32 : BitVec 32 → BitVec 32) (data : Uint8Array) :
    Option NodeAdvertisement :=
  if data.length < 17 then none
  else
    let view : DataView := ⟨data.buffer⟩
    let fields : Except RangeError NodeAdvertisement := do
      let companyId ← view.getUint16 0
      let version ← view.getUint8 2
      let nodeId := ":".intercalate ((data.slice 3 9).bytes.map hexByte)
      let batteryPercent ← view.getUint8 9
      let lastReading ← view.getUint32 10
      let faultFlags ← view.getUint8 14
      let counter ← view.getUint16 15
      return { companyId, version, nodeId, batteryPercent,
               lastReading := getFloat32 (BitVec.ofNat 32 lastReading), faultFlags, counter }
    fields.toOption

/-- `parseNodeAdvertisement` -/
def parseNodeAdvertisement (data : Uint8Array) : Option NodeAdvertisement :=
  parseNodeAdvertisementWith float32Value data

theorem parseNodeAdvertisement_def :
    parseNodeAdvertisement = parseNodeAdvertisementWith float32Value := rfl

/-- The number in `k` bytes of the buffer. -/
def bufferField (a : Uint8Array) (offset k : Nat) : Nat :=
  leNat ((a.buffer.drop offset).take k)

/-- What the parser makes of 17 bytes or more: the numbers come from the buffer, the
node id from the window. -/
theorem parseNodeAdvertisementWith_eq (getFloat32 : BitVec 32 → BitVec 32) {a : Uint8Array}
    (h : 17 ≤ a.length) :
    parseNodeAdvertisementWith getFloat32 a = some
      { companyId := bufferField a 0 2
        version := bufferField a 2 1
        nodeId := ":".intercalate ((a.slice 3 9).bytes.map hexByte)
        batteryPercent := bufferField a 9 1
        lastReading := getFloat32 (BitVec.ofNat 32 (bufferField a 10 4))
        faultFlags := bufferField a 14 1
        counter := bufferField a 15 2 } := by
  have hin := a.inBounds
  have hget : ∀ offset k, offset + k ≤ 17 → leNat <$> (DataView.mk a.buffer).get offset k =
      .ok (bufferField a offset k) := by
    intro offset k hle
    rw [DataView.get_eq_ok (by show offset + k ≤ a.buffer.length; omega)]
    rfl
  rw [parseNodeAdvertisementWith, if_neg (by omega)]
  simp only [DataView.getUint8, DataView.getUint16, DataView.getUint32,
    hget 0 2 (by decide), hget 2 1 (by decide), hget 9 1 (by decide),
    hget 10 4 (by decide), hget 14 1 (by decide), hget 15 2 (by decide)]
  rfl

/-- Fewer than 17 bytes are not read. -/
theorem parseNodeAdvertisement_of_short {a : Uint8Array} (h : a.length < 17) :
    parseNodeAdvertisement a = none := if_pos h

/-- What `parseNodeAdvertisement` makes of 17 bytes or more. -/
theorem parseNodeAdvertisement_eq {a : Uint8Array} (h : 17 ≤ a.length) :
    parseNodeAdvertisement a = some
      { companyId := bufferField a 0 2
        version := bufferField a 2 1
        nodeId := ":".intercalate ((a.slice 3 9).bytes.map hexByte)
        batteryPercent := bufferField a 9 1
        lastReading := float32Value (BitVec.ofNat 32 (bufferField a 10 4))
        faultFlags := bufferField a 14 1
        counter := bufferField a 15 2 } := by
  rw [parseNodeAdvertisement_def]
  exact parseNodeAdvertisementWith_eq float32Value h

end SensorNet.Common
