import SensorNet.Lib.TypedArray
import SensorNet.Lib.JsNumber
import SensorNet.Lib.Crc32

/-!
# The shared IPC protocol (`common/protocol/ipc-protocol.ts`)

Messages between the hub's two processors: the length of the payload, the
payload (JSON text in UTF-8) and its checksum. JSON and text conversion belong
to the JavaScript runtime and are parameters (`JsRuntime`).

`calculateCRC32_eq`: the checksum loop, on JavaScript's signed numbers, computes
CRC-32.
-/

namespace SensorNet.Common

open SensorNet.Js

/-- What the codec uses of the runtime, for a type of JavaScript values and a type
of strings:
1. the value `null`;
2. `JSON.stringify` and `JSON.parse`, which may throw (`none`);
3. `new TextEncoder().encode` and `new TextDecoder().decode`. -/
structure JsRuntime (Value Text : Type) where
  null : Value
  stringify : Value → Text
  parse : Text → Option Value
  encodeText : Text → List UInt8
  decodeText : List UInt8 → Text

/-! ## The checksum -/

/-- One round of the inner loop of `calculateCRC32`. -/
def crcRound (crc : Int) : Int :=
  bitXor (ushiftRight crc 1) (bitAnd 0xedb88320 (-(bitAnd crc 1)))

/-- `n` rounds of the inner loop of `calculateCRC32`. -/
def crcRounds : Nat → Int → Int
  | 0, crc => crc
  | n + 1, crc => crcRounds n (crcRound crc)

/-- `calculateCRC32` -/
def calculateCRC32 (data : List UInt8) : Int :=
  let crc := data.foldl (fun crc b => crcRounds 8 (bitXor crc b.toNat)) 0xffffffff
  ushiftRight (bitXor crc 0xffffffff) 0

/-! ## Encoding and decoding -/

variable {Value Text : Type}

/-- `encodeIPCMessage` -/
def encodeIPCMessage (js : JsRuntime Value Text) (message : Value) :
    Except RangeError Uint8Array := do
  let json := js.stringify message
  let payload := js.encodeText json
  let crc := calculateCRC32 payload
  let view : DataView := ⟨List.replicate (4 + payload.length + 4) 0⟩
  let view ← view.setUint32 0 payload.length
  -- `bytes` is a window on the buffer of `view`
  let view ← view.set 4 payload
  let view ← view.setUint32 (4 + payload.length) crc.toNat
  return .ofBytes view.buffer

/-- `decodeIPCMessage` -/
def decodeIPCMessage (js : JsRuntime Value Text) (data : Uint8Array) :
    Except RangeError Value := do
  if data.length < 8 then return js.null
  let view : DataView := ⟨data.buffer⟩
  let length ← view.getUint32 0
  if data.length < 4 + length + 4 then return js.null
  let payload := data.slice 4 (4 + length)
  let expectedCrc ← view.getUint32 (4 + length)
  let actualCrc := calculateCRC32 payload.bytes
  if (expectedCrc : Int) ≠ actualCrc then return js.null
  return (js.parse (js.decodeText payload.bytes)).getD js.null

/-- The two reads and the four exits of the decoder. -/
theorem decodeIPCMessage_def (js : JsRuntime Value Text) (data : Uint8Array) :
    decodeIPCMessage js data =
      if data.length < 8 then .ok js.null
      else ((DataView.mk data.buffer).getUint32 0).bind fun length =>
        if data.length < 4 + length + 4 then .ok js.null
        else ((DataView.mk data.buffer).getUint32 (4 + length)).bind fun expectedCrc =>
          if (expectedCrc : Int) ≠ calculateCRC32 (data.slice 4 (4 + length)).bytes then
            .ok js.null
          else
            .ok ((js.parse (js.decodeText (data.slice 4 (4 + length)).bytes)).getD
              js.null) := by
  unfold decodeIPCMessage
  -- the checksum is kept folded, so that `rfl` does not run it
  generalize calculateCRC32 = crc
  rfl

/-! ## The checksum is CRC-32 -/

theorem word_crcRound (crc : Int) : word (crcRound crc) = crcBit (word crc) := by
  have hmask : word crc &&& word 1 = if (word crc).getLsbD 0 then 1 else 0 := by
    show word crc &&& 1#32 = _
    rw [BitVec.and_one_eq_setWidth_ofBool_getLsbD]
    cases (word crc).getLsbD 0 <;> rfl
  rw [crcRound, word_bitXor, word_ushiftRight, word_bitAnd, word_neg, word_bitAnd, hmask, crcBit]
  cases (word crc).getLsbD 0 with
  | true =>
    show word crc >>> 1 ^^^ (word 0xedb88320 &&& BitVec.allOnes 32) = _
    rw [BitVec.and_allOnes]
    rfl
  | false =>
    show word crc >>> 1 ^^^ (word 0xedb88320 &&& 0#32) = _
    rw [BitVec.and_zero, BitVec.xor_zero]
    rfl

theorem word_crcRounds (n : Nat) (crc : Int) :
    word (crcRounds n crc) = crcBits n (word crc) := by
  induction n generalizing crc with
  | zero => rfl
  | succ n ih => rw [crcRounds, ih, word_crcRound, crcBits]

theorem word_byte (b : UInt8) : word (b.toNat : Int) = b.toBitVec.setWidth 32 := by
  rw [word, BitVec.ofInt_natCast]
  refine BitVec.eq_of_toNat_eq ?_
  rw [BitVec.toNat_ofNat, BitVec.toNat_setWidth, UInt8.toNat_toBitVec]

/-- The register of the loop is the register of CRC-32. -/
theorem word_crcLoop (data : List UInt8) (crc : Int) :
    word (data.foldl (fun crc b => crcRounds 8 (bitXor crc b.toNat)) crc) =
      data.foldl crcByte (word crc) := by
  induction data generalizing crc with
  | nil => rfl
  | cons b rest ih =>
    rw [List.foldl_cons, ih, List.foldl_cons, word_crcRounds, word_bitXor, word_byte]
    rfl

/-- **The checksum loop computes CRC-32**, as an unsigned number. -/
theorem calculateCRC32_eq (data : List UInt8) :
    calculateCRC32 data = (crc32 data).toNat := by
  have hloop := word_crcLoop data 0xffffffff
  show (((word (bitXor _ 0xffffffff)) >>> 0).toNat : Int) = _
  rw [word_bitXor, hloop]
  rfl

end SensorNet.Common
