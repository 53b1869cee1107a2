import SensorNet.Lib.LittleEndian

/-!
# Typed arrays and data views

Byte arrays of JavaScript. A `Uint8Array` is a window on an `ArrayBuffer`; a
`DataView` made of the buffer alone sees the whole buffer, whatever the window.

- `Uint8Array.ofBytes`: a fresh array that covers its buffer.
- `Uint8Array.slice`: a fresh copy of part of the window, clamped to it.
- `DataView.getUint32` and its like: little-endian reads, which throw a
  `RangeError` outside the buffer; `DataView.set`: writes.
-/

namespace SensorNet.Js

/-- What an access outside a buffer throws. -/
inductive RangeError where
  | outOfBounds
  deriving DecidableEq, Repr

/-- A window of `length` bytes on `buffer`, from `byteOffset` on. -/
structure Uint8Array where
  buffer : List UInt8
  byteOffset : Nat
  length : Nat
  inBounds : byteOffset + length ≤ buffer.length

namespace Uint8Array

/-- The bytes the window shows. -/
def bytes (a : Uint8Array) : List UInt8 := (a.buffer.drop a.byteOffset).take a.length

/-- An array that covers a buffer of its own. -/
def ofBytes (bs : List UInt8) : Uint8Array := ⟨bs, 0, bs.length, by omega⟩

/-- `a.slice(begin, end)` for non-negative arguments: a copy of its own. -/
def slice (a : Uint8Array) (first last : Nat) : Uint8Array :=
  ofBytes ((a.bytes.take last).drop first)

/-- A fresh copy of the bytes the window shows. -/
def copy (a : Uint8Array) : Uint8Array := ofBytes a.bytes

@[simp] theorem bytes_ofBytes (bs : List UInt8) : (ofBytes bs).bytes = bs := by
  simp [ofBytes, bytes]

@[simp] theorem length_ofBytes (bs : List UInt8) : (ofBytes bs).length = bs.length := rfl

@[simp] theorem buffer_ofBytes (bs : List UInt8) : (ofBytes bs).buffer = bs := rfl

@[simp] theorem length_bytes (a : Uint8Array) : a.bytes.length = a.length := by
  have h := a.inBounds
  rw [bytes, List.length_take, List.length_drop]
  omega

@[simp] theorem bytes_slice (a : Uint8Array) (first last : Nat) :
    (a.slice first last).bytes = (a.bytes.take last).drop first := by
  rw [slice, bytes_ofBytes]

/-- A window from the start of the buffer shows the first bytes of the buffer. -/
theorem bytes_of_byteOffset {a : Uint8Array} (h : a.byteOffset = 0) :
    a.bytes = a.buffer.take a.length := by
  rw [bytes, h, List.drop_zero]

end Uint8Array

/-- `new DataView(buffer)` -/
structure DataView where
  buffer : List UInt8

namespace DataView

/-- The `k` bytes from `offset` on. -/
def get (v : DataView) (offset k : Nat) : Except RangeError (List UInt8) :=
  if offset + k ≤ v.buffer.length then .ok ((v.buffer.drop offset).take k)
  else .error .outOfBounds

/-- `getUint8(offset)` -/
def getUint8 (v : DataView) (offset : Nat) : Except RangeError Nat :=
  leNat <$> v.get offset 1

/-- `getUint16(offset, true)` -/
def getUint16 (v : DataView) (offset : Nat) : Except RangeError Nat :=
  leNat <$> v.get offset 2

/-- `getUint32(offset, true)` -/
def getUint32 (v : DataView) (offset : Nat) : Except RangeError Nat :=
  leNat <$> v.get offset 4

/-- Write bytes from `offset` on. -/
def set (v : DataView) (offset : Nat) (bs : List UInt8) : Except RangeError DataView :=
  if offset + bs.length ≤ v.buffer.length then
    .ok ⟨v.buffer.take offset ++ bs ++ v.buffer.drop (offset + bs.length)⟩
  else .error .outOfBounds

/-- `setUint8(offset, n)`: the number is taken modulo 256. -/
def setUint8 (v : DataView) (offset n : Nat) : Except RangeError DataView :=
  v.set offset (leBytes 1 n)

/-- `setUint16(offset, n, true)`: the number is taken modulo `2 ^ 16`. -/
def setUint16 (v : DataView) (offset n : Nat) : Except RangeError DataView :=
  v.set offset (leBytes 2 n)

/-- `setUint32(offset, n, true)`: the number is taken modulo `2 ^ 32`. -/
def setUint32 (v : DataView) (offset n : Nat) : Except RangeError DataView :=
  v.set offset (leBytes 4 n)

/-- A read inside the buffer. -/
theorem get_eq_ok {v : DataView} {offset k : Nat} (h : offset + k ≤ v.buffer.length) :
    v.get offset k = .ok ((v.buffer.drop offset).take k) := if_pos h

theorem getUint32_eq_ok {v : DataView} {offset : Nat}
    (h : offset + 4 ≤ v.buffer.length) :
    v.getUint32 offset = .ok (leNat ((v.buffer.drop offset).take 4)) := by
  rw [getUint32, get_eq_ok h]
  rfl

/-- A write that fills the gap between a prefix and a suffix. -/
theorem set_append (pre gap post bs : List UInt8) (h : gap.length = bs.length) :
    (DataView.mk (pre ++ gap ++ post)).set pre.length bs = .ok ⟨pre ++ bs ++ post⟩ := by
  rw [set, if_pos (by simp only [List.length_append]; omega), ← h]
  simp [List.append_assoc]

/-- A read inside the first `n` bytes only depends on these. -/
theorem get_take {bs : List UInt8} {n offset k : Nat} (h : offset + k ≤ n)
    (hn : n ≤ bs.length) : (DataView.mk (bs.take n)).get offset k = (mk bs).get offset k := by
  have hlen : (bs.take n).length = n := by
    rw [List.length_take, Nat.min_eq_left hn]
  rw [get_eq_ok (by show offset + k ≤ (bs.take n).length; omega),
    get_eq_ok (by show offset + k ≤ bs.length; omega)]
  show Except.ok (((bs.take n).drop offset).take k) = .ok ((bs.drop offset).take k)
  rw [List.drop_take, List.take_take, Nat.min_eq_left (by omega)]

end DataView

end SensorNet.Js
