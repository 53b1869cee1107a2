import Mathlib.Logic.Basic

/-!
# CRC-32

The checksum of IEEE 802.3 in its bit-reflected form, on 32-bit words: each byte
is added to the low end of the register, and eight times a bit is shifted out
and, if it was set, the generator polynomial added.
-/

namespace SensorNet

/-- The generator polynomial, bit-reflected. -/
def crcPolynomial : BitVec 32 := 0xedb88320

/-- Shift one bit out of the register. -/
def crcBit (crc : BitVec 32) : BitVec 32 :=
  if crc.getLsbD 0 then crc >>> 1 ^^^ crcPolynomial else crc >>> 1

/-- Shift `n` bits out of the register. -/
def crcBits : Nat → BitVec 32 → BitVec 32
  | 0, crc => crc
  | n + 1, crc => crcBits n (crcBit crc)

/-- Take one byte into the register. -/
def crcByte (crc : BitVec 32) (b : UInt8) : BitVec 32 :=
  crcBits 8 (crc ^^^ b.toBitVec.setWidth 32)

/-- CRC-32 of a byte string. -/
def crc32 (bs : List UInt8) : BitVec 32 :=
  bs.foldl crcByte (BitVec.allOnes 32) ^^^ BitVec.allOnes 32

/-- The check value of the standard: CRC-32 of the text `123456789`. -/
example : crc32 [0x31, 0x32, 0x33, 0x34, 0x35, 0x36, 0x37, 0x38, 0x39] = 0xcbf43926 := by
  decide +kernel

end SensorNet
