import SensorNet.Common.IpcProtocol
import SensorNet.Lib.CrcPolynomial

/-!
# The checksum of a frame (`ipc-protocol.ts`)

`calculateCRC32` works on numbers that are signed after `^` and `&` and unsigned after
`>>>`. Every step of it depends only on the 32-bit word of the number, and on the words it
is the bit-serial loop of CRC-32 (`calculateCRC32_eq`). That loop computes the remainder of
polynomials by which the checksum is defined, so both ends of the link agree on it whatever
loop or table they use.
-/

namespace SensorNet.Common

/-- The checksum is the unsigned number of a 32-bit word. -/
theorem calculateCRC32_range (data : List UInt8) :
    0 ≤ calculateCRC32 data ∧ calculateCRC32 data < 4294967296 := by
  have hlt := (crc32 data).isLt
  rw [calculateCRC32_eq]
  omega

/-- **`calculateCRC32` is CRC-32 by its definition**: the remainder of the message, times
`x ^ 32` and with its first 32 bits complemented, by the generator, reflected and
complemented, as a number from `0` to `2 ^ 32 - 1`. -/
theorem calculateCRC32_isoHdlc (data : List UInt8) :
    calculateCRC32 data = (crc32Reference data).toNat ∧
      0 ≤ calculateCRC32 data ∧ calculateCRC32 data < 4294967296 := by
  refine ⟨?_, calculateCRC32_range data⟩
  rw [calculateCRC32_eq, crc32_eq_reference]

end SensorNet.Common
