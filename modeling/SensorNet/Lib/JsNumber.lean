import Mathlib.Data.Int.Basic

/-!
# Numbers of JavaScript

JavaScript's numbers here are integers (`Int`; but for what `parseIntHex` reads, all
values that occur are far below `2 ^ 53`).

- The bitwise operators convert their operands to 32-bit words, work on the words,
  and convert back: to a signed number, but for `>>>`.
- `parseIntHex`: a number from a text in hexadecimal digits.
- `toUint8`: what a byte array stores for a number.
-/

namespace SensorNet.Js

/-! ## Bitwise operators -/

/-- The 32-bit word of a number (`ToInt32`, `ToUint32`). -/
def word (a : Int) : BitVec 32 := BitVec.ofInt 32 a

/-- `a ^ b` -/
def bitXor (a b : Int) : Int := (word a ^^^ word b).toInt

/-- `a & b` -/
def bitAnd (a b : Int) : Int := (word a &&& word b).toInt

/-- `a >>> k` for `k < 32` -/
def ushiftRight (a : Int) (k : Nat) : Int := (word a >>> k).toNat

@[simp] theorem word_bitXor (a b : Int) : word (bitXor a b) = word a ^^^ word b := by
  rw [word, bitXor, BitVec.ofInt_toInt]

@[simp] theorem word_bitAnd (a b : Int) : word (bitAnd a b) = word a &&& word b := by
  rw [word, bitAnd, BitVec.ofInt_toInt]

@[simp] theorem word_ushiftRight (a : Int) (k : Nat) :
    word (ushiftRight a k) = word a >>> k := by
  rw [word, ushiftRight, BitVec.ofInt_natCast, BitVec.ofNat_toNat, BitVec.setWidth_eq]

@[simp] theorem word_neg (a : Int) : word (-a) = -word a := by
  rw [word, word, BitVec.ofInt_neg]

/-! ## Numbers from texts -/

/-- The white space and the line ends that `parseInt` skips. -/
def isWhiteSpace (c : Char) : Bool :=
  c.toNat ∈ [0x9, 0xa, 0xb, 0xc, 0xd, 0x20, 0xa0, 0x1680, 0x2028, 0x2029, 0x202f, 0x205f,
    0x3000, 0xfeff] || (0x2000 ≤ c.toNat && c.toNat ≤ 0x200a)

/-- The value of a hexadecimal digit, of either case. -/
def hexDigitValue (c : Char) : Option Nat :=
  if '0' ≤ c ∧ c ≤ '9' then some (c.toNat - '0'.toNat)
  else if 'a' ≤ c ∧ c ≤ 'f' then some (c.toNat - 'a'.toNat + 10)
  else if 'A' ≤ c ∧ c ≤ 'F' then some (c.toNat - 'A'.toNat + 10)
  else none

/-- The values of the hexadecimal digits that a text begins with. -/
def hexPrefix : List Char → List Nat
  | [] => []
  | c :: s =>
    match hexDigitValue c with
    | some d => d :: hexPrefix s
    | none => []

/-- The number nearest to `n` with 53 significant bits, of two the even one. -/
def roundToDouble (n : Nat) : Nat :=
  if n < 9007199254740992 then n
  else
    let unit := 1 <<< (n.log2 - 52)
    let q := n / unit
    let r := n % unit
    if 2 * r < unit then q * unit
    else if unit < 2 * r then (q + 1) * unit
    else (q + q % 2) * unit

/-- The text behind a sign, and whether the sign is `-`. -/
def stripSign : List Char → Bool × List Char
  | '-' :: s => (true, s)
  | '+' :: s => (false, s)
  | s => (false, s)

/-- The text behind `0x` or `0X`. -/
def stripHex : List Char → List Char
  | '0' :: 'x' :: s => s
  | '0' :: 'X' :: s => s
  | s => s

/-- `parseInt(s, 16)`; `none` is `NaN`. A number too large for a double is not made
`Infinity`; it is a multiple of 256 either way, as `toUint8` reads it. -/
def parseIntHex (s : List Char) : Option Int :=
  let (negative, s) := stripSign (s.dropWhile isWhiteSpace)
  match hexPrefix (stripHex s) with
  | [] => none
  | digits =>
    let n : Int := roundToDouble (digits.foldl (fun n d => 16 * n + d) 0)
    some (if negative then -n else n)

/-- `ToUint8`: the low byte of a number, and 0 for `NaN`. -/
def toUint8 : Option Int → UInt8
  | none => 0
  | some n => UInt8.ofInt n

/-- Two digits `high` and `low` are read as one byte. -/
theorem toUint8_parseIntHex : ∀ high < 16, ∀ low < 16,
    toUint8 (parseIntHex [Nat.digitChar high, Nat.digitChar low]) =
      UInt8.ofNat (16 * high + low) := by
  decide +kernel

end SensorNet.Js
