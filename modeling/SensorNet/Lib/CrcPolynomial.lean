import Mathlib.Algebra.CharP.Two
import Mathlib.Algebra.Field.ZMod
import Mathlib.Algebra.Polynomial.Div
import SensorNet.Lib.CrcBurst

/-!
# CRC-32 as a remainder of polynomials

The definition of the checksum over the field of two elements: the message is the polynomial
whose coefficients are its bits, of each byte the least significant one first; it is
multiplied by `x ^ 32`, its first 32 bits are complemented, and the remainder by the
generator, reflected and complemented, is the checksum (`crc32Reference`).

The register of the bit-serial loop is the reflected remainder: shifting one bit out of it
multiplies it by `x` up to a multiple of the generator (`dvd_crcBit`), so that reading a
string of bits multiplies it by a power of `x` and adds the polynomial of the string
(`dvd_crcReads`). It has only 32 bits, so it is the remainder (`crc32_eq_reference`).
-/

namespace SensorNet

open Polynomial

/-! ## The definition -/

/-- The polynomial whose coefficients are the bits, the first one the highest -/
noncomputable def bitsPolynomial : List Bool → (ZMod 2)[X]
  | [] => 0
  | b :: bits => C (b.toNat : ZMod 2) * X ^ bits.length + bitsPolynomial bits

/-- The generator -/
noncomputable def crcGenerator : (ZMod 2)[X] :=
  X ^ 32 + (X ^ 26 + X ^ 23 + X ^ 22 + X ^ 16 + X ^ 12 + X ^ 11 + X ^ 10 + X ^ 8 + X ^ 7
    + X ^ 5 + X ^ 4 + X ^ 2 + X + 1)

/-- The polynomial with 32 coefficients that are all one -/
noncomputable def onesPolynomial : (ZMod 2)[X] := ∑ i ∈ Finset.range 32, X ^ i

/-- The polynomial of a message times `x ^ 32`, with the first 32 bits complemented -/
noncomputable def presetPolynomial (bits : List Bool) : (ZMod 2)[X] :=
  bitsPolynomial bits * X ^ 32 + onesPolynomial * X ^ bits.length

/-- The word whose lowest bit is the coefficient of `x ^ 31` and whose highest bit is that of
`x ^ 0` -/
def reflectedWord (p : (ZMod 2)[X]) : BitVec 32 :=
  BitVec.ofNat 32 (bitsNat ((List.range 32).map fun i => decide (p.coeff (31 - i) = 1)))

/-- CRC-32 of a byte string, by its definition -/
noncomputable def crc32Reference (bs : List UInt8) : BitVec 32 :=
  ~~~ reflectedWord (presetPolynomial (bitsOf bs) %ₘ crcGenerator)

/-! ## The polynomial of a register -/

/-- The low bits of a number, by their places -/
theorem lowBits_eq_map (n m : Nat) : lowBits n m = (List.range n).map m.testBit := by
  induction n generalizing m with
  | zero => rfl
  | succ n ih =>
    rw [lowBits, ih, List.range_succ_eq_map, List.map_cons, List.map_map, Nat.testBit_zero]
    refine congrArg _ (List.map_congr_left fun i _ => ?_)
    rw [Function.comp_apply, Nat.testBit_succ]

/-- The polynomial of a word, its lowest bit the coefficient of `x ^ 31` -/
noncomputable def wordPolynomial (w : BitVec 32) : (ZMod 2)[X] :=
  ∑ k ∈ Finset.range 32, C ((w.getLsbD (31 - k)).toNat : ZMod 2) * X ^ k

theorem coeff_wordPolynomial (w : BitVec 32) (k : Nat) :
    (wordPolynomial w).coeff k = if k < 32 then ((w.getLsbD (31 - k)).toNat : ZMod 2) else 0 := by
  simp only [wordPolynomial, finsetSum_coeff, coeff_C_mul, coeff_X_pow, mul_ite, mul_one,
    mul_zero, Finset.sum_ite_eq, Finset.mem_range]

theorem toNat_xor (a b : Bool) : ((a ^^ b).toNat : ZMod 2) = a.toNat + b.toNat := by
  cases a <;> cases b <;> decide

theorem wordPolynomial_xor (v w : BitVec 32) :
    wordPolynomial (v ^^^ w) = wordPolynomial v + wordPolynomial w := by
  ext k
  rw [coeff_add, coeff_wordPolynomial, coeff_wordPolynomial, coeff_wordPolynomial]
  split
  · rw [BitVec.getLsbD_xor, toNat_xor]
  · rw [add_zero]

/-- Shifting a word down multiplies it by `x`, but for the bit that is shifted out. -/
theorem X_mul_wordPolynomial (w : BitVec 32) :
    X * wordPolynomial w
      = C ((w.getLsbD 0).toNat : ZMod 2) * X ^ 32 + wordPolynomial (w >>> 1) := by
  ext k
  rw [coeff_add, coeff_C_mul, coeff_X_pow, coeff_wordPolynomial, BitVec.getLsbD_ushiftRight]
  cases k with
  | zero => simp
  | succ k =>
    rw [coeff_X_mul, coeff_wordPolynomial]
    by_cases hlast : k = 31
    · subst hlast
      simp
    · by_cases hk : k < 31
      · have hbit : 1 + (31 - (k + 1)) = 31 - k := by omega
        rw [if_pos (by omega), if_neg (by omega), if_pos (by omega), hbit, mul_zero, zero_add]
      · rw [if_neg (by omega), if_neg (by omega), if_neg (by omega), mul_zero, zero_add]

theorem crcGenerator_eq : crcGenerator = X ^ 32 + wordPolynomial crcPolynomial := by
  simp [crcGenerator, wordPolynomial, crcPolynomial, Finset.sum_range_succ]
  ring

theorem wordPolynomial_allOnes : wordPolynomial (BitVec.allOnes 32) = onesPolynomial := by
  refine Finset.sum_congr rfl fun k _ => ?_
  have hbit : (BitVec.allOnes 32).getLsbD (31 - k) = true := by
    rw [BitVec.getLsbD_allOnes, decide_eq_true_eq]
    omega
  rw [hbit, Bool.toNat_true, Nat.cast_one, C_1, one_mul]

/-- A bit at the lowest place is the coefficient of `x ^ 31`. -/
theorem wordPolynomial_bit (b : Bool) :
    wordPolynomial (BitVec.ofNat 32 b.toNat) = C (b.toNat : ZMod 2) * X ^ 31 := by
  cases b with
  | false => simp [wordPolynomial]
  | true =>
    ext k
    rw [Bool.toNat_true, Nat.cast_one, C_1, one_mul, coeff_X_pow, coeff_wordPolynomial]
    have hbit : (BitVec.ofNat 32 1).getLsbD (31 - k) = decide (31 - k = 0) := by
      rw [BitVec.getLsbD_one]
      rfl
    by_cases hk : k < 32
    · rw [if_pos hk, hbit]
      by_cases hlast : k = 31
      · subst hlast
        simp
      · have hne : ¬ 31 - k = 0 := by omega
        rw [if_neg hlast, decide_eq_false hne, Bool.toNat_false, Nat.cast_zero]
    · rw [if_neg hk, if_neg (by omega)]

theorem degree_wordPolynomial_lt (w : BitVec 32) : (wordPolynomial w).degree < 32 := by
  refine (degree_lt_iff_coeff_zero _ 32).mpr fun k hk => ?_
  rw [coeff_wordPolynomial, if_neg (by omega)]

/-- A word is read back from its polynomial. -/
theorem reflectedWord_wordPolynomial (w : BitVec 32) : reflectedWord (wordPolynomial w) = w := by
  have hbits : ((List.range 32).map fun i => decide ((wordPolynomial w).coeff (31 - i) = 1))
      = lowBits 32 w.toNat := by
    rw [lowBits_eq_map]
    refine List.map_congr_left fun i hi => ?_
    have hlt := List.mem_range.mp hi
    rw [coeff_wordPolynomial, if_pos (by omega), show 31 - (31 - i) = i by omega,
      BitVec.testBit_toNat]
    cases w.getLsbD i <;> decide
  rw [reflectedWord, hbits, bitsNat_lowBits, Nat.mod_eq_of_lt w.isLt, BitVec.ofNat_toNat,
    BitVec.setWidth_eq]

/-! ## The register is the remainder -/

theorem crcGenerator_monic : crcGenerator.Monic := by
  rw [crcGenerator_eq]
  exact monic_X_pow_add (degree_wordPolynomial_lt _)

theorem degree_crcGenerator : crcGenerator.degree = 32 := by
  rw [crcGenerator_eq, degree_add_eq_left_of_degree_lt, degree_X_pow]
  · rfl
  · rw [degree_X_pow]
    exact degree_wordPolynomial_lt _

/-- Shifting a bit out of the register multiplies it by `x`, up to the generator. -/
theorem dvd_crcBit (w : BitVec 32) :
    crcGenerator ∣ wordPolynomial (crcBit w) - X * wordPolynomial w := by
  rw [X_mul_wordPolynomial, crcBit]
  cases w.getLsbD 0 with
  | false => simp
  | true =>
    -- What is added is the generator without its highest term, the term that was shifted out.
    have heq : wordPolynomial (w >>> 1 ^^^ crcPolynomial)
        - (C ((true.toNat : Nat) : ZMod 2) * X ^ 32 + wordPolynomial (w >>> 1))
        = crcGenerator := by
      rw [wordPolynomial_xor, crcGenerator_eq, CharTwo.sub_eq_add, Bool.toNat_true, Nat.cast_one,
        C_1, one_mul]
      calc wordPolynomial (w >>> 1) + wordPolynomial crcPolynomial
            + (X ^ 32 + wordPolynomial (w >>> 1))
          = (wordPolynomial (w >>> 1) + wordPolynomial (w >>> 1))
            + (X ^ 32 + wordPolynomial crcPolynomial) := by ring
        _ = X ^ 32 + wordPolynomial crcPolynomial := by
          rw [CharTwo.add_self_eq_zero, zero_add]
    rw [if_pos rfl, heq]

/-- Taking a bit into the register -/
theorem dvd_crcStep (w : BitVec 32) (b : Bool) :
    crcGenerator ∣ wordPolynomial (crcStep w b)
      - (X * wordPolynomial w + C (b.toNat : ZMod 2) * X ^ 32) := by
  have hbit := dvd_crcBit (w ^^^ BitVec.ofNat 32 b.toNat)
  rw [wordPolynomial_xor, wordPolynomial_bit] at hbit
  have hmul : X * (C (b.toNat : ZMod 2) * X ^ 31) = C (b.toNat : ZMod 2) * X ^ 32 := by ring
  rw [mul_add, hmul] at hbit
  exact hbit

/-- **Reading a string of bits multiplies the register by a power of `x` and adds the
polynomial of the string, times `x ^ 32`.** -/
theorem dvd_crcReads (w : BitVec 32) (bits : List Bool) :
    crcGenerator ∣ wordPolynomial (crcReads w bits)
      - (wordPolynomial w * X ^ bits.length + bitsPolynomial bits * X ^ 32) := by
  induction bits generalizing w with
  | nil => simp [crcReads, bitsPolynomial]
  | cons b bits ih =>
    have hrest := ih (crcStep w b)
    have hstep := (dvd_crcStep w b).mul_right (X ^ bits.length)
    have hsum := dvd_add hrest hstep
    convert hsum using 1
    rw [bitsPolynomial, List.length_cons, pow_succ]
    simp only [crcReads, List.foldl_cons]
    ring

/-- A word that is congruent to a polynomial is its remainder. -/
theorem modByMonic_eq_wordPolynomial {p : (ZMod 2)[X]} {w : BitVec 32}
    (h : crcGenerator ∣ wordPolynomial w - p) : p %ₘ crcGenerator = wordPolynomial w := by
  obtain ⟨q, hq⟩ := h
  refine (div_modByMonic_unique (-q) (wordPolynomial w) crcGenerator_monic ⟨?_, ?_⟩).2
  · rw [mul_neg, ← hq]
    ring
  · rw [degree_crcGenerator]
    exact degree_wordPolynomial_lt w

/-- **The bit-serial loop computes CRC-32.** -/
theorem crc32_eq_reference (bs : List UInt8) : crc32 bs = crc32Reference bs := by
  have hdvd := dvd_crcReads (BitVec.allOnes 32) (bitsOf bs)
  rw [wordPolynomial_allOnes, add_comm] at hdvd
  rw [crc32Reference, presetPolynomial, modByMonic_eq_wordPolynomial hdvd,
    reflectedWord_wordPolynomial, crc32, foldl_crcByte_eq, BitVec.xor_allOnes]

end SensorNet
