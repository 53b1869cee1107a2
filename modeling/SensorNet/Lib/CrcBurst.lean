import SensorNet.Lib.Crc32
import SensorNet.Lib.LittleEndian
import Mathlib.Data.Nat.Bitwise

/-!
# CRC-32 and burst errors

The checksum read bit by bit: a byte string is the sequence of its bits, of each
byte the least significant one first (`bitsOf`), and the register takes one bit
at a time (`crcStep`). Shifting a bit out is linear and loses nothing
(`crcBit_xor`, `crcBit_injective`), so

- equal bits read from different registers leave different registers;
- from one register, different strings of at most 32 bits leave different
  registers (`crcReads_injective`), as the register holds all of them.

A string with its checksum after it leaves the same register whatever the string
is (`crcReads_codeword`). So two of them that differ only within 32 consecutive
bits are equal (`codeword_eq_of_burst`).
-/

namespace SensorNet

/-! ## Bits -/

/-- The `n` low bits of a number, least significant first. -/
def lowBits : Nat → Nat → List Bool
  | 0, _ => []
  | n + 1, m => decide (m % 2 = 1) :: lowBits n (m / 2)

/-- The number whose bits are given, least significant first. -/
def bitsNat : List Bool → Nat
  | [] => 0
  | b :: bs => b.toNat + 2 * bitsNat bs

/-- The bits of a byte string, of each byte the least significant one first. -/
def bitsOf : List UInt8 → List Bool
  | [] => []
  | b :: bs => lowBits 8 b.toNat ++ bitsOf bs

@[simp] theorem length_lowBits (n m : Nat) : (lowBits n m).length = n := by
  induction n generalizing m with
  | zero => rfl
  | succ n ih => rw [lowBits, List.length_cons, ih]

theorem bitsNat_lowBits (n m : Nat) : bitsNat (lowBits n m) = m % 2 ^ n := by
  induction n generalizing m with
  | zero => rw [lowBits, bitsNat, pow_zero, Nat.mod_one]
  | succ n ih =>
    rw [lowBits, bitsNat, ih, pow_succ', Nat.mod_mul]
    rcases Nat.mod_two_eq_zero_or_one m with h | h <;> simp [h]

theorem bitsNat_lt (l : List Bool) : bitsNat l < 2 ^ l.length := by
  induction l with
  | nil => exact Nat.one_pos
  | cons b l ih =>
    have hb : b.toNat ≤ 1 := Bool.toNat_le b
    rw [bitsNat, List.length_cons, pow_succ]
    omega

/-- Bit strings of one length are told apart by their numbers. -/
theorem bitsNat_injective {k l : List Bool} (hlen : k.length = l.length)
    (h : bitsNat k = bitsNat l) : k = l := by
  induction k generalizing l with
  | nil => exact (List.length_eq_zero_iff.mp hlen.symm).symm
  | cons b k ih =>
    cases l with
    | nil => cases hlen
    | cons c l =>
      rw [bitsNat, bitsNat] at h
      have hb : b.toNat ≤ 1 := Bool.toNat_le b
      have hc : c.toNat ≤ 1 := Bool.toNat_le c
      have hbit : b.toNat = c.toNat := by omega
      have hbc : b = c := by
        cases b <;> cases c <;> first | rfl | cases hbit
      have hkl : k = l := ih (Nat.succ.inj hlen) (by omega)
      rw [hbc, hkl]

theorem lowBits_add (j k m : Nat) :
    lowBits (j + k) m = lowBits j m ++ lowBits k (m / 2 ^ j) := by
  induction j generalizing m with
  | zero => rw [Nat.zero_add, lowBits, List.nil_append, pow_zero, Nat.div_one]
  | succ j ih =>
    rw [Nat.succ_add, lowBits, ih, lowBits, List.cons_append, Nat.div_div_eq_div_mul,
      pow_succ']

@[simp] theorem length_bitsOf (bs : List UInt8) : (bitsOf bs).length = 8 * bs.length := by
  induction bs with
  | nil => rfl
  | cons b bs ih =>
    rw [bitsOf, List.length_append, length_lowBits, ih, List.length_cons]
    omega

theorem bitsOf_append (bs cs : List UInt8) : bitsOf (bs ++ cs) = bitsOf bs ++ bitsOf cs := by
  induction bs with
  | nil => rfl
  | cons b bs ih => rw [List.cons_append, bitsOf, bitsOf, ih, List.append_assoc]

/-- A byte string is determined by its bits. -/
theorem bitsOf_injective {bs cs : List UInt8} (h : bitsOf bs = bitsOf cs) : bs = cs := by
  induction bs generalizing cs with
  | nil =>
    have hlen := congrArg List.length h
    rw [length_bitsOf, length_bitsOf, List.length_nil] at hlen
    exact (List.length_eq_zero_iff.mp (by omega)).symm
  | cons b bs ih =>
    cases cs with
    | nil =>
      have hlen := congrArg List.length h
      rw [length_bitsOf, length_bitsOf, List.length_cons, List.length_nil] at hlen
      omega
    | cons c cs =>
      rw [bitsOf, bitsOf] at h
      obtain ⟨hbyte, hrest⟩ := List.append_inj h (by rw [length_lowBits, length_lowBits])
      have hnum := congrArg bitsNat hbyte
      rw [bitsNat_lowBits, bitsNat_lowBits, Nat.mod_eq_of_lt b.toNat_lt,
        Nat.mod_eq_of_lt c.toNat_lt] at hnum
      rw [UInt8.toNat_inj.mp hnum, ih hrest]

/-- The bits of a number written as bytes, least significant first. -/
theorem bitsOf_leBytes (k n : Nat) : bitsOf (leBytes k n) = lowBits (8 * k) n := by
  induction k generalizing n with
  | zero => rfl
  | succ k ih =>
    have hbyte : lowBits 8 (UInt8.ofNat n).toNat = lowBits 8 n := by
      refine bitsNat_injective (by rw [length_lowBits, length_lowBits]) ?_
      rw [bitsNat_lowBits, bitsNat_lowBits, UInt8.toNat_ofNat', Nat.mod_mod]
    rw [leBytes, bitsOf, ih, hbyte, show 8 * (k + 1) = 8 + 8 * k by omega, lowBits_add]
    rfl

/-! ## Shifting is linear and loses nothing -/

theorem crcBit_xor (x y : BitVec 32) : crcBit (x ^^^ y) = crcBit x ^^^ crcBit y := by
  unfold crcBit
  rw [BitVec.getLsbD_xor, BitVec.ushiftRight_xor_distrib]
  cases x.getLsbD 0 <;> cases y.getLsbD 0
  · rfl
  · exact BitVec.xor_assoc ..
  · show x >>> 1 ^^^ y >>> 1 ^^^ crcPolynomial = x >>> 1 ^^^ crcPolynomial ^^^ y >>> 1
    ac_rfl
  · -- the generator is added twice
    show x >>> 1 ^^^ y >>> 1 =
      x >>> 1 ^^^ crcPolynomial ^^^ (y >>> 1 ^^^ crcPolynomial)
    rw [BitVec.xor_comm (y >>> 1), BitVec.xor_assoc (x >>> 1), ← BitVec.xor_assoc crcPolynomial,
      BitVec.xor_self, BitVec.zero_xor]

/-- The generator's top bit marks that a bit was shifted out. -/
theorem crcBit_eq_zero {x : BitVec 32} (h : crcBit x = 0) : x = 0 := by
  have hlow : x.getLsbD 0 = false := by
    cases hx : x.getLsbD 0 with
    | false => rfl
    | true =>
      have htop := congrArg (fun v => v.getLsbD 31) h
      rw [crcBit, if_pos hx] at htop
      simp [crcPolynomial] at htop
  rw [crcBit, if_neg (by rw [hlow]; exact Bool.false_ne_true)] at h
  refine BitVec.eq_of_getLsbD_eq fun i hi => ?_
  cases i with
  | zero => exact hlow
  | succ i =>
    have hbit := congrArg (fun v => v.getLsbD i) h
    simpa [BitVec.getLsbD_ushiftRight, Nat.add_comm] using hbit

theorem crcBit_injective : Function.Injective crcBit := by
  intro x y h
  have hzero : crcBit (x ^^^ y) = 0 := by
    rw [crcBit_xor, h]
    exact BitVec.xor_self
  exact BitVec.xor_eq_zero_iff.mp (crcBit_eq_zero hzero)

theorem crcBits_injective (n : Nat) : Function.Injective (crcBits n) := by
  induction n with
  | zero => exact fun x y h => h
  | succ n ih => exact fun x y h => crcBit_injective (ih h)

/-- An even word only moves down. -/
theorem crcBit_two_mul {m : Nat} (h : 2 * m < 2 ^ 32) :
    crcBit (BitVec.ofNat 32 (2 * m)) = BitVec.ofNat 32 m := by
  have hlow : (BitVec.ofNat 32 (2 * m)).getLsbD 0 = false := by
    rw [BitVec.getLsbD_ofNat, Nat.testBit_zero]
    simp
  rw [crcBit, if_neg (by rw [hlow]; exact Bool.false_ne_true)]
  refine BitVec.eq_of_toNat_eq ?_
  rw [BitVec.toNat_ushiftRight, BitVec.toNat_ofNat, BitVec.toNat_ofNat,
    Nat.mod_eq_of_lt h, Nat.mod_eq_of_lt (by omega : m < 2 ^ 32), Nat.shiftRight_eq_div_pow]
  omega

/-! ## The register, bit by bit -/

/-- Take one bit into the register. -/
def crcStep (crc : BitVec 32) (b : Bool) : BitVec 32 :=
  crcBit (crc ^^^ BitVec.ofNat 32 b.toNat)

/-- Take a string of bits into the register. -/
def crcReads (crc : BitVec 32) (bits : List Bool) : BitVec 32 :=
  bits.foldl crcStep crc

theorem crcReads_append (crc : BitVec 32) (k l : List Bool) :
    crcReads crc (k ++ l) = crcReads (crcReads crc k) l :=
  List.foldl_append

/-- A word is its lowest bit and the others. -/
theorem ofNat_bit (b : Bool) (m : Nat) :
    BitVec.ofNat 32 (b.toNat + 2 * m) =
      BitVec.ofNat 32 b.toNat ^^^ BitVec.ofNat 32 (2 * m) := by
  rw [← BitVec.ofNat_xor]
  cases b with
  | false => rw [Bool.toNat_false, Nat.zero_add, Nat.zero_xor]
  | true =>
    rw [Bool.toNat_true, Nat.xor_comm, Nat.xor_one_of_even (even_two_mul m), Nat.add_comm]

/-- At most 32 bits can be added to the register at once. -/
theorem crcReads_eq {l : List Bool} (h : l.length ≤ 32) (crc : BitVec 32) :
    crcReads crc l = crcBits l.length (crc ^^^ BitVec.ofNat 32 (bitsNat l)) := by
  induction l generalizing crc with
  | nil =>
    show crc = crc ^^^ BitVec.ofNat 32 0
    exact BitVec.xor_zero.symm
  | cons b l ih =>
    rw [List.length_cons] at h
    have hlt : 2 * bitsNat l < 2 ^ 32 := by
      have hl := bitsNat_lt l
      have hpow : 2 ^ l.length ≤ 2 ^ 31 := Nat.pow_le_pow_right (by omega) (by omega)
      omega
    -- the other bits reach the lowest place after one shift
    have hshift : crcBit (crc ^^^ BitVec.ofNat 32 (bitsNat (b :: l))) =
        crcStep crc b ^^^ BitVec.ofNat 32 (bitsNat l) := by
      rw [bitsNat, ofNat_bit, ← BitVec.xor_assoc, crcBit_xor, crcBit_two_mul hlt, crcStep]
    rw [List.length_cons, crcBits, hshift, ← ih (by omega)]
    rfl

/-- The register takes in a byte bit by bit. -/
theorem crcByte_eq (crc : BitVec 32) (b : UInt8) :
    crcByte crc b = crcReads crc (lowBits 8 b.toNat) := by
  have hb : b.toBitVec.setWidth 32 = BitVec.ofNat 32 b.toNat := by
    refine BitVec.eq_of_toNat_eq ?_
    rw [BitVec.toNat_setWidth, BitVec.toNat_ofNat, UInt8.toNat_toBitVec]
  rw [crcReads_eq (by rw [length_lowBits]; omega), length_lowBits, bitsNat_lowBits,
    Nat.mod_eq_of_lt b.toNat_lt, crcByte, hb]

/-- The register takes in a byte string bit by bit. -/
theorem foldl_crcByte_eq (crc : BitVec 32) (bs : List UInt8) :
    bs.foldl crcByte crc = crcReads crc (bitsOf bs) := by
  induction bs generalizing crc with
  | nil => rfl
  | cons b bs ih => rw [List.foldl_cons, ih, crcByte_eq, bitsOf, crcReads_append]

/-! ## What the register tells apart -/

/-- Reading equal bits keeps different registers apart. -/
theorem crcReads_injective_left {l : List Bool} {x y : BitVec 32}
    (h : crcReads x l = crcReads y l) : x = y := by
  induction l generalizing x y with
  | nil => exact h
  | cons b l ih =>
    have hstep : crcBit _ = crcBit _ := ih h
    exact (BitVec.xor_left_inj _).mp (crcBit_injective hstep)

/-- The register holds the last 32 bits read. -/
theorem crcReads_injective {k l : List Bool} {crc : BitVec 32} (hlen : k.length = l.length)
    (h32 : k.length ≤ 32) (h : crcReads crc k = crcReads crc l) : k = l := by
  rw [crcReads_eq h32, crcReads_eq (hlen ▸ h32), hlen] at h
  have hword := congrArg BitVec.toNat ((BitVec.xor_right_inj _).mp (crcBits_injective _ h))
  have hlt : ∀ j : List Bool, j.length ≤ 32 → bitsNat j < 2 ^ 32 := fun j hj =>
    lt_of_lt_of_le (bitsNat_lt j) (Nat.pow_le_pow_right (by omega) hj)
  rw [BitVec.toNat_ofNat, BitVec.toNat_ofNat, Nat.mod_eq_of_lt (hlt k h32),
    Nat.mod_eq_of_lt (hlt l (hlen ▸ h32))] at hword
  exact bitsNat_injective hlen hword

/-- **Bursts change the register**: bit strings of one length that differ, and only
within 32 consecutive bits, leave different registers. -/
theorem eq_of_burst {k l : List Bool} {crc : BitVec 32} {s : Nat}
    (hlen : k.length = l.length)
    (hburst : ∀ i, k[i]? ≠ l[i]? → s ≤ i ∧ i < s + 32)
    (h : crcReads crc k = crcReads crc l) : k = l := by
  -- the strings agree before the window and after it
  have hsplit : ∀ j : List Bool, j = j.take s ++ ((j.drop s).take 32 ++ j.drop (s + 32)) := by
    intro j
    rw [← List.drop_drop, List.take_append_drop, List.take_append_drop]
  have hbefore : k.take s = l.take s := by
    refine List.ext_getElem? fun i => ?_
    by_contra hne
    by_cases hi : i < s
    · rw [List.getElem?_take_of_lt hi, List.getElem?_take_of_lt hi] at hne
      have := hburst i hne
      omega
    · simp [hi] at hne
  have hafter : k.drop (s + 32) = l.drop (s + 32) := by
    refine List.ext_getElem? fun i => ?_
    by_contra hne
    rw [List.getElem?_drop, List.getElem?_drop] at hne
    have := hburst _ hne
    omega
  have hwindow : (k.drop s).take 32 = (l.drop s).take 32 := by
    rw [hsplit k, hsplit l, hbefore, hafter, crcReads_append, crcReads_append,
      crcReads_append, crcReads_append] at h
    refine crcReads_injective ?_ ?_ (crcReads_injective_left h)
    · simp only [List.length_take, List.length_drop, hlen]
    · rw [List.length_take]
      omega
  rw [hsplit k, hsplit l, hbefore, hafter, hwindow]

/-! ## Strings with their checksum -/

/-- A byte string with its checksum after it. -/
def codeword (p : List UInt8) : List UInt8 := p ++ leBytes 4 (crc32 p).toNat

@[simp] theorem length_codeword (p : List UInt8) : (codeword p).length = p.length + 4 := by
  rw [codeword, List.length_append, length_leBytes]

/-- All strings with their checksum leave the same register. -/
theorem crcReads_codeword (p : List UInt8) :
    crcReads (BitVec.allOnes 32) (bitsOf (codeword p)) = crcBits 32 (BitVec.allOnes 32) := by
  -- the checksum and the register cancel out
  rw [codeword, bitsOf_append, crcReads_append, bitsOf_leBytes,
    crcReads_eq (by rw [length_lowBits]), length_lowBits, bitsNat_lowBits,
    Nat.mod_eq_of_lt (crc32 p).isLt, BitVec.ofNat_toNat, BitVec.setWidth_eq, crc32,
    foldl_crcByte_eq, ← BitVec.xor_assoc, BitVec.xor_self, BitVec.zero_xor]

/-- **CRC-32 detects bursts**: two strings with their checksum, of one length, that
differ in 32 consecutive bits at most are the same. -/
theorem codeword_eq_of_burst {p q : List UInt8} {s : Nat} (hlen : p.length = q.length)
    (hburst : ∀ i, (bitsOf (codeword p))[i]? ≠ (bitsOf (codeword q))[i]? →
      s ≤ i ∧ i < s + 32) : codeword p = codeword q := by
  have hregister : crcReads (BitVec.allOnes 32) (bitsOf (codeword p)) =
      crcReads (BitVec.allOnes 32) (bitsOf (codeword q)) := by
    rw [crcReads_codeword, crcReads_codeword]
  refine bitsOf_injective (eq_of_burst ?_ hburst hregister)
  rw [length_bitsOf, length_bitsOf, length_codeword, length_codeword, hlen]

end SensorNet
