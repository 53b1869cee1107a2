import Mathlib.Algebra.Order.Group.Nat
import Mathlib.Tactic.Ring

/-!
# Little-endian numbers

- `leBytes k n`: the low `k` bytes of `n`, least significant first.
- `leNat bs`: the number a byte string denotes.

The two are inverse to each other on numbers below `256 ^ k` and on strings of
length `k`.
-/

namespace SensorNet

/-- The `k` low bytes of `n`, least significant first. -/
def leBytes : Nat → Nat → List UInt8
  | 0, _ => []
  | k + 1, n => UInt8.ofNat n :: leBytes k (n / 256)

/-- The number that a byte string, least significant byte first, denotes. -/
def leNat : List UInt8 → Nat
  | [] => 0
  | b :: bs => b.toNat + 256 * leNat bs

@[simp] theorem length_leBytes (k n : Nat) : (leBytes k n).length = k := by
  induction k generalizing n with
  | zero => rfl
  | succ k ih => rw [leBytes, List.length_cons, ih]

/-- Reading back what was written keeps the low bytes. -/
theorem leNat_leBytes (k n : Nat) : leNat (leBytes k n) = n % 256 ^ k := by
  induction k generalizing n with
  | zero =>
    rw [leBytes, leNat, pow_zero, Nat.mod_one]
  | succ k ih =>
    rw [leBytes, leNat, ih, pow_succ', Nat.mod_mul]
    have hb : (UInt8.ofNat n).toNat = n % 256 := by
      rw [UInt8.toNat_ofNat']
    rw [hb]

theorem leNat_leBytes_of_lt {k n : Nat} (h : n < 256 ^ k) :
    leNat (leBytes k n) = n := by
  rw [leNat_leBytes, Nat.mod_eq_of_lt h]

/-- Every byte string is the little-endian form of the number it denotes. -/
theorem leBytes_leNat (bs : List UInt8) : leBytes bs.length (leNat bs) = bs := by
  induction bs with
  | nil => rfl
  | cons b bs ih =>
    have hlt : b.toNat < 256 := b.toNat_lt
    have hlow : UInt8.ofNat (b.toNat + 256 * leNat bs) = b := by
      refine UInt8.toNat_inj.mp ?_
      rw [UInt8.toNat_ofNat']
      omega
    have hhigh : (b.toNat + 256 * leNat bs) / 256 = leNat bs := by
      omega
    rw [List.length_cons, leNat, leBytes, hlow, hhigh, ih]

/-- Two numbers are written alike iff their low bytes are the same. -/
theorem leBytes_eq_iff (k n m : Nat) :
    leBytes k n = leBytes k m ↔ n % 256 ^ k = m % 256 ^ k := by
  constructor
  · intro h
    rw [← leNat_leBytes, h, leNat_leBytes]
  · intro h
    have hn := leBytes_leNat (leBytes k n)
    have hm := leBytes_leNat (leBytes k m)
    rw [length_leBytes, leNat_leBytes] at hn hm
    rw [← hn, h, hm]

theorem leNat_lt (bs : List UInt8) : leNat bs < 256 ^ bs.length := by
  induction bs with
  | nil => exact Nat.one_pos
  | cons b bs ih =>
    have hlt : b.toNat < 256 := b.toNat_lt
    rw [leNat, List.length_cons, pow_succ]
    omega

/-- A string of `k` bytes denotes `n` iff it is the little-endian form of `n`. -/
theorem leNat_eq_iff {bs : List UInt8} {n : Nat} (h : n < 256 ^ bs.length) :
    leNat bs = n ↔ bs = leBytes bs.length n := by
  constructor
  · rintro rfl
    rw [leBytes_leNat]
  · intro hbs
    rw [hbs, leNat_leBytes_of_lt h]

end SensorNet
