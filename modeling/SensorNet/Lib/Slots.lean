import Mathlib.Data.Fintype.Card
import Mathlib.Data.Fintype.Basic
import Mathlib.Data.Fin.Tuple.Basic
import Mathlib.Tactic.Cases

/-!
# Fixed tables of slots

Firmware keeps its records in arrays of fixed size, finds a slot by scanning
from index 0 and counts slots by a second loop. A table is a function on
`Fin n`; writing a slot is `Function.update`.

- `firstSlot p t`: the scan `for (i = 0; i < n; i++) if (p(t[i])) break;`.
- `countSlots p t`: the loop `for (i = 0; i < n; i++) if (p(t[i])) count++;`.
-/

namespace SensorNet

universe u v

variable {n : Nat} {α : Type u} {β : Type v} {p : α → Bool} {t : Fin n → α}

/-- Index of the first slot satisfying `p`, `none` if no slot does. -/
def firstSlot (p : α → Bool) (t : Fin n → α) : Option (Fin n) :=
  Fin.find? fun i => p (t i)

theorem firstSlot_eq_some_iff {i : Fin n} :
    firstSlot p t = some i ↔ p (t i) = true ∧ ∀ j < i, p (t j) = false :=
  Fin.find?_eq_some_iff

theorem firstSlot_eq_none_iff :
    firstSlot p t = none ↔ ∀ i, p (t i) = false :=
  Fin.find?_eq_none_iff

theorem firstSlot_spec {i : Fin n} (h : firstSlot p t = some i) : p (t i) = true :=
  (firstSlot_eq_some_iff.mp h).1

/-- A scan only looks at what `p` says of each slot. -/
theorem firstSlot_congr {q : β → Bool} {u : Fin n → β} (h : ∀ i, p (t i) = q (u i)) :
    firstSlot p t = firstSlot q u :=
  congrArg Fin.find? (funext h)

/-- A scan for a slot that exists finds one. -/
theorem exists_firstSlot {i : Fin n} (h : p (t i) = true) :
    ∃ j, firstSlot p t = some j := by
  cases hf : firstSlot p t with
  | none => exact absurd h (by simp [firstSlot_eq_none_iff.mp hf i])
  | some j => exact ⟨j, rfl⟩

/-- Where at most one slot satisfies `p`, the scan finds that slot. -/
theorem firstSlot_eq_of_unique {i : Fin n} (h : p (t i) = true)
    (huniq : ∀ j, p (t j) = true → j = i) : firstSlot p t = some i := by
  obtain ⟨j, hj⟩ := exists_firstSlot h
  rw [hj, huniq j (firstSlot_spec hj)]

/-- A slot written behind slots that do not satisfy `p` is the one that the scan finds. -/
theorem firstSlot_update {i : Fin n} {a : α} (ha : p a = true)
    (hlt : ∀ j < i, p (t j) = false) : firstSlot p (Function.update t i a) = some i := by
  refine firstSlot_eq_some_iff.mpr ⟨by rw [Function.update_self, ha], fun j hj => ?_⟩
  rw [Function.update_of_ne hj.ne]
  exact hlt j hj

/-- Number of slots satisfying `p`. -/
def countSlots (p : α → Bool) (t : Fin n → α) : Nat :=
  (Finset.univ.filter fun i => p (t i) = true).card

/-- There are no more slots than the table has. -/
theorem countSlots_le : countSlots p t ≤ n :=
  (Finset.card_le_univ _).trans_eq (Fintype.card_fin n)

theorem countSlots_eq_zero_iff : countSlots p t = 0 ↔ ∀ i, p (t i) = false := by
  simp [countSlots, Finset.filter_eq_empty_iff]

/-- A count only looks at what `p` says of each slot. -/
theorem countSlots_congr {q : β → Bool} {u : Fin n → β} (h : ∀ i, p (t i) = q (u i)) :
    countSlots p t = countSlots q u := by
  simp only [countSlots, h]

/-- One slot more satisfies `q` than `p`. -/
theorem countSlots_eq_succ {q : β → Bool} {u : Fin n → β} {i : Fin n} (hp : p (t i) = false)
    (hq : q (u i) = true) (h : ∀ j, j ≠ i → p (t j) = q (u j)) :
    countSlots q u = countSlots p t + 1 := by
  have hset : (Finset.univ.filter fun j => q (u j) = true) =
      insert i (Finset.univ.filter fun j => p (t j) = true) := by
    ext j
    by_cases hj : j = i
    · subst hj
      simp [hq]
    · simp [hj, h j hj]
  unfold countSlots
  rw [hset, Finset.card_insert_of_notMem (by simp [hp])]

/-- The slots that satisfy `p` are those that satisfy `q` and those that satisfy `r`. -/
theorem countSlots_eq_add {q r : β → Bool} {u : Fin n → β}
    (h : ∀ i, p (t i) = true ↔ q (u i) = true ∨ r (u i) = true)
    (hdisjoint : ∀ i, q (u i) = true → r (u i) ≠ true) :
    countSlots p t = countSlots q u + countSlots r u := by
  unfold countSlots
  rw [← Finset.card_union_of_disjoint]
  · congr 1
    ext i
    simp [h]
  · rw [Finset.disjoint_filter]
    exact fun i _ => hdisjoint i

/-- All slots satisfy `p` iff the count is the size of the table. -/
theorem countSlots_eq_size_iff : countSlots p t = n ↔ ∀ i, p (t i) = true := by
  have h := Finset.card_filter_eq_iff (s := Finset.univ (α := Fin n))
    (p := fun i => p (t i) = true)
  simpa [countSlots] using h

/-- Of two conditions, one weaker than the other, the loops count the same iff all slots
that satisfy the weaker one satisfy both. -/
theorem countSlots_eq_iff {q : α → Bool} (hpq : ∀ i, p (t i) = true → q (t i) = true) :
    countSlots p t = countSlots q t ↔ ∀ i, q (t i) = true → p (t i) = true := by
  have hsub : (Finset.univ.filter fun i => p (t i) = true) ⊆
      Finset.univ.filter fun i => q (t i) = true :=
    Finset.monotone_filter_right _ fun i _ => hpq i
  constructor
  · intro h i hi
    have heq := Finset.eq_of_subset_of_card_le hsub h.ge
    have hmem : i ∈ Finset.univ.filter fun i => p (t i) = true := by
      rw [heq]
      simpa using hi
    simpa using hmem
  · intro h
    refine congrArg Finset.card (Finset.Subset.antisymm hsub ?_)
    exact Finset.monotone_filter_right _ fun i _ => h i

/-- A list that names each slot satisfying `p` exactly once counts them. -/
theorem countSlots_eq_length (name : α → Option β) {l : List β} (hl : l.Nodup)
    (hname : ∀ i, p (t i) = true → ∃ b ∈ l, name (t i) = some b)
    (hinj : ∀ i j, p (t i) = true → p (t j) = true →
      name (t i) = name (t j) → i = j)
    (hsurj : ∀ b ∈ l, ∃ i, p (t i) = true ∧ name (t i) = some b) :
    countSlots p t = l.length := by
  classical
  -- the names of the slots that count are the names on the list, each once
  have himg : (Finset.univ.filter fun i => p (t i) = true).image
      (fun i => name (t i)) = l.toFinset.image some := by
    ext o
    simp only [Finset.mem_image, Finset.mem_filter, Finset.mem_univ, true_and,
      List.mem_toFinset]
    constructor
    · rintro ⟨i, hi, rfl⟩
      obtain ⟨b, hb, hib⟩ := hname i hi
      exact ⟨b, hb, hib.symm⟩
    · rintro ⟨b, hb, rfl⟩
      exact hsurj b hb
  have hcard := congrArg Finset.card himg
  rw [Finset.card_image_of_injOn, Finset.card_image_of_injective _
    (Option.some_injective β), List.toFinset_card_of_nodup hl] at hcard
  · exact hcard
  · intro i hi j hj hij
    exact hinj i j (by simpa using hi) (by simpa using hj) hij

end SensorNet
