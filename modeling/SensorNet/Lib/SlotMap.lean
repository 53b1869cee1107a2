import SensorNet.Lib.Slots
import Mathlib.Data.Set.Card
import Mathlib.SetTheory.Cardinal.NatCard

/-!
# Finite maps of fixed capacity

`SlotMap n κ α` is what a table of `n` records with a search by key is for: a
partial map from keys to values that also says in which of the `n` slots a key's
value is kept, different keys in different slots.

A table `t : Fin n → α` whose records are used or not, and have a key, represents
the map of its used records (`Represents`). Scans of the table are questions to
the map (`Represents.lookup`, `Represents.countSlots`), and writing one record is
`SlotMap.put` (`Represents.put`).
-/

namespace SensorNet

universe u v

variable {n : Nat} {κ : Type u} {α : Type v}

/-- A partial map of at most `n` keys, each with a slot of its own. -/
structure SlotMap (n : Nat) (κ : Type u) (α : Type v) where
  entry : κ → Option (Fin n × α)
  slot_inj : ∀ {k k' i a a'}, entry k = some (i, a) → entry k' = some (i, a') → k = k'

namespace SlotMap

/-- The map without keys. -/
def empty : SlotMap n κ α := ⟨fun _ => none, fun h => nomatch h⟩

/-- The keys that have a value. -/
def keys (m : SlotMap n κ α) : Set κ := {k | (m.entry k).isSome}

/-- The slot of a key. -/
def index (m : SlotMap n κ α) (k : κ) : Option (Fin n) := (m.entry k).map Prod.fst

/-- No key has the slot. -/
def Free (m : SlotMap n κ α) (i : Fin n) : Prop := ∀ k a, m.entry k ≠ some (i, a)

/-- The slots of the keys. -/
def taken (m : SlotMap n κ α) : Set (Fin n) := {i | ∃ k a, m.entry k = some (i, a)}

theorem mem_keys {m : SlotMap n κ α} {k : κ} :
    k ∈ m.keys ↔ ∃ i a, m.entry k = some (i, a) := by
  show (m.entry k).isSome = true ↔ _
  rw [Option.isSome_iff_exists, Prod.exists]

theorem not_mem_keys {m : SlotMap n κ α} {k : κ} : k ∉ m.keys ↔ m.entry k = none := by
  show ¬ (m.entry k).isSome = true ↔ _
  rw [Bool.not_eq_true, Option.isSome_eq_false_iff, Option.isNone_iff_eq_none]

theorem not_mem_taken {m : SlotMap n κ α} {i : Fin n} : i ∉ m.taken ↔ m.Free i :=
  ⟨fun h k a hk => h ⟨k, a, hk⟩, fun h ⟨k, a, hk⟩ => h k a hk⟩

theorem index_eq_some {m : SlotMap n κ α} {k : κ} {i : Fin n} :
    m.index k = some i ↔ ∃ a, m.entry k = some (i, a) := by
  unfold index
  rw [Option.map_eq_some_iff, Prod.exists]
  constructor
  · rintro ⟨j, a, h, rfl⟩
    exact ⟨a, h⟩
  · rintro ⟨a, h⟩
    exact ⟨i, a, h, rfl⟩

/-- Keys and taken slots are in bijection. -/
theorem ncard_keys (m : SlotMap n κ α) : m.keys.ncard = m.taken.ncard := by
  refine Set.ncard_congr (fun k hk => ((m.entry k).get hk).1) ?_ ?_ ?_
  · intro k hk
    exact ⟨k, ((m.entry k).get hk).2, (Option.some_get hk).symm⟩
  · intro k k' hk hk' heq
    obtain ⟨i, a, ha⟩ := mem_keys.mp hk
    obtain ⟨j, b, hb⟩ := mem_keys.mp hk'
    simp only [ha, hb, Option.get_some] at heq
    subst heq
    exact m.slot_inj ha hb
  · rintro i ⟨k, a, hk⟩
    have hsome : (m.entry k).isSome := by rw [hk]; rfl
    refine ⟨k, hsome, ?_⟩
    simp only [hk, Option.get_some]

/-- **The capacity**: there are `n` keys iff no slot is free. -/
theorem ncard_keys_eq_iff (m : SlotMap n κ α) : m.keys.ncard = n ↔ ∀ i, ¬ m.Free i := by
  rw [m.ncard_keys]
  have huniv : m.taken.ncard = n ↔ m.taken = Set.univ := by
    constructor
    · intro h
      refine Set.eq_of_subset_of_ncard_le (Set.subset_univ _) ?_
      rw [h, Set.ncard_univ, Nat.card_fin]
    · intro h
      rw [h, Set.ncard_univ, Nat.card_fin]
  rw [huniv, Set.eq_univ_iff_forall]
  refine forall_congr' fun i => ?_
  rw [← not_mem_taken, not_not]

variable [DecidableEq κ]

/-- Give the key `k` the value `a` in slot `i`, which no other key has. -/
def put (m : SlotMap n κ α) (k : κ) (i : Fin n) (a : α)
    (h : ∀ k' a', m.entry k' = some (i, a') → k' = k) : SlotMap n κ α where
  entry := Function.update m.entry k (some (i, a))
  slot_inj := by
    intro k₁ k₂ j a₁ a₂ h₁ h₂
    rw [Function.update_apply] at h₁ h₂
    by_cases hk₁ : k₁ = k
    · by_cases hk₂ : k₂ = k
      · rw [hk₁, hk₂]
      · rw [if_pos hk₁] at h₁
        rw [if_neg hk₂] at h₂
        cases h₁
        exact absurd (h k₂ a₂ h₂) hk₂
    · by_cases hk₂ : k₂ = k
      · rw [if_neg hk₁] at h₁
        rw [if_pos hk₂] at h₂
        cases h₂
        exact absurd (h k₁ a₁ h₁) hk₁
      · rw [if_neg hk₁] at h₁
        rw [if_neg hk₂] at h₂
        exact m.slot_inj h₁ h₂

theorem entry_put (m : SlotMap n κ α) (k : κ) (i : Fin n) (a : α)
    (h : ∀ k' a', m.entry k' = some (i, a') → k' = k) :
    (m.put k i a h).entry = Function.update m.entry k (some (i, a)) := rfl

/-- Writing one entry adds its key, -/
theorem keys_of_update {m m' : SlotMap n κ α} {k : κ} {e : Fin n × α}
    (h : m'.entry = Function.update m.entry k (some e)) : m'.keys = insert k m.keys := by
  ext k'
  rw [Set.mem_insert_iff, mem_keys, h, Function.update_apply]
  by_cases hk : k' = k
  · subst hk
    rw [if_pos rfl]
    exact iff_of_true ⟨e.1, e.2, rfl⟩ (.inl rfl)
  · simp only [hk, if_false, false_or, mem_keys]

/-- and leaves the other keys their slots. -/
theorem index_of_update {m m' : SlotMap n κ α} {k k' : κ} {e : Fin n × α}
    (h : m'.entry = Function.update m.entry k (some e)) :
    m'.index k' = if k' = k then some e.1 else m.index k' := by
  unfold index
  rw [h, Function.update_apply]
  split <;> rfl

/-- Editing the value of a key changes neither the keys -/
theorem keys_of_edit {m m' : SlotMap n κ α} {k : κ} {i : Fin n} {a b : α}
    (hk : m.entry k = some (i, a)) (h : m'.entry = Function.update m.entry k (some (i, b))) :
    m'.keys = m.keys := by
  rw [keys_of_update h, Set.insert_eq_of_mem (mem_keys.mpr ⟨i, a, hk⟩)]

/-- nor their slots. -/
theorem index_of_edit {m m' : SlotMap n κ α} {k : κ} {i : Fin n} {a b : α}
    (hk : m.entry k = some (i, a)) (h : m'.entry = Function.update m.entry k (some (i, b)))
    (k' : κ) : m'.index k' = m.index k' := by
  rw [index_of_update h]
  split
  next heq => rw [heq, index, hk, Option.map_some]
  next => rfl

end SlotMap

/-! ## Tables -/

variable (used : α → Bool) (key : α → κ)

/-- The table holds the map: its used records are the map's values, each under its key
and in its slot. -/
def Represents (t : Fin n → α) (m : SlotMap n κ α) : Prop :=
  ∀ k i a, m.entry k = some (i, a) ↔ used (t i) = true ∧ key (t i) = k ∧ t i = a

variable {used key} {t : Fin n → α} {m : SlotMap n κ α}

namespace Represents

theorem of_unused (h : ∀ i, used (t i) = false) :
    Represents used key t SlotMap.empty := by
  intro k i a
  rw [h i]
  exact iff_of_false (Option.some_ne_none _).symm fun h => Bool.false_ne_true h.1

variable (h : Represents used key t m)
include h

theorem entry_key {i : Fin n} (hi : used (t i) = true) :
    m.entry (key (t i)) = some (i, t i) := (h _ _ _).mpr ⟨hi, rfl, rfl⟩

/-- At most one used record has a given key. -/
theorem unique {i j : Fin n} (hi : used (t i) = true) (hj : used (t j) = true)
    (hkey : key (t i) = key (t j)) : i = j := by
  have hij := h.entry_key hi
  rw [hkey, h.entry_key hj] at hij
  exact (congrArg Prod.fst (Option.some.inj hij)).symm

theorem free_iff {i : Fin n} : m.Free i ↔ used (t i) = false := by
  constructor
  · intro hfree
    by_contra hused
    exact hfree _ _ (h.entry_key (Bool.eq_true_of_not_eq_false hused))
  · intro hunused k a hentry
    rw [((h k i a).mp hentry).1] at hunused
    cases hunused

/-- The loop that counts used records counts the keys. -/
theorem countSlots : countSlots used t = m.keys.ncard := by
  rw [m.ncard_keys, SensorNet.countSlots, ← Set.ncard_coe_finset]
  congr 1
  ext i
  rw [← not_iff_not, SlotMap.not_mem_taken, h.free_iff]
  simp

variable [DecidableEq κ]

/-- The search for a key finds its slot. -/
theorem lookup (k : κ) : firstSlot (fun a => used a && key a == k) t = m.index k := by
  cases hindex : m.index k with
  | none =>
    refine firstSlot_eq_none_iff.mpr fun i => ?_
    by_contra hfound
    rw [Bool.not_eq_false, Bool.and_eq_true, beq_iff_eq] at hfound
    have hentry := h.entry_key hfound.1
    rw [hfound.2] at hentry
    rw [SlotMap.index, hentry] at hindex
    cases hindex
  | some i =>
    obtain ⟨a, ha⟩ := SlotMap.index_eq_some.mp hindex
    obtain ⟨hused, hkey, -⟩ := (h k i a).mp ha
    refine firstSlot_eq_of_unique ?_ fun j hj => ?_
    · rw [hused, hkey, beq_self_eq_true, Bool.and_self]
    · rw [Bool.and_eq_true, beq_iff_eq] at hj
      exact h.unique hj.1 hused (hj.2.trans hkey.symm)

/-- **Writing one record**: where no other record has the key `k`, writing a used
record with this key is `put`. -/
theorem put {k : κ} {i : Fin n} {a : α} (hused : used a = true) (hkey : key a = k)
    (hslot : ∀ k' a', m.entry k' = some (i, a') → k' = k)
    (hother : ∀ j a', m.entry k = some (j, a') → j = i) :
    Represents used key (Function.update t i a) (m.put k i a hslot) := by
  intro k' j b
  rw [SlotMap.entry_put, Function.update_apply]
  by_cases hj : j = i
  · subst hj
    rw [Function.update_self]
    by_cases hk : k' = k
    · subst hk
      rw [if_pos rfl]
      constructor
      · rintro hsome
        cases hsome
        exact ⟨hused, hkey, rfl⟩
      · rintro ⟨-, -, rfl⟩
        rfl
    · rw [if_neg hk]
      refine iff_of_false (fun hentry => hk (hslot _ _ hentry)) ?_
      rintro ⟨-, hk', -⟩
      exact hk (hk'.symm.trans hkey)
  · -- the other slots hold what they held, and none of them the key
    rw [Function.update_of_ne hj]
    by_cases hk : k' = k
    · subst hk
      rw [if_pos rfl]
      refine iff_of_false (fun hsome => ?_) fun hentry => ?_
      · cases hsome
        exact hj rfl
      · exact hj (hother _ _ ((h _ _ _).mpr hentry))
    · rw [if_neg hk]
      exact h k' j b

/-- Writing the record of a key that the map has. -/
theorem edit {k : κ} {i : Fin n} {a b : α} (hk : m.entry k = some (i, a))
    (hused : used b = true) (hkey : key b = k) :
    ∃ m' : SlotMap n κ α, m'.entry = Function.update m.entry k (some (i, b)) ∧
      Represents used key (Function.update t i b) m' := by
  refine ⟨_, rfl, h.put hused hkey (fun k' a' h' => m.slot_inj h' hk) fun j a' h' => ?_⟩
  rw [hk] at h'
  exact (congrArg Prod.fst (Option.some.inj h')).symm

/-- Writing the record of a new key to an unused slot. -/
theorem insert {k : κ} {i : Fin n} {b : α} (hk : m.entry k = none)
    (hi : used (t i) = false) (hused : used b = true) (hkey : key b = k) :
    ∃ m' : SlotMap n κ α, m'.entry = Function.update m.entry k (some (i, b)) ∧
      Represents used key (Function.update t i b) m' := by
  have hfree := h.free_iff.mpr hi
  refine ⟨_, rfl, h.put hused hkey (fun k' a' h' => absurd h' (hfree k' a')) fun j a' h' => ?_⟩
  rw [hk] at h'
  cases h'

end Represents

end SensorNet
