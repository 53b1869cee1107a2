import SensorNet.Lib.Slots
import Mathlib.Data.Finmap

/-!
# Services that keep an entry for each key

A service of some capacity keeps an entry for each of its clients, by key. An operation
of a client finds the client's entry, or a fresh one while there is room, and what it gives
and leaves is a function of that entry (`effect`).

- `KeyedService.step`, `KeyedService.observe`: one operation, and what a list of them gives.
- `observe_isolated`: as long as there is room for all clients, what a client observes is what
  it would observe alone.
- `Holds`: a table of slots, each with a key or without, holds the entries. `Holds.slot`,
  `Holds.insert` and `Holds.erase` say what it takes for a program on such a table to be
  the service.
-/

namespace SensorNet

universe u v w x

/-- What a service is given by: its capacity, the entry of a new client, whose an operation is,
what it gives and leaves there (`none`: the entry is given up), and what it gives when there is
no room. -/
structure KeyedService (κ : Type u) (α : Type v) (ω : Type w) (β : Type x) where
  capacity : Nat
  fresh : α
  about : ω → κ
  effect : ω → α → β × Option α
  refused : ω → β

namespace KeyedService

variable {κ : Type u} {α : Type v} {ω : Type w} {β : Type x} [DecidableEq κ]
  (S : KeyedService κ α ω β)

/-- The entry of a key, or a fresh one while there is room -/
def entry (m : Finmap fun _ : κ => α) (k : κ) : Option α :=
  (m.lookup k).or (if m.keys.card < S.capacity then some S.fresh else none)

/-- The entries once that of a key is left so -/
def leave (m : Finmap fun _ : κ => α) (k : κ) : Option α → Finmap fun _ : κ => α
  | some a => m.insert k a
  | none => m.erase k

/-- One operation: what it gives, and the entries after it -/
def step (m : Finmap fun _ : κ => α) (op : ω) : β × Finmap fun _ : κ => α :=
  match S.entry m (S.about op) with
  | none => (S.refused op, m)
  | some a => ((S.effect op a).1, leave m (S.about op) (S.effect op a).2)

/-- What the operations give, each with its client -/
def observe (m : Finmap fun _ : κ => α) : List ω → List (κ × β)
  | [] => []
  | op :: ops => (S.about op, (S.step m op).1) :: observe (S.step m op).2 ops

variable {S} {m m' : Finmap fun _ : κ => α} {op : ω} {ops : List ω} {k : κ} {keys : Finset κ}

/-! ## One operation -/

theorem lookup_leave_self (m : Finmap fun _ : κ => α) (k : κ) (a : Option α) :
    (leave m k a).lookup k = a := by
  cases a with
  | none => exact Finmap.lookup_erase k m
  | some a => exact Finmap.lookup_insert m

theorem lookup_leave_of_ne {k' : κ} (h : k' ≠ k) (a : Option α) :
    (leave m k a).lookup k' = m.lookup k' := by
  cases a with
  | none => exact Finmap.lookup_erase_ne h
  | some a => exact Finmap.lookup_insert_of_ne m h

/-- An operation leaves the entries of the other clients. -/
theorem lookup_step_of_ne (h : k ≠ S.about op) : (S.step m op).2.lookup k = m.lookup k := by
  unfold step
  cases S.entry m (S.about op) with
  | none => rfl
  | some a => exact lookup_leave_of_ne h _

/-- It adds no key but that of its client. -/
theorem keys_step_subset (hm : m.keys ⊆ keys) (hop : S.about op ∈ keys) :
    (S.step m op).2.keys ⊆ keys := by
  intro k hk
  by_cases hkop : k = S.about op
  · rw [hkop]
    exact hop
  · refine hm ?_
    rw [Finmap.mem_keys, ← Finmap.lookup_isSome] at hk ⊢
    rwa [lookup_step_of_ne hkop] at hk

/-- A client has an entry where there is room for all. -/
theorem entry_of_subset (hm : m.keys ⊆ keys) (hk : k ∈ keys) (hcard : keys.card ≤ S.capacity) :
    S.entry m k = some ((m.lookup k).getD S.fresh) := by
  unfold entry
  cases hlookup : m.lookup k with
  | some a => rfl
  | none =>
    have hnot : k ∉ m.keys := by
      rw [Finmap.mem_keys]
      exact Finmap.lookup_eq_none.mp hlookup
    have hlt : m.keys.card < keys.card :=
      Finset.card_lt_card ⟨hm, fun hsub => hnot (hsub hk)⟩
    rw [if_pos (Nat.lt_of_lt_of_le hlt hcard)]
    rfl

/-- Services that agree on the entry of a client give it the same, and agree on it again. -/
theorem step_congr (hentry : S.entry m (S.about op) = S.entry m' (S.about op))
    (hsome : (S.entry m (S.about op)).isSome) :
    (S.step m op).1 = (S.step m' op).1 ∧
      (S.step m op).2.lookup (S.about op) = (S.step m' op).2.lookup (S.about op) := by
  obtain ⟨a, ha⟩ := Option.isSome_iff_exists.mp hsome
  unfold step
  rw [← hentry, ha]
  exact ⟨rfl, by rw [lookup_leave_self, lookup_leave_self]⟩

/-! ## Clients do not notice each other -/

/-- Two services with room for all clients, which agree on the entry of one client: what that
one observes among the others is what it observes alone. -/
theorem observe_filter (hcard : keys.card ≤ S.capacity) (hm : m.keys ⊆ keys)
    (hm' : m'.keys ⊆ keys) (hops : ∀ op ∈ ops, S.about op ∈ keys)
    (hlookup : m.lookup k = m'.lookup k) :
    (S.observe m ops).filter (fun o => o.1 = k) =
      S.observe m' (ops.filter fun op => S.about op = k) := by
  induction ops generalizing m m' with
  | nil => rfl
  | cons op ops ih =>
    have hop : S.about op ∈ keys := hops op List.mem_cons_self
    have hrest : ∀ op ∈ ops, S.about op ∈ keys := fun op h => hops op (List.mem_cons_of_mem _ h)
    by_cases hk : S.about op = k
    · -- an operation of the client: both find the same entry
      have hentry : S.entry m (S.about op) = S.entry m' (S.about op) := by
        rw [entry_of_subset hm hop hcard, entry_of_subset hm' hop hcard, hk, hlookup]
      obtain ⟨hgives, hleaves⟩ :=
        step_congr hentry (by rw [entry_of_subset hm hop hcard]; rfl)
      rw [hk] at hleaves
      rw [List.filter_cons_of_pos (by simpa using hk), observe,
        List.filter_cons_of_pos (by simpa using hk), observe, hgives,
        ih (keys_step_subset hm hop) (keys_step_subset hm' hop) hrest hleaves]
    · -- an operation of another one: it does not touch the entry
      rw [List.filter_cons_of_neg (by simpa using hk), observe,
        List.filter_cons_of_neg (by simpa using hk)]
      exact ih (keys_step_subset hm hop) hm' hrest
        ((lookup_step_of_ne fun heq => hk heq.symm).trans hlookup)

/-- **Isolation**: while there is room for all clients, each observes what it would alone. -/
theorem observe_isolated (hcard : (ops.map S.about).toFinset.card ≤ S.capacity) (k : κ) :
    (S.observe ∅ ops).filter (fun o => o.1 = k) =
      S.observe ∅ (ops.filter fun op => S.about op = k) := by
  refine observe_filter hcard (by simp) (by simp) (fun op hop => ?_) rfl
  rw [List.mem_toFinset]
  exact List.mem_map_of_mem hop

end KeyedService

/-! ## Tables of slots -/

namespace KeyedService

variable {n : Nat} {κ : Type u} {α : Type v} {ρ : Type w}

/-- The table holds the entries:
1. no two slots have the same key;
2. the entries are what the slots with a key show;
3. a slot without a key shows a fresh one. -/
structure Holds (key : ρ → Option κ) (view : ρ → α) (fresh : α) (t : Fin n → ρ)
    (m : Finmap fun _ : κ => α) [DecidableEq κ] : Prop where
  unique : ∀ {i j k}, key (t i) = some k → key (t j) = some k → i = j
  lookup : ∀ {k a}, m.lookup k = some a ↔ ∃ i, key (t i) = some k ∧ view (t i) = a
  fresh : ∀ {i}, key (t i) = none → view (t i) = fresh

variable [DecidableEq κ]

/-- The slot of a key: the one that has it, or else the first one without a key -/
def slotFor (key : ρ → Option κ) (t : Fin n → ρ) (k : κ) : Option (Fin n) :=
  (firstSlot (fun r => key r == some k) t).or (firstSlot (fun r => (key r).isNone) t)

namespace Holds

variable {key : ρ → Option κ} {view : ρ → α} {fresh : α} {t t' : Fin n → ρ}
  {m : Finmap fun _ : κ => α} {i : Fin n} {k : κ}

/-- An empty table holds no entries. -/
theorem empty (hkey : ∀ i, key (t i) = none) (hview : ∀ i, view (t i) = fresh) :
    Holds key view fresh t ∅ where
  unique h := by
    rw [hkey] at h
    cases h
  lookup := by
    intro k a
    refine iff_of_false (by simp) ?_
    rintro ⟨i, h, -⟩
    rw [hkey] at h
    cases h
  fresh _ := hview _

variable (h : Holds key view fresh t m)
include h

theorem lookup_self (hi : key (t i) = some k) : m.lookup k = some (view (t i)) :=
  h.lookup.mpr ⟨i, hi, rfl⟩

theorem lookup_eq_none (hno : ∀ i, key (t i) ≠ some k) : m.lookup k = none := by
  rw [Option.eq_none_iff_forall_ne_some]
  intro a ha
  obtain ⟨i, hi, -⟩ := h.lookup.mp ha
  exact hno i hi

/-- The slots in use are as many as the keys. -/
theorem countSlots : countSlots (fun r => (key r).isSome) t = m.keys.card := by
  rw [← Finset.length_toList]
  refine countSlots_eq_length key (Finset.nodup_toList _) (fun i hi => ?_) (fun i j hi _ hij => ?_)
    fun k hk => ?_
  · obtain ⟨k, hk⟩ := Option.isSome_iff_exists.mp hi
    refine ⟨k, ?_, hk⟩
    rw [Finset.mem_toList, Finmap.mem_keys, Finmap.mem_iff]
    exact ⟨_, h.lookup_self hk⟩
  · obtain ⟨k, hk⟩ := Option.isSome_iff_exists.mp hi
    exact h.unique hk (hij ▸ hk)
  · rw [Finset.mem_toList, Finmap.mem_keys, Finmap.mem_iff] at hk
    obtain ⟨a, ha⟩ := hk
    obtain ⟨i, hi, -⟩ := h.lookup.mp ha
    exact ⟨i, by rw [hi]; rfl, hi⟩

/-- A slot is free iff there is room. -/
theorem room_iff : m.keys.card < n ↔ ∃ i, key (t i) = none := by
  have hsize := countSlots_eq_size_iff (p := fun r => (key r).isSome) (t := t)
  have hle : SensorNet.countSlots (fun r => (key r).isSome) t ≤ n := countSlots_le
  rw [h.countSlots] at hsize hle
  constructor
  · intro hlt
    by_contra hno
    refine hlt.ne (hsize.mpr fun i => ?_)
    rw [Option.isSome_iff_ne_none]
    exact fun hi => hno ⟨i, hi⟩
  · rintro ⟨i, hi⟩
    refine lt_of_le_of_ne hle fun heq => ?_
    have hsome := hsize.mp heq i
    rw [hi] at hsome
    cases hsome

/-- **The entry is in the slot**: the service finds an entry iff the table has a slot for the
key, and what it finds is what that slot shows. The slot has the key, or it is free and no slot
has the key. -/
theorem slot {ω : Type*} {β : Type*} {S : KeyedService κ α ω β} (hcapacity : S.capacity = n)
    (hfresh : S.fresh = fresh) :
    match slotFor key t k with
    | some i => S.entry m k = some (view (t i)) ∧
        (key (t i) = some k ∨ key (t i) = none ∧ ∀ j, key (t j) ≠ some k)
    | none => S.entry m k = none := by
  unfold slotFor entry
  cases hown : firstSlot (fun r => key r == some k) t with
  | some i =>
    have hi : key (t i) = some k := by simpa using firstSlot_spec hown
    rw [h.lookup_self hi]
    exact ⟨rfl, .inl hi⟩
  | none =>
    have hno : ∀ i, key (t i) ≠ some k := fun i => by
      simpa using firstSlot_eq_none_iff.mp hown i
    rw [h.lookup_eq_none hno, Option.none_or, Option.none_or, hcapacity, hfresh]
    cases hfree : firstSlot (fun r => (key r).isNone) t with
    | some i =>
      have hi : key (t i) = none := by simpa using firstSlot_spec hfree
      rw [if_pos (h.room_iff.mpr ⟨i, hi⟩)]
      exact ⟨by rw [h.fresh hi], .inr ⟨hi, hno⟩⟩
    | none =>
      -- every slot has a key, so the map is full
      rw [if_neg fun hroom => ?_]
      obtain ⟨i, hi⟩ := h.room_iff.mp hroom
      have hused := firstSlot_eq_none_iff.mp hfree i
      rw [hi] at hused
      cases hused

/-- The slot of a key is written. -/
theorem insert {a : α} (hslot : key (t i) = some k ∨ key (t i) = none ∧ ∀ j, key (t j) ≠ some k)
    (hother : ∀ j, j ≠ i → key (t' j) = key (t j) ∧ view (t' j) = view (t j))
    (hkey : key (t' i) = some k) (hview : view (t' i) = a) :
    Holds key view fresh t' (m.insert k a) := by
  -- no other slot has the key
  have honly : ∀ j, j ≠ i → key (t' j) ≠ some k := by
    intro j hj hjk
    rw [(hother j hj).1] at hjk
    rcases hslot with hi | ⟨-, hno⟩
    · exact hj (h.unique hjk hi)
    · exact hno j hjk
  refine ⟨?_, ?_, ?_⟩
  · intro j j' k' hj hj'
    by_cases hji : j = i
    · subst hji
      rw [hkey] at hj
      cases hj
      by_contra hne
      exact honly j' (fun heq => hne heq.symm) hj'
    · by_cases hji' : j' = i
      · subst hji'
        rw [hkey] at hj'
        cases hj'
        exact absurd hj (honly j hji)
      · rw [(hother j hji).1] at hj
        rw [(hother j' hji').1] at hj'
        exact h.unique hj hj'
  · intro k' b
    by_cases hk' : k' = k
    · subst hk'
      rw [Finmap.lookup_insert]
      constructor
      · intro hb
        cases hb
        exact ⟨i, hkey, hview⟩
      · rintro ⟨j, hj, rfl⟩
        by_cases hji : j = i
        · rw [hji, hview]
        · exact absurd hj (honly j hji)
    · rw [Finmap.lookup_insert_of_ne _ hk', h.lookup]
      constructor
      · rintro ⟨j, hj, rfl⟩
        have hji : j ≠ i := by
          rintro rfl
          rcases hslot with hi | ⟨hi, -⟩
          · exact hk' (Option.some.inj (hj.symm.trans hi))
          · rw [hi] at hj
            cases hj
        exact ⟨j, (hother j hji).1.trans hj, (hother j hji).2⟩
      · rintro ⟨j, hj, rfl⟩
        have hji : j ≠ i := by
          rintro rfl
          rw [hkey] at hj
          exact hk' (Option.some.inj hj).symm
        exact ⟨j, (hother j hji).1.symm.trans hj, (hother j hji).2.symm⟩
  · intro j hj
    have hji : j ≠ i := by
      rintro rfl
      rw [hkey] at hj
      cases hj
    rw [(hother j hji).2]
    exact h.fresh ((hother j hji).1.symm.trans hj)

/-- The slot of a key is given up. -/
theorem erase (hslot : key (t i) = some k ∨ key (t i) = none ∧ ∀ j, key (t j) ≠ some k)
    (hother : ∀ j, j ≠ i → key (t' j) = key (t j) ∧ view (t' j) = view (t j))
    (hkey : key (t' i) = none) (hview : view (t' i) = fresh) :
    Holds key view fresh t' (m.erase k) := by
  -- afterwards the keys are the others, each where it was
  have hkept : ∀ {j k'}, key (t' j) = some k' ↔ key (t j) = some k' ∧ k' ≠ k := by
    intro j k'
    by_cases hji : j = i
    · subst hji
      rw [hkey]
      refine iff_of_false nofun fun hc => ?_
      rcases hslot with hi | ⟨hi, -⟩
      · exact hc.2 (Option.some.inj (hc.1.symm.trans hi))
      · rw [hi] at hc
        cases hc.1
    · rw [(hother j hji).1, iff_self_and]
      rintro hj rfl
      rcases hslot with hi | ⟨-, hno⟩
      · exact hji (h.unique hj hi)
      · exact hno j hj
  refine ⟨fun hj hj' => h.unique (hkept.mp hj).1 (hkept.mp hj').1, ?_, ?_⟩
  · intro k' b
    by_cases hk' : k' = k
    · subst hk'
      rw [Finmap.lookup_erase]
      refine iff_of_false nofun ?_
      rintro ⟨j, hj, -⟩
      exact (hkept.mp hj).2 rfl
    · rw [Finmap.lookup_erase_ne hk', h.lookup]
      refine exists_congr fun j => ?_
      rw [hkept, and_iff_left hk']
      refine and_congr_right fun hj => ?_
      have hji : j ≠ i := by
        rintro rfl
        rcases hslot with hi | ⟨hi, -⟩
        · exact hk' (Option.some.inj (hj.symm.trans hi))
        · rw [hi] at hj
          cases hj
      rw [(hother j hji).2]
  · intro j hj
    by_cases hji : j = i
    · rw [hji]
      exact hview
    · rw [(hother j hji).2]
      exact h.fresh ((hother j hji).1.symm.trans hj)

end Holds

end KeyedService

end SensorNet
