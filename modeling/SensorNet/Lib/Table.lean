import Mathlib.Data.List.Nodup

/-!
# Tables with a primary key

A table is a list of rows, in the order in which they are listed, no two of which
have the same key.

- `Table.find`: the row with a key.
- `Table.put`: store a row, in the place of the row with its key or at the end.
- `Table.mem_put`, `Table.find_put_self`, `Table.find_put_of_ne`: what is stored
  after that.
- `Table.filter`: the rows for which a condition holds.
- `Table.keeps_put_iff`, `Table.adds_put_iff`: when storing a row leaves the rows that were
  there, and when it adds one.
- `Table.map_put_eq_iff`: when storing a row changes nothing of what a function sees.
-/

namespace SensorNet

universe u v

/-- Rows with a primary key. -/
structure Table {α : Type u} {κ : Type v} (key : α → κ) where
  rows : List α
  nodup : (rows.map key).Nodup

namespace Table

variable {α : Type u} {κ : Type v} {key : α → κ}

/-- A table without rows. -/
def empty : Table key := ⟨[], List.nodup_nil⟩

/-- Two rows with the same key are the same row. -/
theorem eq_of_key_eq (t : Table key) {r s : α} (hr : r ∈ t.rows) (hs : s ∈ t.rows)
    (h : key r = key s) : r = s :=
  List.inj_on_of_nodup_map t.nodup hr hs h

/-- The rows for which a condition holds -/
def filter (t : Table key) (p : α → Bool) : Table key :=
  ⟨t.rows.filter p, t.nodup.sublist (List.filter_sublist.map key)⟩

@[simp] theorem mem_filter {t : Table key} {p : α → Bool} {r : α} :
    r ∈ (t.filter p).rows ↔ r ∈ t.rows ∧ p r = true := List.mem_filter

/-- All rows of a table are in the other one. -/
def Keeps (t u : Table key) : Prop := ∀ r ∈ t.rows, r ∈ u.rows

theorem keeps_refl (t : Table key) : t.Keeps t := fun _ hr => hr

variable [DecidableEq κ]

/-- The row with the key. -/
def find (t : Table key) (k : κ) : Option α := t.rows.find? fun r => key r = k

theorem find_eq_some_iff {t : Table key} {k : κ} {r : α} :
    t.find k = some r ↔ r ∈ t.rows ∧ key r = k := by
  constructor
  · intro h
    exact ⟨List.mem_of_find?_eq_some h, by simpa using List.find?_some h⟩
  · rintro ⟨hr, rfl⟩
    have hsome : (t.find (key r)).isSome := by
      rw [find, List.find?_isSome]
      exact ⟨r, hr, by simp⟩
    obtain ⟨s, hs⟩ := Option.isSome_iff_exists.mp hsome
    have hkey : key s = key r := by simpa using List.find?_some hs
    rw [hs, t.eq_of_key_eq (List.mem_of_find?_eq_some hs) hr hkey]

theorem find_eq_none_iff {t : Table key} {k : κ} :
    t.find k = none ↔ ∀ r ∈ t.rows, key r ≠ k := by
  rw [find, List.find?_eq_none]
  simp

/-- The rows after a row is stored. -/
def putRows (t : Table key) (row : α) : List α :=
  if (t.find (key row)).isSome then
    t.rows.map fun r => if key r = key row then row else r
  else t.rows ++ [row]

theorem putRows_nodup (t : Table key) (row : α) : ((t.putRows row).map key).Nodup := by
  rw [putRows]
  split
  · -- the keys stay, in their places
    have hkeys : ∀ r, key (if key r = key row then row else r) = key r := by
      intro r
      split
      · next h => exact h.symm
      · rfl
    rw [List.map_map, show (key ∘ fun r => if key r = key row then row else r) = key from
      funext hkeys]
    exact t.nodup
  · next h =>
    have hnew := find_eq_none_iff.mp (Option.not_isSome_iff_eq_none.mp h)
    rw [List.map_append, List.map_singleton]
    refine List.Nodup.append t.nodup (List.nodup_singleton _) ?_
    rw [List.disjoint_singleton]
    intro hmem
    obtain ⟨r, hr, hkey⟩ := List.mem_map.mp hmem
    exact hnew r hr hkey

/-- Store a row, in the place of the row with its key or at the end. -/
def put (t : Table key) (row : α) : Table key := ⟨t.putRows row, t.putRows_nodup row⟩

/-- After a row is stored, that row and the rows with other keys are there. -/
theorem mem_put {t : Table key} {row r : α} :
    r ∈ (t.put row).rows ↔ r = row ∨ (r ∈ t.rows ∧ key r ≠ key row) := by
  show r ∈ t.putRows row ↔ _
  rw [putRows]
  split
  · next h =>
    -- the row takes the place of the one with its key
    obtain ⟨old, hold⟩ := Option.isSome_iff_exists.mp h
    obtain ⟨hmem, hkey⟩ := find_eq_some_iff.mp hold
    rw [List.mem_map]
    constructor
    · rintro ⟨s, hs, rfl⟩
      by_cases hk : key s = key row
      · rw [if_pos hk]
        exact .inl rfl
      · rw [if_neg hk]
        exact .inr ⟨hs, hk⟩
    · rintro (rfl | ⟨hr, hk⟩)
      · exact ⟨old, hmem, if_pos hkey⟩
      · exact ⟨r, hr, if_neg hk⟩
  · next h =>
    -- no row has its key: it comes last
    have hnew := find_eq_none_iff.mp (Option.not_isSome_iff_eq_none.mp h)
    rw [List.mem_append, List.mem_singleton]
    constructor
    · rintro (hr | rfl)
      · exact .inr ⟨hr, hnew r hr⟩
      · exact .inl rfl
    · rintro (rfl | ⟨hr, -⟩)
      · exact .inr rfl
      · exact .inl hr

/-- A row that is stored over another with the same key takes its place. -/
theorem mem_put_put {t : Table key} {row row' r : α} (h : key row' = key row) :
    r ∈ ((t.put row).put row').rows ↔ r = row' ∨ (r ∈ t.rows ∧ key r ≠ key row') := by
  rw [mem_put, mem_put, h]
  constructor
  · rintro (hr | ⟨rfl | ⟨hr, -⟩, hne⟩)
    · exact .inl hr
    · exact absurd rfl hne
    · exact .inr ⟨hr, hne⟩
  · rintro (hr | ⟨hr, hne⟩)
    · exact .inl hr
    · exact .inr ⟨.inr ⟨hr, hne⟩, hne⟩

@[simp] theorem find_put_self (t : Table key) (row : α) :
    (t.put row).find (key row) = some row :=
  find_eq_some_iff.mpr ⟨mem_put.mpr (.inl rfl), rfl⟩

theorem find_put_of_ne {t : Table key} {row : α} {k : κ} (h : k ≠ key row) :
    (t.put row).find k = t.find k := by
  refine Option.ext fun r => ?_
  rw [find_eq_some_iff, find_eq_some_iff, mem_put]
  constructor
  · rintro ⟨rfl | ⟨hr, -⟩, hk⟩
    · exact absurd hk.symm h
    · exact ⟨hr, hk⟩
  · rintro ⟨hr, rfl⟩
    exact ⟨.inr ⟨hr, h⟩, rfl⟩

theorem find_filter (t : Table key) (p : α → Bool) (k : κ) :
    (t.filter p).find k = (t.find k).filter p := by
  refine Option.ext fun r => ?_
  rw [Option.filter_eq_some_iff, find_eq_some_iff, find_eq_some_iff, mem_filter]
  tauto

/-- A row that is stored, if there is one, is found under its key. -/
theorem find_elim_put (t : Table key) (row : Option α) (k : κ) :
    (row.elim t t.put).find k = if row.any (fun r => key r = k) then row else t.find k := by
  cases row with
  | none => rfl
  | some r =>
    by_cases hk : key r = k
    · subst hk
      simp
    · simp [hk, find_put_of_ne (Ne.symm hk)]

/-- A table has the rows of the other one and one row more, with a key that was not there. -/
def Adds (t u : Table key) (row : α) : Prop :=
  t.find (key row) = none ∧ ∀ r, r ∈ u.rows ↔ r = row ∨ r ∈ t.rows

variable {t : Table key} {row row' r : α}

theorem Adds.keeps {u : Table key} (h : t.Adds u row) : t.Keeps u :=
  fun r hr => (h.2 r).mpr (.inr hr)

/-- Storing a row leaves the rows that were there iff none is replaced by another one. -/
theorem keeps_put_iff : t.Keeps (t.put row) ↔ ∀ old, t.find (key row) = some old → old = row := by
  constructor
  · intro h old hold
    obtain ⟨hmem, hkey⟩ := find_eq_some_iff.mp hold
    exact (mem_put.mp (h old hmem)).resolve_right fun hne => hne.2 hkey
  · intro h r hr
    by_cases hkey : key r = key row
    · exact mem_put.mpr (.inl (h r (find_eq_some_iff.mpr ⟨hr, hkey⟩)))
    · exact mem_put.mpr (.inr ⟨hr, hkey⟩)

/-- Storing a row adds a row iff its key is new, and then it adds that row. -/
theorem adds_put_iff : t.Adds (t.put row) r ↔ r = row ∧ t.find (key row) = none := by
  constructor
  · rintro ⟨hnew, hrows⟩
    have hr : r = row := by
      refine (mem_put.mp ((hrows r).mpr (.inl rfl))).resolve_right fun hold => ?_
      exact find_eq_none_iff.mp hnew r hold.1 rfl
    exact ⟨hr, hr ▸ hnew⟩
  · rintro ⟨rfl, hnew⟩
    refine ⟨hnew, fun s => ?_⟩
    rw [mem_put]
    refine or_congr_right ⟨And.left, fun hs => ⟨hs, ?_⟩⟩
    exact find_eq_none_iff.mp hnew s hs

/-- Storing a row over one that has just been stored is storing it at once. -/
theorem adds_put_put_iff (h : key row' = key row) :
    t.Adds ((t.put row).put row') r ↔ t.Adds (t.put row') r := by
  refine and_congr_right fun _ => forall_congr' fun s => ?_
  rw [mem_put_put h, mem_put]

theorem keeps_put_put_iff (h : key row' = key row) :
    t.Keeps ((t.put row).put row') ↔ t.Keeps (t.put row') := by
  refine forall_congr' fun s => imp_congr_right fun _ => ?_
  rw [mem_put_put h, mem_put]

/-! ### The list after a row is stored -/

/-- A row whose key is there takes the place of the row with it. -/
theorem rows_put_of_some {old : α} (h : t.find (key row) = some old) :
    (t.put row).rows = t.rows.map fun r => if key r = key row then row else r := by
  show t.putRows row = _
  rw [putRows, h, Option.isSome_some, if_pos rfl]

/-- A row whose key is new comes last. -/
theorem rows_put_of_none (h : t.find (key row) = none) :
    (t.put row).rows = t.rows ++ [row] := by
  show t.putRows row = _
  rw [putRows, h, Option.isSome_none, if_neg Bool.false_ne_true]

/-- Every row stays in its place, where one with the same key is stored. -/
theorem getElem?_put {old : α} (h : t.find (key row) = some old) (i : Nat) :
    (t.put row).rows[i]? = t.rows[i]?.map fun r => if key r = key row then row else r := by
  rw [rows_put_of_some h, List.getElem?_map]

theorem length_put {old : α} (h : t.find (key row) = some old) :
    (t.put row).rows.length = t.rows.length := by
  rw [rows_put_of_some h, List.length_map]

/-- Storing a row for one that is there changes nothing that a function sees iff the function
does not tell the two apart. -/
theorem map_put_eq_iff {β : Type*} {f : α → β} {old : α} (h : t.find (key row) = some old) :
    (t.put row).rows.map f = t.rows.map f ↔ f row = f old := by
  obtain ⟨hmem, hkey⟩ := find_eq_some_iff.mp h
  rw [rows_put_of_some h, List.map_map, List.map_inj_left]
  constructor
  · intro hall
    have hold := hall old hmem
    rwa [Function.comp_apply, if_pos hkey] at hold
  · intro hrow r hr
    rw [Function.comp_apply]
    split
    · next hsame =>
      -- the row that has the key is the old one
      rw [hrow, t.eq_of_key_eq hmem hr (hkey.trans hsame.symm)]
    · rfl

end Table

end SensorNet
