import SensorNet.Lib.Table
import Mathlib.Data.List.Pairwise

/-!
# Counting the rows of a table while it is written

A census counts the rows of a table by several conditions, one after another, and the table may
be written between two counts. A row that is written meanwhile may then be counted by two
conditions, or by none.

- `Census.tally`: what the counts add up to, for the conditions and what is written after each.
- `tally_le`, `le_tally`: for conditions that exclude each other this is, up to the rows written
  meanwhile, the number of rows that met one of them at the beginning.
-/

namespace SensorNet

universe u v

/-- One row is stored, or the rows are deleted that meet a condition. -/
inductive TableWrite (α : Type u) where
  | save (row : α)
  | delete (p : α → Bool)

namespace TableWrite

variable {α : Type u} {κ : Type v} {key : α → κ} [DecidableEq κ]

/-- The table after the write -/
def apply (t : Table key) : TableWrite α → Table key
  | save row => t.put row
  | delete p => t.filter fun r => !p r

/-- The table after the writes, one after another -/
def applyAll (t : Table key) (writes : List (TableWrite α)) : Table key := writes.foldl apply t

/-- The rows that are stored by the write -/
def saved : TableWrite α → Nat
  | save _ => 1
  | delete _ => 0

/-- The rows that the write stores or deletes -/
def touched (t : Table key) : TableWrite α → Nat
  | save _ => 1
  | delete p => t.rows.countP p

/-- The rows that are stored by the writes -/
def savedAll : List (TableWrite α) → Nat
  | [] => 0
  | w :: writes => w.saved + savedAll writes

/-- The rows that the writes store or delete, one after another -/
def touchedAll (t : Table key) : List (TableWrite α) → Nat
  | [] => 0
  | w :: writes => w.touched t + touchedAll (w.apply t) writes

end TableWrite

/-! ## One write -/

section
variable {α : Type u} {κ : Type v} {key : α → κ} [DecidableEq κ] {t : Table key} {row : α}
  {p q : α → Bool}

/-- At most one row takes another one's place. -/
theorem countP_replace (t : Table key) (row : α) (p : α → Bool) :
    (t.rows.map fun r => if key r = key row then row else r).countP p ≤ t.rows.countP p + 1 ∧
      t.rows.countP p ≤ (t.rows.map fun r => if key r = key row then row else r).countP p + 1 := by
  obtain ⟨rows, hnodup⟩ := t
  dsimp only
  induction rows with
  | nil => simp
  | cons r rows ih =>
    obtain ⟨hr, hrows⟩ := List.nodup_cons.mp hnodup
    by_cases hkey : key r = key row
    · -- this is the row that is replaced, and no other one is
      have hrest : (rows.map fun r => if key r = key row then row else r) = rows := by
        refine (List.map_congr_left fun s hs => if_neg fun hkey' => hr ?_).trans (List.map_id _)
        rw [hkey, ← hkey']
        exact List.mem_map_of_mem hs
      rw [List.map_cons, if_pos hkey, hrest, List.countP_cons, List.countP_cons]
      split <;> split <;> omega
    · obtain ⟨hle, hge⟩ := ih hrows
      rw [List.map_cons, if_neg hkey, List.countP_cons, List.countP_cons]
      omega

/-- Storing a row changes a count by one at most. -/
theorem countP_put (t : Table key) (row : α) (p : α → Bool) :
    (t.put row).rows.countP p ≤ t.rows.countP p + 1 ∧
      t.rows.countP p ≤ (t.put row).rows.countP p + 1 := by
  cases hfind : t.find (key row) with
  | some old =>
    rw [Table.rows_put_of_some hfind]
    exact countP_replace t row p
  | none =>
    rw [Table.rows_put_of_none hfind, List.countP_append, List.countP_cons, List.countP_nil]
    split <;> omega

omit [DecidableEq κ] in
/-- Deleting rows lowers a count by as many at most. -/
theorem countP_delete (t : Table key) (p q : α → Bool) :
    (t.filter fun r => !q r).rows.countP p ≤ t.rows.countP p ∧
      t.rows.countP p ≤ (t.filter fun r => !q r).rows.countP p + t.rows.countP q := by
  constructor
  · exact List.Sublist.countP_le List.filter_sublist
  · show _ ≤ (t.rows.filter fun r => !q r).countP p + _
    rw [List.countP_filter]
    induction t.rows with
    | nil => exact Nat.le_refl 0
    | cons r rows ih =>
      simp only [List.countP_cons]
      cases p r <;> cases q r <;> simp <;> omega

/-- A write changes a count by the rows that it touches at most. -/
theorem countP_apply (t : Table key) (w : TableWrite α) (p : α → Bool) :
    (w.apply t).rows.countP p ≤ t.rows.countP p + w.saved ∧
      t.rows.countP p ≤ (w.apply t).rows.countP p + w.touched t := by
  cases w with
  | save row => exact countP_put t row p
  | delete q => exact countP_delete t p q

/-- So do writes one after another. -/
theorem countP_applyAll (t : Table key) (writes : List (TableWrite α)) (p : α → Bool) :
    (TableWrite.applyAll t writes).rows.countP p ≤
        t.rows.countP p + TableWrite.savedAll writes ∧
      t.rows.countP p ≤ (TableWrite.applyAll t writes).rows.countP p +
        TableWrite.touchedAll t writes := by
  induction writes generalizing t with
  | nil => exact ⟨Nat.le_refl _, Nat.le_refl _⟩
  | cons w writes ih =>
    obtain ⟨hle, hge⟩ := countP_apply t w p
    obtain ⟨hle', hge'⟩ := ih (w.apply t)
    rw [TableWrite.savedAll, TableWrite.touchedAll, TableWrite.applyAll, List.foldl_cons]
    rw [TableWrite.applyAll] at hle' hge'
    omega

end

/-! ## The census -/

namespace Census

variable {α : Type u} {κ : Type v} {key : α → κ} [DecidableEq κ]

/-- The conditions to count by, and what is written after each count -/
abbrev Plan (α : Type u) := List ((α → Bool) × List (TableWrite α))

/-- What the counts add up to -/
def tally (t : Table key) : Plan α → Nat
  | [] => 0
  | (q, writes) :: plan => t.rows.countP q + tally (TableWrite.applyAll t writes) plan

/-- The rows stored meanwhile -/
def saved : Plan α → Nat
  | [] => 0
  | (_, writes) :: plan => TableWrite.savedAll writes + saved plan

/-- The rows stored or deleted meanwhile -/
def touched (t : Table key) : Plan α → Nat
  | [] => 0
  | (_, writes) :: plan =>
    TableWrite.touchedAll t writes + touched (TableWrite.applyAll t writes) plan

/-- One of the conditions holds. -/
def some? (plan : Plan α) (r : α) : Bool := plan.any fun e => e.1 r

/-- No row meets two of the conditions. -/
def Exclusive (plan : Plan α) : Prop :=
  plan.Pairwise fun e f => ∀ r, e.1 r = true → f.1 r = false

theorem countP_or {p q : α → Bool} (rows : List α) (h : ∀ r, p r = true → q r = false) :
    rows.countP (fun r => p r || q r) = rows.countP p + rows.countP q := by
  induction rows with
  | nil => rfl
  | cons r rows ih =>
    have hr := h r
    simp only [List.countP_cons, ih]
    cases hp : p r with
    | false =>
      simp only [Bool.false_or, Bool.false_eq_true, if_false]
      omega
    | true =>
      rw [hr hp]
      simp
      omega

theorem exclusive_cons {q : α → Bool} {writes : List (TableWrite α)} {plan : Plan α}
    (h : Exclusive ((q, writes) :: plan)) :
    (∀ r, q r = true → some? plan r = false) ∧ Exclusive plan := by
  obtain ⟨hq, hplan⟩ := List.pairwise_cons.mp h
  refine ⟨fun r hr => ?_, hplan⟩
  rw [some?, List.any_eq_false]
  intro e he
  rw [hq e he r hr]
  exact Bool.false_ne_true

/-- The counts are too high by the rows that are stored meanwhile at most. -/
theorem tally_le (t : Table key) {plan : Plan α} (h : Exclusive plan) :
    tally t plan ≤ t.rows.countP (some? plan) + saved plan := by
  induction plan generalizing t with
  | nil => exact Nat.zero_le _
  | cons e plan ih =>
    obtain ⟨q, writes⟩ := e
    obtain ⟨hq, hplan⟩ := exclusive_cons h
    have hrest := ih (TableWrite.applyAll t writes) hplan
    have hwrites := (countP_applyAll t writes (some? plan)).1
    have hsplit : t.rows.countP (some? ((q, writes) :: plan)) =
        t.rows.countP q + t.rows.countP (some? plan) := countP_or t.rows hq
    rw [hsplit, tally, saved]
    omega

/-- They are too low by the rows that are stored or deleted meanwhile at most. -/
theorem le_tally (t : Table key) {plan : Plan α} (h : Exclusive plan) :
    t.rows.countP (some? plan) ≤ tally t plan + touched t plan := by
  induction plan generalizing t with
  | nil =>
    rw [show some? ([] : Plan α) = fun _ => false from rfl, List.countP_false]
    exact Nat.zero_le _
  | cons e plan ih =>
    obtain ⟨q, writes⟩ := e
    obtain ⟨hq, hplan⟩ := exclusive_cons h
    have hrest := ih (TableWrite.applyAll t writes) hplan
    have hwrites := (countP_applyAll t writes (some? plan)).2
    have hsplit : t.rows.countP (some? ((q, writes) :: plan)) =
        t.rows.countP q + t.rows.countP (some? plan) := countP_or t.rows hq
    rw [hsplit, tally, touched]
    omega

end Census

end SensorNet
