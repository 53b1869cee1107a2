import SensorNet.Lib.Run
import Mathlib.Data.List.FinRange

/-!
# Read-then-write transactions on one cell

Any number of transactions share a cell. Each reads the cell, and later writes
it: the new content is a function of what it read and of what the cell holds
when the write arrives. Nothing checks that the cell is still what was read.

`serial_of_unchanged`: in a run in which every write has the effect it would have
if it read the cell at that moment, the cell ends up as if the transactions had
run one after another, in the order of their writes. `view_of_unchanged` says the same
of what is seen of the cell through a view.
-/

namespace SensorNet.Snapshot

universe u v

variable {σ : Type u} {τ : Type v} {n : Nat}

/-- Where a transaction is. -/
inductive Phase (σ : Type u) where
  | idle
  | pending (snapshot : σ)
  | done

/-- The cell, where each transaction is, and the order of the writes so far. -/
structure System (σ : Type u) (n : Nat) where
  cell : σ
  phase : Fin n → Phase σ
  order : List (Fin n)

/-- A step of a transaction. -/
inductive Event (n : Nat) where
  | read (i : Fin n)
  | write (i : Fin n)
  deriving DecidableEq, Repr

/-- Nothing has happened yet. -/
def System.start (cell : σ) : System σ n := ⟨cell, fun _ => .idle, []⟩

/-- One step; `apply i snapshot cell` is what transaction `i` leaves in the cell. -/
def step (apply : Fin n → σ → σ → σ) (s : System σ n) : Event n → Option (System σ n)
  | .read i =>
    match s.phase i with
    | .idle => some { s with phase := Function.update s.phase i (.pending s.cell) }
    | _ => none
  | .write i =>
    match s.phase i with
    | .pending snapshot => some
        ⟨apply i snapshot s.cell, Function.update s.phase i .done, s.order ++ [i]⟩
    | _ => none

/-- Run transactions one after another. -/
def serial (apply : Fin n → σ → σ → σ) (cell : σ) (order : List (Fin n)) : σ :=
  order.foldl (fun c i => apply i c c) cell

/-- A write that arrives has the effect it would have if it read the cell now. -/
def Unchanged (apply : Fin n → σ → σ → σ) (s : System σ n) : Event n → Prop
  | .read _ => True
  | .write i => ∀ snapshot, s.phase i = .pending snapshot →
      apply i snapshot s.cell = apply i s.cell s.cell

/-- A write that arrives has, as far as `view` shows, the effect it would have if it read
the cell now. -/
def UnchangedIn (view : σ → τ) (apply : Fin n → σ → σ → σ) (s : System σ n) :
    Event n → Prop
  | .read _ => True
  | .write i => ∀ snapshot, s.phase i = .pending snapshot →
      view (apply i snapshot s.cell) = view (apply i s.cell s.cell)

variable {apply : Fin n → σ → σ → σ}

/-- What a step does: a transaction reads the cell, or writes it. -/
theorem step_cases {s s' : System σ n} {e : Event n} (hstep : step apply s e = some s') :
    (∃ i, e = .read i ∧ s.phase i = .idle ∧
      s' = { s with phase := Function.update s.phase i (.pending s.cell) }) ∨
    (∃ i snapshot, e = .write i ∧ s.phase i = .pending snapshot ∧
      s' = ⟨apply i snapshot s.cell, Function.update s.phase i .done, s.order ++ [i]⟩) := by
  cases e with
  | read i =>
    simp only [step] at hstep
    split at hstep
    next hphase =>
      cases hstep
      exact .inl ⟨i, rfl, hphase, rfl⟩
    next => cases hstep
  | write i =>
    simp only [step] at hstep
    split at hstep
    next snapshot hphase =>
      cases hstep
      exact .inr ⟨i, snapshot, rfl, hphase, rfl⟩
    next => cases hstep

theorem serial_snoc (cell : σ) (order : List (Fin n)) (i : Fin n) :
    serial apply cell (order ++ [i]) =
      apply i (serial apply cell order) (serial apply cell order) := by
  rw [serial, List.foldl_append]
  rfl

/-- The writes so far are those of the transactions that are done, each once. -/
structure OrderInv (s : System σ n) : Prop where
  nodup : s.order.Nodup
  done : ∀ i, i ∈ s.order ↔ s.phase i = .done

theorem orderInv_start (cell : σ) : OrderInv (System.start cell : System σ n) where
  nodup := List.nodup_nil
  done i := by simp [System.start]

theorem orderInv_step {s s' : System σ n} {e : Event n} (h : OrderInv s)
    (hstep : step apply s e = some s') : OrderInv s' := by
  rcases step_cases hstep with ⟨i, -, hphase, rfl⟩ | ⟨i, snapshot, -, hphase, rfl⟩
  · refine { nodup := h.nodup, done := fun j => ?_ }
    rw [h.done j]
    show s.phase j = .done ↔ Function.update s.phase i (.pending s.cell) j = .done
    by_cases hj : j = i
    · subst hj
      rw [hphase, Function.update_self]
      simp
    · rw [Function.update_of_ne hj]
  · have hnew : i ∉ s.order := by
      rw [h.done i, hphase]
      simp
    refine { nodup := ?_, done := fun j => ?_ }
    · refine List.nodup_append.mpr ⟨h.nodup, List.nodup_singleton i, ?_⟩
      rintro a ha b hb rfl
      exact hnew (List.mem_singleton.mp hb ▸ ha)
    · rw [List.mem_append, h.done j, List.mem_singleton]
      by_cases hj : j = i
      · subst hj
        simp
      · simp [hj]

/-- When all transactions are done, the order of the writes names each once. -/
theorem OrderInv.perm {s : System σ n} (h : OrderInv s) (hdone : ∀ i, s.phase i = .done) :
    s.order.Perm (List.finRange n) := by
  refine (List.perm_ext_iff_of_nodup h.nodup (List.nodup_finRange n)).mpr fun i => ?_
  exact iff_of_true ((h.done i).mpr (hdone i)) (List.mem_finRange i)

theorem orderInv_run {cell : σ} {es : List (Event n)} {s : System σ n}
    (hrun : run (step apply) (.start cell) es = some s) : OrderInv s :=
  run_inv (orderInv_start cell) (fun _ _ _ h hstep => orderInv_step h hstep) hrun

/-- The cell, and each content of it that a transaction has read and not yet written back,
has `P`. -/
structure Cells (P : σ → Prop) (s : System σ n) : Prop where
  cell : P s.cell
  pending : ∀ i snapshot, s.phase i = .pending snapshot → P snapshot

theorem cells_start {P : σ → Prop} {cell : σ} (h : P cell) :
    Cells P (System.start cell : System σ n) where
  cell := h
  pending _ _ hphase := nomatch hphase

/-- What every write makes of contents with `P` has `P`. -/
theorem cells_step {P : σ → Prop}
    (happly : ∀ i snapshot cell, P snapshot → P cell → P (apply i snapshot cell))
    {s s' : System σ n} {e : Event n} (h : Cells P s) (hstep : step apply s e = some s') :
    Cells P s' := by
  rcases step_cases hstep with ⟨i, -, -, rfl⟩ | ⟨i, snapshot, -, hphase, rfl⟩
  · refine ⟨h.cell, fun j read hread => ?_⟩
    replace hread : Function.update s.phase i (.pending s.cell) j = .pending read := hread
    by_cases hj : j = i
    · subst hj
      rw [Function.update_self] at hread
      cases hread
      exact h.cell
    · rw [Function.update_of_ne hj] at hread
      exact h.pending j read hread
  · refine ⟨happly i snapshot s.cell (h.pending i snapshot hphase) h.cell, fun j read hread => ?_⟩
    replace hread : Function.update s.phase i .done j = .pending read := hread
    by_cases hj : j = i
    · subst hj
      rw [Function.update_self] at hread
      cases hread
    · rw [Function.update_of_ne hj] at hread
      exact h.pending j read hread

/-- **Serialisability in a view**: while every write has, as far as the view shows, the
effect it would have if it read the cell now, the view shows what running the transactions
one after another in the order of their writes leaves. The view must show of a transaction
run by itself what it showed before. -/
theorem view_of_unchanged (view : σ → τ)
    (hview : ∀ i c d, view c = view d → view (apply i c c) = view (apply i d d))
    {cell : σ} {es : List (Event n)} {s : System σ n}
    (hun : Along (step apply) (UnchangedIn view apply) (.start cell) es)
    (hrun : run (step apply) (.start cell) es = some s) :
    view s.cell = view (serial apply cell s.order) := by
  refine run_inv_along
    (P := fun s : System σ n => view s.cell = view (serial apply cell s.order))
    rfl ?_ hun hrun
  intro t e v hcell hC hstep
  rcases step_cases hstep with ⟨i, -, -, rfl⟩ | ⟨i, snapshot, rfl, hphase, rfl⟩
  · exact hcell
  · calc view (apply i snapshot t.cell)
        = view (apply i t.cell t.cell) := hC snapshot hphase
      _ = view (apply i (serial apply cell t.order) (serial apply cell t.order)) :=
          hview i _ _ hcell
      _ = view (serial apply cell (t.order ++ [i])) := by rw [serial_snoc]

/-- **Serialisability without checks**: while every write has the effect it would
have if it read the cell now, the cell is the result of running the transactions
one after another in the order of their writes. -/
theorem serial_of_unchanged {cell : σ} {es : List (Event n)} {s : System σ n}
    (hun : Along (step apply) (Unchanged apply) (.start cell) es)
    (hrun : run (step apply) (.start cell) es = some s) :
    s.cell = serial apply cell s.order := by
  refine view_of_unchanged id (fun i c d hcd => ?_) ?_ hrun
  · rw [show c = d from hcd]
  · refine along_of_inv (P := fun _ => True) trivial (fun _ _ _ _ _ _ => trivial) ?_ hun
    intro t e _ hC
    cases e with
    | read i => trivial
    | write i => exact hC

end SensorNet.Snapshot
