import SensorNet.Lib.Snapshot

/-!
# Which transactions survive

Transactions on one cell (`SensorNet.Lib.Snapshot`) that put back what they have read take away
what was written in between. The cell is then not what all of them leave one after another. But
it is what some of them do, those that wrote on one another's results: they are the *lineage* of
the cell. It grows in one of two ways, by the `Manner` of the transaction that writes: if it
changes what is there, then the lineage of the cell, and if it puts back what it read, then the
lineage that the cell had when it was read (`lineageApply`).

`view_lineage`: after every run, a view of the cell shows what its lineage leaves one after
another; the other transactions leave no trace in it. `lineage_sublist`: the lineage is in the
order of the writes. `lineage_putsBack` says what it is after a write of the second kind, and
`not_mem_lineage` who is not in it then: those that have written since the writer read.
-/

namespace SensorNet.Snapshot

universe u v

variable {σ : Type u} {τ : Type v} {n : Nat}

/-- What a transaction that has read the cell does to what is seen of it -/
inductive Manner where
  /-- it leaves it as it is -/
  | idle
  /-- it changes what is there -/
  | inPlace
  /-- it puts back what it has read, changed -/
  | putsBack
  deriving DecidableEq, Repr

/-- Of transactions on contents with `P`, `manner` says what they do in the view:
1. what they leave has `P`;
2. what is seen after one by itself depends on what was seen before;
3. one that is idle changes nothing that is seen;
4. one in place leaves what it would leave if it had read the cell now;
5. one that puts back what it read leaves what it would have left then. -/
structure WritesAs (view : σ → τ) (P : σ → Prop) (apply : Fin n → σ → σ → σ)
    (manner : Fin n → σ → Manner) : Prop where
  keeps : ∀ i read cell, P read → P cell → P (apply i read cell)
  alone : ∀ i c d, P c → P d → view c = view d → view (apply i c c) = view (apply i d d)
  idle : ∀ i read cell, P read → P cell → manner i read = .idle →
    view (apply i read cell) = view cell
  inPlace : ∀ i read cell, P read → P cell → manner i read = .inPlace →
    view (apply i read cell) = view (apply i cell cell)
  putsBack : ∀ i read cell, P read → P cell → manner i read = .putsBack →
    view (apply i read cell) = view (apply i read read)

/-! ## Lineages -/

/-- The transactions, on the cell and its lineage -/
def lineageApply (apply : Fin n → σ → σ → σ) (manner : Fin n → σ → Manner) (i : Fin n)
    (read cell : σ × List (Fin n)) : σ × List (Fin n) :=
  (apply i read.1 cell.1,
    match manner i read.1 with
    | .idle => cell.2
    | .inPlace => cell.2 ++ [i]
    | .putsBack => read.2 ++ [i])

/-- The lineage of the cell after a run -/
def lineage (apply : Fin n → σ → σ → σ) (manner : Fin n → σ → Manner) (cell : σ)
    (es : List (Event n)) : List (Fin n) :=
  match run (step (lineageApply apply manner)) (.start (cell, [])) es with
  | some s => s.cell.2
  | none => []

/-- Without what it has read of the lineage -/
def Phase.content : Phase (σ × List (Fin n)) → Phase σ
  | .idle => .idle
  | .pending read => .pending read.1
  | .done => .done

/-- Without the lineages -/
def System.content (s : System (σ × List (Fin n)) n) : System σ n :=
  ⟨s.cell.1, fun i => (s.phase i).content, s.order⟩

variable {apply : Fin n → σ → σ → σ} {manner : Fin n → σ → Manner}

theorem content_update (phase : Fin n → Phase (σ × List (Fin n))) (i : Fin n)
    (p : Phase (σ × List (Fin n))) :
    (fun j => (Function.update phase i p j).content) =
      Function.update (fun j => (phase j).content) i p.content := by
  funext j
  by_cases hj : j = i
  · subst hj
    rw [Function.update_self, Function.update_self]
  · rw [Function.update_of_ne hj, Function.update_of_ne hj]

/-- The lineage has no part in what the transactions do. -/
theorem step_content (apply : Fin n → σ → σ → σ) (manner : Fin n → σ → Manner)
    (s : System (σ × List (Fin n)) n) (e : Event n) :
    (step (lineageApply apply manner) s e).map System.content = step apply s.content e := by
  cases e with
  | read i =>
    simp only [step, System.content]
    cases s.phase i with
    | idle =>
      exact congrArg (fun phase => some (⟨s.cell.1, phase, s.order⟩ : System σ n))
        (content_update s.phase i (.pending s.cell))
    | pending read => rfl
    | done => rfl
  | write i =>
    simp only [step, System.content]
    cases s.phase i with
    | idle => rfl
    | pending read =>
      exact congrArg
        (fun phase => some (⟨apply i read.1 s.cell.1, phase, s.order ++ [i]⟩ : System σ n))
        (content_update s.phase i .done)
    | done => rfl

/-- Every run is one with lineages. -/
theorem run_content (manner : Fin n → σ → Manner) {cell : σ} {es : List (Event n)} {s : System σ n}
    (hrun : run (step apply) (.start cell) es = some s) :
    ∃ t, run (step (lineageApply apply manner)) (.start (cell, [])) es = some t ∧
      t.content = s ∧ lineage apply manner cell es = t.cell.2 := by
  have hmap := map_run (step_content apply manner) (.start (cell, [])) es
  rw [show (System.start (cell, ([] : List (Fin n)))).content = System.start cell from rfl,
    hrun] at hmap
  obtain ⟨t, ht, hcontent⟩ := Option.map_eq_some_iff.mp hmap
  refine ⟨t, ht, hcontent, ?_⟩
  rw [lineage, ht]

/-! ## What the lineage says -/

/-- The content, with `P`, shows what its lineage leaves. -/
structure Explained (view : σ → τ) (P : σ → Prop) (apply : Fin n → σ → σ → σ) (first : σ)
    (c : σ × List (Fin n)) : Prop where
  content : P c.1
  lineage : P (serial apply first c.2)
  view : view c.1 = view (serial apply first c.2)

variable {view : σ → τ} {P : σ → Prop} {first : σ}

theorem Explained.start (h : P first) : Explained view P apply first (first, []) := ⟨h, h, rfl⟩

/-- A transaction that leaves what it would leave by itself continues the lineage. -/
theorem Explained.snoc (hwrites : WritesAs view P apply manner)
    {c : σ × List (Fin n)} (h : Explained view P apply first c) (i : Fin n) {new : σ}
    (hnew : P new) (hview : view new = view (apply i c.1 c.1)) :
    Explained view P apply first (new, c.2 ++ [i]) where
  content := hnew
  lineage := by
    rw [serial_snoc]
    exact hwrites.keeps i _ _ h.lineage h.lineage
  view := by
    rw [serial_snoc]
    exact hview.trans (hwrites.alone i _ _ h.content h.lineage h.view)

/-- By the manner of each write, what is explained stays explained. -/
theorem Explained.write (hwrites : WritesAs view P apply manner) (i : Fin n)
    {read cell : σ × List (Fin n)} (hread : Explained view P apply first read)
    (hcell : Explained view P apply first cell) :
    Explained view P apply first (lineageApply apply manner i read cell) := by
  have hnew : P (apply i read.1 cell.1) := hwrites.keeps i _ _ hread.content hcell.content
  unfold lineageApply
  cases hmanner : manner i read.1 with
  | idle =>
    have hsame := hwrites.idle i _ _ hread.content hcell.content hmanner
    exact ⟨hnew, hcell.lineage, hsame.trans hcell.view⟩
  | inPlace =>
    exact hcell.snoc hwrites i hnew
      (hwrites.inPlace i _ _ hread.content hcell.content hmanner)
  | putsBack =>
    exact hread.snoc hwrites i hnew
      (hwrites.putsBack i _ _ hread.content hcell.content hmanner)

/-- **The lineage explains the cell**: after every run, what is seen of the cell is what its
lineage leaves, one after another. -/
theorem view_lineage (hwrites : WritesAs view P apply manner) {es : List (Event n)}
    {s : System σ n} (hfirst : P first)
    (hrun : run (step apply) (.start first) es = some s) :
    view s.cell = view (serial apply first (lineage apply manner first es)) := by
  obtain ⟨t, ht, rfl, hlineage⟩ := run_content manner hrun
  have hcells : Cells (Explained view P apply first) t :=
    run_inv (cells_start (.start hfirst))
      (fun _ _ _ h hstep => cells_step (fun i _ _ => Explained.write hwrites i) h hstep) ht
  rw [hlineage]
  exact hcells.cell.view

/-- The lineages of the cell, and of what has been read, are in the order of the writes. -/
structure InOrder (s : System (σ × List (Fin n)) n) : Prop where
  cell : s.cell.2.Sublist s.order
  pending : ∀ i read, s.phase i = .pending read → read.2.Sublist s.order

theorem inOrder_start (first : σ) :
    InOrder (System.start (first, []) : System (σ × List (Fin n)) n) where
  cell := List.Sublist.refl []
  pending _ _ hread := nomatch hread

theorem inOrder_step {s s' : System (σ × List (Fin n)) n} {e : Event n} (h : InOrder s)
    (hstep : step (lineageApply apply manner) s e = some s') : InOrder s' := by
  rcases step_cases hstep with ⟨i, -, -, rfl⟩ | ⟨i, read, -, hread, rfl⟩
  · refine ⟨h.cell, fun j other hother => ?_⟩
    replace hother : Function.update s.phase i (.pending s.cell) j = .pending other := hother
    by_cases hj : j = i
    · subst hj
      rw [Function.update_self] at hother
      cases hother
      exact h.cell
    · rw [Function.update_of_ne hj] at hother
      exact h.pending j other hother
  · -- what is added is the writer itself, who comes last in the order
    have hmore : s.order.Sublist (s.order ++ [i]) := List.sublist_append_left s.order [i]
    constructor
    · show (lineageApply apply manner i read s.cell).2.Sublist (s.order ++ [i])
      unfold lineageApply
      cases manner i read.1 with
      | idle => exact h.cell.trans hmore
      | inPlace => exact h.cell.append (List.Sublist.refl [i])
      | putsBack => exact (h.pending i read hread).append (List.Sublist.refl [i])
    · intro j other hother
      replace hother : Function.update s.phase i .done j = .pending other := hother
      by_cases hj : j = i
      · subst hj
        rw [Function.update_self] at hother
        cases hother
      · rw [Function.update_of_ne hj] at hother
        exact (h.pending j other hother).trans hmore

/-- The lineage is in the order of the writes. -/
theorem lineage_sublist {es : List (Event n)} {s : System σ n}
    (hrun : run (step apply) (.start first) es = some s) :
    (lineage apply manner first es).Sublist s.order := by
  obtain ⟨t, ht, rfl, hlineage⟩ := run_content manner hrun
  have horder : InOrder t :=
    run_inv (inOrder_start first) (fun _ _ _ h hstep => inOrder_step h hstep) ht
  rw [hlineage]
  exact horder.cell

/-! ## How it grows -/

/-- What a transaction has read stays what it has read until it writes. -/
theorem pending_run {s t : System σ n} {es : List (Event n)} {i : Fin n} {read read' : σ}
    (hread : s.phase i = .pending read) (hrun : run (step apply) s es = some t)
    (hread' : t.phase i = .pending read') : read' = read := by
  -- once it has read, it stays so until it writes, and then it is done
  have hstays : t.phase i = .pending read ∨ t.phase i = .done := by
    refine run_inv (P := fun u : System σ n => u.phase i = .pending read ∨ u.phase i = .done)
      (.inl hread) ?_ hrun
    rintro u e v hu hstep
    rcases step_cases hstep with ⟨j, -, hidle, rfl⟩ | ⟨j, other, -, -, rfl⟩
    · -- it is another one that reads
      have hij : i ≠ j := by
        rintro rfl
        rw [hidle] at hu
        rcases hu with h | h <;> cases h
      dsimp only
      rw [Function.update_of_ne hij]
      exact hu
    · by_cases hij : i = j
      · rw [hij]
        exact .inr (Function.update_self j _ _)
      · dsimp only
        rw [Function.update_of_ne hij]
        exact hu
  rcases hstays with h | h
  · rw [hread'] at h
    cases h
    rfl
  · rw [hread'] at h
    cases h

/-- The last write of a run in which the writer puts back what it read after `es₁`: the lineage
is that of then, and the writer. -/
theorem lineage_putsBack {es₁ es₂ : List (Event n)} {i : Fin n} {s t : System σ n}
    (ht : run (step apply) (.start first) es₁ = some t)
    (hrun : run (step apply) (.start first) (es₁ ++ .read i :: es₂ ++ [.write i]) = some s)
    (hback : manner i t.cell = .putsBack) :
    lineage apply manner first (es₁ ++ .read i :: es₂ ++ [.write i]) =
      lineage apply manner first es₁ ++ [i] := by
  obtain ⟨d, hd, -, hlineage⟩ := run_content manner hrun
  obtain ⟨a, ha, rfl, hlineage₁⟩ := run_content manner ht
  rw [hlineage, hlineage₁]
  obtain ⟨c, hc, hwrite⟩ := run_snoc_eq_some.mp hd
  rw [run_append, ha, Option.bind_some] at hc
  obtain ⟨b, hb, hbc⟩ := Option.bind_eq_some_iff.mp hc
  rcases step_cases hb with ⟨j, hj, -, rfl⟩ | ⟨j, -, hj, -⟩
  swap
  · cases hj
  cases hj
  rcases step_cases hwrite with ⟨j, hj, -⟩ | ⟨j, read, hj, hread, rfl⟩
  · cases hj
  cases hj
  have hsame : read = a.cell := pending_run (Function.update_self i _ _) hbc hread
  subst hsame
  show (lineageApply apply manner i a.cell c.cell).2 = a.cell.2 ++ [i]
  rw [lineageApply, show manner i a.cell.1 = .putsBack from hback]

/-- The transaction that writes -/
def Event.writer? : Event n → Option (Fin n)
  | .read _ => none
  | .write i => some i

theorem order_run {es : List (Event n)} {s : System σ n}
    (hrun : run (step apply) (.start first) es = some s) :
    s.order = es.filterMap Event.writer? := by
  refine run_inv_history
    (P := fun es (s : System σ n) => s.order = es.filterMap Event.writer?) rfl ?_ hrun
  intro es t e v ht hstep
  rw [List.filterMap_append]
  rcases step_cases hstep with ⟨i, rfl, -, rfl⟩ | ⟨i, read, rfl, -, rfl⟩
  · exact ht.trans (List.append_nil _).symm
  · exact congrArg (· ++ [i]) ht

/-- **Overwritten**: what is written while another transaction has read and not yet put back
what it read, is not in the lineage once it has. -/
theorem not_mem_lineage {es₁ es₂ : List (Event n)} {i j : Fin n} {s t : System σ n}
    (ht : run (step apply) (.start first) es₁ = some t)
    (hrun : run (step apply) (.start first) (es₁ ++ .read i :: es₂ ++ [.write i]) = some s)
    (hback : manner i t.cell = .putsBack) (hj : Event.write j ∈ es₂) :
    j ∉ lineage apply manner first (es₁ ++ .read i :: es₂ ++ [.write i]) := by
  have hnodup := (orderInv_run hrun).nodup
  rw [order_run hrun, List.append_assoc, List.filterMap_append] at hnodup
  have hlater : j ∈ (Event.read i :: es₂ ++ [Event.write i]).filterMap Event.writer? :=
    List.mem_filterMap.mpr ⟨Event.write j, List.mem_append_left _ (List.mem_cons_of_mem _ hj), rfl⟩
  rw [lineage_putsBack ht hrun hback, List.mem_append, List.mem_singleton]
  rintro (hbefore | rfl)
  · -- it would have written before, too
    have horder := (lineage_sublist ht).subset hbefore
    rw [order_run ht] at horder
    exact (List.nodup_append.mp hnodup).2.2 j horder j hlater rfl
  · have htwice := (List.nodup_append.mp hnodup).2.1
    rw [List.filterMap_append] at htwice
    exact (List.nodup_append.mp htwice).2.2 j
      (List.mem_filterMap.mpr ⟨Event.write j, List.mem_cons_of_mem _ hj, rfl⟩) j
      (List.mem_singleton_self j) rfl

end SensorNet.Snapshot
