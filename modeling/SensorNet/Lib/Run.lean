import Mathlib.Data.List.Induction

/-!
# Runs of a partial step function

A system is a partial step function `step : σ → ε → Option σ`: the label `e`
carries everything the environment decides (arguments, results of calls the
system makes, the order of events), so a run is just a list of labels.

- `run step s es`: the state after the labels `es`, `none` if one of them is not
  enabled where it comes.
- `Along step C s es`: every step the run takes meets the condition `C`, which
  may look at the state before the step.
- `run_inv`, `run_inv_along`: invariants of steps are invariants of runs, in
  general and for runs whose steps all meet a condition.
- `map_run`: a map of the states that respects the steps respects the runs.
- `along_or_run`: what the first step that misses the condition breaks for good.
- `prefixes_iff_along`, `along_iff_along`: the exact condition for a property of all states,
  or of all steps, of a run.
- `runTotal step c s es`: the sum of what the steps of the run cost; `run_inv_total`:
  invariants that speak about it; `run_potential`: what a potential says about it.
-/

namespace SensorNet

universe u v

variable {σ : Type u} {ε : Type v} {step : σ → ε → Option σ}

/-- Run the labels `es` from `s`; `none` as soon as one is not enabled. -/
def run (step : σ → ε → Option σ) (s : σ) : List ε → Option σ
  | [] => some s
  | e :: es => (step s e).bind fun t => run step t es

@[simp] theorem run_nil (s : σ) : run step s [] = some s := rfl

theorem run_cons (s : σ) (e : ε) (es : List ε) :
    run step s (e :: es) = (step s e).bind fun t => run step t es := rfl

theorem run_append (s : σ) (es fs : List ε) :
    run step s (es ++ fs) = (run step s es).bind fun t => run step t fs := by
  induction es generalizing s with
  | nil => rfl
  | cons e es ih =>
    rw [List.cons_append, run_cons, run_cons, Option.bind_assoc]
    exact congrArg _ (funext fun t => ih t)

/-- A run one label longer is a run followed by a step. -/
theorem run_snoc_eq_some {s u : σ} {es : List ε} {e : ε} :
    run step s (es ++ [e]) = some u ↔
      ∃ t, run step s es = some t ∧ step t e = some u := by
  rw [run_append, Option.bind_eq_some_iff]
  simp [run_cons]

/-- Every step of the run meets `C` (judged in the state before the step). -/
def Along (step : σ → ε → Option σ) (C : σ → ε → Prop) (s : σ) :
    List ε → Prop
  | [] => True
  | e :: es => C s e ∧ ∀ t, step s e = some t → Along step C t es

@[simp] theorem along_nil (C : σ → ε → Prop) (s : σ) : Along step C s [] :=
  trivial

theorem along_cons {C : σ → ε → Prop} {s : σ} {e : ε} {es : List ε} :
    Along step C s (e :: es) ↔
      C s e ∧ ∀ t, step s e = some t → Along step C t es := Iff.rfl

theorem along_append {C : σ → ε → Prop} {s : σ} {es fs : List ε} :
    Along step C s (es ++ fs) ↔ Along step C s es ∧
      ∀ t, run step s es = some t → Along step C t fs := by
  induction es generalizing s with
  | nil => simp
  | cons e es ih =>
    rw [List.cons_append, along_cons, along_cons, and_assoc]
    refine and_congr_right fun _ => ?_
    constructor
    · intro h
      refine ⟨fun t ht => (ih.mp (h t ht)).1, fun u hu => ?_⟩
      obtain ⟨t, ht, htu⟩ := Option.bind_eq_some_iff.mp hu
      exact (ih.mp (h t ht)).2 u htu
    · rintro ⟨h₁, h₂⟩ t ht
      refine ih.mpr ⟨h₁ t ht, fun u hu => h₂ u ?_⟩
      rw [run_cons, ht]
      exact hu

/-- A decidable condition can be checked along a run. -/
instance decidableAlong (step : σ → ε → Option σ) (C : σ → ε → Prop)
    [∀ s e, Decidable (C s e)] : ∀ s es, Decidable (Along step C s es)
  | _, [] => isTrue trivial
  | s, e :: es =>
    match h : step s e with
    | none => decidable_of_iff (C s e)
        ⟨fun hC => ⟨hC, fun t ht => by simp [h] at ht⟩, And.left⟩
    | some t =>
      have := decidableAlong step C t es
      decidable_of_iff (C s e ∧ Along step C t es)
        ⟨fun hC => ⟨hC.1, fun u hu => by rw [h] at hu; cases hu; exact hC.2⟩,
          fun hC => ⟨hC.1, hC.2 t h⟩⟩

/-- A condition holds along a run one label longer iff it holds along the run
and at the last step. -/
theorem along_snoc {C : σ → ε → Prop} {s : σ} {es : List ε} {e : ε} :
    Along step C s (es ++ [e]) ↔ Along step C s es ∧
      ∀ t, run step s es = some t → C t e := by
  rw [along_append]
  simp [along_cons]

/-- A map of the states that takes every step to a step takes runs to runs. -/
theorem map_run {σ' : Type*} {step' : σ' → ε → Option σ'} {f : σ → σ'}
    (h : ∀ s e, (step s e).map f = step' (f s) e) (s : σ) (es : List ε) :
    (run step s es).map f = run step' (f s) es := by
  induction es generalizing s with
  | nil => rfl
  | cons e es ih =>
    rw [run_cons, run_cons, ← h s e, Option.map_bind, Option.bind_map]
    exact Option.bind_congr fun t _ => ih t

/-- **Run invariants**: what every step preserves holds after every run. -/
theorem run_inv {P : σ → Prop} {s u : σ} {es : List ε} (h₀ : P s)
    (hstep : ∀ t e v, P t → step t e = some v → P v)
    (hrun : run step s es = some u) : P u := by
  induction es generalizing s with
  | nil =>
    cases hrun
    exact h₀
  | cons e es ih =>
    obtain ⟨t, ht, hu⟩ := Option.bind_eq_some_iff.mp hrun
    exact ih (hstep s e t h₀ ht) hu

/-- **Conditional run invariants**: what every step that meets `C` preserves
holds after every run whose steps all meet `C`. -/
theorem run_inv_along {P : σ → Prop} {C : σ → ε → Prop} {s u : σ} {es : List ε}
    (h₀ : P s) (hstep : ∀ t e v, P t → C t e → step t e = some v → P v)
    (hC : Along step C s es) (hrun : run step s es = some u) : P u := by
  induction es generalizing s with
  | nil =>
    cases hrun
    exact h₀
  | cons e es ih =>
    obtain ⟨t, ht, hu⟩ := Option.bind_eq_some_iff.mp hrun
    exact ih (hstep s e t h₀ hC.1 ht) (hC.2 t ht) hu

/-- Invariants that also speak about the labels run so far. -/
theorem run_inv_history {P : List ε → σ → Prop} {s : σ} (h₀ : P [] s)
    (hstep : ∀ es t e v, P es t → step t e = some v → P (es ++ [e]) v) :
    ∀ {es : List ε} {u : σ}, run step s es = some u → P es u := by
  intro es
  induction es using List.reverseRecOn with
  | nil =>
    intro u hu
    cases hu
    exact h₀
  | append_singleton es e ih =>
    intro u hu
    obtain ⟨t, ht, htu⟩ := run_snoc_eq_some.mp hu
    exact hstep es t e u (ih ht) htu

/-- If every state reached along a `C`-run satisfies `P`, and `P` with `C` gives
`D` at each step, then `D` holds along the run. -/
theorem along_of_inv {P : σ → Prop} {C D : σ → ε → Prop} {s : σ} {es : List ε}
    (h₀ : P s) (hstep : ∀ t e v, P t → C t e → step t e = some v → P v)
    (hD : ∀ t e, P t → C t e → D t e) (hC : Along step C s es) :
    Along step D s es := by
  induction es generalizing s with
  | nil => trivial
  | cons e es ih =>
    exact ⟨hD s e h₀ hC.1, fun t ht => ih (hstep s e t h₀ hC.1 ht) (hC.2 t ht)⟩

/-- Where a step that misses `C` leads to `Q` and nothing leads out of `Q`, a run
ends in `Q` unless all its steps meet `C`. -/
theorem along_or_run {P Q : σ → Prop} {C : σ → ε → Prop} {s u : σ} {es : List ε}
    (h₀ : P s) (hstep : ∀ t e v, P t → step t e = some v → P v)
    (hbad : ∀ t e v, P t → ¬ C t e → step t e = some v → Q v)
    (hkeep : ∀ t e v, Q t → step t e = some v → Q v)
    (hrun : run step s es = some u) : Along step C s es ∨ Q u := by
  induction es generalizing s with
  | nil => exact .inl trivial
  | cons e es ih =>
    obtain ⟨t, ht, hu⟩ := Option.bind_eq_some_iff.mp hrun
    by_cases hC : C s e
    · refine (ih (hstep s e t h₀ ht) hu).imp_left fun h => ⟨hC, fun v hv => ?_⟩
      rw [ht] at hv
      cases hv
      exact h
    · exact .inr (run_inv (hbad s e t h₀ hC ht) hkeep hu)

/-- Where a step from a state with `P` leads to a state with `P` iff it meets `C`, all
states of a run have `P` iff all its steps meet `C`. The invariant `J` may be used. -/
theorem prefixes_iff_along {P J : σ → Prop} {C : σ → ε → Prop} {s u : σ} {es : List ε}
    (h₀ : P s) (hJ₀ : J s) (hJ : ∀ t e v, J t → step t e = some v → J v)
    (hstep : ∀ t e v, J t → P t → step t e = some v → (P v ↔ C t e))
    (hrun : run step s es = some u) :
    (∀ k t, run step s (es.take k) = some t → P t) ↔ Along step C s es := by
  induction es generalizing s with
  | nil =>
    refine iff_of_true (fun k t ht => ?_) trivial
    rw [List.take_nil] at ht
    cases ht
    exact h₀
  | cons e es ih =>
    obtain ⟨t, ht, hu⟩ := Option.bind_eq_some_iff.mp hrun
    -- the prefixes of the run but the first are those of its rest
    have hnext : ∀ k, run step s ((e :: es).take (k + 1)) = run step t (es.take k) := by
      intro k
      rw [List.take_succ_cons, run_cons, ht]
      rfl
    constructor
    · intro hall
      have hPt : P t := hall 1 t (by rw [hnext]; rfl)
      refine ⟨(hstep s e t hJ₀ h₀ ht).mp hPt, fun v hv => ?_⟩
      rw [ht] at hv
      cases hv
      exact (ih hPt (hJ s e t hJ₀ ht) hu).mp fun k w hw => hall (k + 1) w (by rw [hnext, hw])
    · rintro ⟨hC, hrest⟩ k w hw
      cases k with
      | zero =>
        cases hw
        exact h₀
      | succ k =>
        rw [hnext] at hw
        have hPt : P t := (hstep s e t hJ₀ h₀ ht).mpr hC
        exact (ih hPt (hJ s e t hJ₀ ht) hu).mpr (hrest t ht) k w hw

/-- The states of a run are the first one and those of the run after the first step. -/
theorem prefixes_cons {P : σ → Prop} {s t : σ} {e : ε} {es : List ε} (ht : step s e = some t) :
    (∀ k u, run step s ((e :: es).take k) = some u → P u) ↔
      P s ∧ ∀ k u, run step t (es.take k) = some u → P u := by
  have hnext : ∀ k, run step s ((e :: es).take (k + 1)) = run step t (es.take k) := by
    intro k
    rw [List.take_succ_cons, run_cons, ht]
    rfl
  constructor
  · exact fun h => ⟨h 0 s rfl, fun k u hu => h (k + 1) u ((hnext k).trans hu)⟩
  · rintro ⟨hs, h⟩ k u hu
    cases k with
    | zero =>
      cases hu
      exact hs
    | succ k => exact h k u ((hnext k).symm.trans hu)

/-- Where a step meets `D` iff it meets `C`, and then keeps the invariant that this takes, all
steps of a run meet `D` iff they all meet `C`. -/
theorem along_iff_along {J : σ → Prop} {C D : σ → ε → Prop} {s : σ} {es : List ε} (h₀ : J s)
    (hiff : ∀ t e, J t → (D t e ↔ C t e))
    (hstep : ∀ t e v, J t → C t e → step t e = some v → J v) :
    Along step D s es ↔ Along step C s es := by
  induction es generalizing s with
  | nil => exact Iff.rfl
  | cons e es ih =>
    rw [along_cons, along_cons, hiff s e h₀]
    refine and_congr_right fun hC => ?_
    exact forall_congr' fun t => forall_congr' fun ht => ih (hstep s e t h₀ hC ht)

/-! ## Costs -/

/-- The total of the costs `c` of the steps of a run, each judged in the state before it. -/
def runTotal (step : σ → ε → Option σ) (c : σ → ε → Nat) (s : σ) : List ε → Nat
  | [] => 0
  | e :: es => c s e + ((step s e).map fun t => runTotal step c t es).getD 0

/-- The total after a step. -/
theorem runTotal_cons {c : σ → ε → Nat} {s t : σ} {e : ε} (es : List ε)
    (hstep : step s e = some t) :
    runTotal step c s (e :: es) = c s e + runTotal step c t es := by
  show c s e + ((step s e).map fun t => runTotal step c t es).getD 0 = _
  rw [hstep]
  rfl

theorem runTotal_add (c d : σ → ε → Nat) (s : σ) (es : List ε) :
    runTotal step (fun s e => c s e + d s e) s es =
      runTotal step c s es + runTotal step d s es := by
  induction es generalizing s with
  | nil => rfl
  | cons e es ih =>
    cases hstep : step s e with
    | none => simp [runTotal, hstep]
    | some t =>
      rw [runTotal_cons es hstep, runTotal_cons es hstep, runTotal_cons es hstep, ih t]
      omega

theorem runTotal_mul (k : Nat) (c : σ → ε → Nat) (s : σ) (es : List ε) :
    runTotal step (fun s e => k * c s e) s es = k * runTotal step c s es := by
  induction es generalizing s with
  | nil => rfl
  | cons e es ih =>
    cases hstep : step s e with
    | none => simp [runTotal, hstep]
    | some t => rw [runTotal_cons es hstep, runTotal_cons es hstep, ih t, Nat.mul_add]

/-- Invariants that also speak about the total of the costs so far. -/
theorem run_inv_total {P : Nat → σ → Prop} {c : σ → ε → Nat} {s u : σ} {es : List ε}
    (h₀ : P 0 s) (hstep : ∀ n t e v, P n t → step t e = some v → P (n + c t e) v)
    (hrun : run step s es = some u) : P (runTotal step c s es) u := by
  suffices hgen : ∀ n, P n s → P (n + runTotal step c s es) u by
    rw [← Nat.zero_add (runTotal step c s es)]
    exact hgen 0 h₀
  clear h₀
  induction es generalizing s with
  | nil =>
    intro n hn
    cases hrun
    exact hn
  | cons e es ih =>
    intro n hn
    obtain ⟨t, ht, hu⟩ := Option.bind_eq_some_iff.mp hrun
    rw [runTotal_cons es ht, ← Nat.add_assoc]
    exact ih hu (n + c s e) (hstep n s e t hn ht)

/-- A potential that each step changes by what it spends and gains accounts for the totals. -/
theorem run_potential {rank : σ → Nat} {spent gained : σ → ε → Nat} {s u : σ} {es : List ε}
    (hstep : ∀ t e v, step t e = some v → rank v + spent t e = rank t + gained t e)
    (hrun : run step s es = some u) :
    rank u + runTotal step spent s es = rank s + runTotal step gained s es := by
  induction es generalizing s with
  | nil =>
    cases hrun
    rfl
  | cons e es ih =>
    obtain ⟨t, ht, hu⟩ := Option.bind_eq_some_iff.mp hrun
    have hfirst := hstep s e t ht
    have hrest := ih hu
    rw [runTotal_cons es ht, runTotal_cons es ht]
    omega

/-- A system whose every label is enabled in every state. -/
def always (f : σ → ε → σ) : σ → ε → Option σ := fun s e => some (f s e)

@[simp] theorem run_always (f : σ → ε → σ) (s : σ) (es : List ε) :
    run (always f) s es = some (es.foldl f s) := by
  induction es generalizing s with
  | nil => rfl
  | cons e es ih => exact ih (f s e)

end SensorNet
