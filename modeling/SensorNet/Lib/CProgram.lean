import Mathlib.Data.Int.Order.Basic
import Mathlib.Order.Basic

/-!
# C functions with loops and an early return

The statements of a function act on a state and either go on or stop: at a `return`, or
where C leaves the behaviour undefined (`Undefined`: an index out of bounds, a read of an
element that was never written, a division by zero, an overflow of `int32_t`). What happened
up to there stays in the state.

- `Cells`: an array of automatic storage, without a value in it at first.
- `Triple`: the rules for proving what a function does, among them one for counting loops
  with an invariant (`Triple.forLoop`).
-/

namespace SensorNet.C

/-- What C leaves undefined -/
inductive Undefined where
  | outOfBounds
  | uninitialised
  | divisionByZero
  | overflow
  deriving DecidableEq, Repr

/-- Why a statement is the last one. -/
inductive Stop where
  | returned (ret : Int)
  | undefined (why : Undefined)
  deriving DecidableEq, Repr

/-- Statements over the state `σ` -/
abbrev Prog (σ α : Type) : Type := EStateM Stop σ α

variable {σ α β : Type}

/-- `return ret;` -/
def returning (ret : Int) : Prog σ α := throw (.returned ret)

/-- An expression, which may be undefined -/
def eval : Except Undefined α → Prog σ α
  | .ok a => pure a
  | .error why => throw (.undefined why)

/-- `for (int i = 0; i < bound; i++) body(i)`, where the body leaves `i` alone. -/
def forLoop (bound : Int) (body : Nat → Prog σ Unit) : Prog σ Unit :=
  (List.range bound.toNat).forM body

/-- A call of a function: how it ends, and the state it leaves. -/
def call (body : Prog σ Int) (s : σ) : Stop × σ :=
  match body.run s with
  | .ok ret t => (.returned ret, t)
  | .error stop t => (stop, t)

/-! ## Running a statement -/

@[simp] theorem run_get_bind (f : σ → Prog σ α) (s : σ) : (get >>= f).run s = (f s).run s := rfl

/-- An expression with a value -/
theorem run_eval_bind {x : Except Undefined α} {a : α} (hx : x = .ok a) (f : α → Prog σ β)
    (s : σ) : (eval x >>= f).run s = (f a).run s := by
  rw [hx]
  rfl

/-- An expression that is undefined -/
theorem run_eval_error_bind {x : Except Undefined α} {why : Undefined} (hx : x = .error why)
    (f : α → Prog σ β) (s : σ) : (eval x >>= f).run s = .error (.undefined why) s := by
  rw [hx]
  rfl

/-! ## Arithmetic of `int32_t` -/

/-- The values of `int32_t` -/
def InInt32 (n : Int) : Prop := -2147483648 ≤ n ∧ n ≤ 2147483647

instance (n : Int) : Decidable (InInt32 n) := instDecidableAnd

/-- `a + b` -/
def addInt32 (a b : Int) : Except Undefined Int :=
  if InInt32 (a + b) then .ok (a + b) else .error .overflow

/-- `a / b`, truncating toward zero -/
def divInt32 (a b : Int) : Except Undefined Int :=
  if b = 0 then .error .divisionByZero
  else if InInt32 (a.tdiv b) then .ok (a.tdiv b)
  else .error .overflow

theorem addInt32_ok {a b : Int} (h : InInt32 (a + b)) : addInt32 a b = .ok (a + b) := if_pos h

theorem addInt32_overflow {a b : Int} (h : ¬ InInt32 (a + b)) :
    addInt32 a b = .error .overflow := if_neg h

theorem divInt32_ok {a b : Int} (ha : InInt32 a) (hb : 0 < b) :
    divInt32 a b = .ok (a.tdiv b) := by
  have hin : InInt32 (a.tdiv b) := by
    have hle := Int.natAbs_tdiv_le_natAbs a b
    unfold InInt32 at ha ⊢
    rcases Int.le_total 0 a with h | h
    · have hsign := Int.tdiv_nonneg h hb.le
      omega
    · have hsign := Int.tdiv_nonneg (Int.neg_nonneg_of_nonpos h) hb.le
      rw [Int.neg_tdiv] at hsign
      omega
  unfold divInt32
  rw [if_neg hb.ne', if_pos hin]

/-! ## Arrays -/

/-- `int32_t cells[size]`, of automatic storage: an element has no value before it is
written. -/
abbrev Cells (size : Nat) : Type := Vector (Option Int) size

namespace Cells

variable {size : Nat}

/-- The array as it is declared -/
def uninitialised (size : Nat) : Cells size := Vector.replicate size none

/-- `cells[i]` -/
def load (cells : Cells size) (i : Nat) : Except Undefined Int :=
  match cells[i]? with
  | none => .error .outOfBounds
  | some none => .error .uninitialised
  | some (some value) => .ok value

/-- `cells[i] = value` -/
def store (cells : Cells size) (i : Nat) (value : Int) : Except Undefined (Cells size) :=
  if h : i < size then .ok (cells.set i (some value) h) else .error .outOfBounds

/-- The first elements have these values. -/
def Holds (cells : Cells size) (values : List Int) : Prop :=
  values.map some <+: cells.toList

theorem holds_nil (cells : Cells size) : cells.Holds [] := List.nil_prefix

theorem Holds.length_le {cells : Cells size} {values : List Int} (h : cells.Holds values) :
    values.length ≤ size := by
  have hle := List.IsPrefix.length_le h
  rwa [List.length_map, Vector.length_toList] at hle

/-- An element that has a value can be read. -/
theorem Holds.load {cells : Cells size} {values : List Int} (h : cells.Holds values) {i : Nat}
    {value : Int} (hi : values[i]? = some value) : cells.load i = .ok value := by
  obtain ⟨rest, hrest⟩ := h
  have hcell : cells[i]? = some (some value) := by
    rw [← Vector.getElem?_toList, ← hrest, List.getElem?_append_left, List.getElem?_map, hi]
    · rfl
    · rw [List.length_map]
      exact (List.getElem?_eq_some_iff.mp hi).1
  unfold Cells.load
  rw [hcell]

/-- The next element can be written. -/
theorem Holds.store_next {cells : Cells size} {values : List Int} (h : cells.Holds values)
    (hlt : values.length < size) (value : Int) :
    ∃ cells', cells.store values.length value = .ok cells' ∧
      cells'.Holds (values ++ [value]) := by
  refine ⟨_, dif_pos hlt, ?_⟩
  obtain ⟨rest, hrest⟩ := h
  have hrestpos : rest ≠ [] := by
    rintro rfl
    have hlen := congrArg List.length hrest
    rw [List.append_nil, List.length_map, Vector.length_toList] at hlen
    omega
  obtain ⟨next, rest, rfl⟩ := List.exists_cons_of_ne_nil hrestpos
  refine ⟨rest, ?_⟩
  rw [Vector.toList_set, ← hrest, List.map_append, List.set_append_right _ _ (by simp)]
  simp

/-- So can an element that has a value. -/
theorem Holds.store {cells : Cells size} {values : List Int} (h : cells.Holds values) {i : Nat}
    (hi : i < values.length) (value : Int) :
    ∃ cells', cells.store i value = .ok cells' ∧ cells'.Holds (values.set i value) := by
  refine ⟨_, dif_pos (Nat.lt_of_lt_of_le hi h.length_le), ?_⟩
  obtain ⟨rest, hrest⟩ := h
  refine ⟨rest, ?_⟩
  rw [Vector.toList_set, ← hrest, List.set_append_left _ _ (by simpa using hi), List.map_set]

end Cells

/-! ## Rules -/

/-- From the states with `P` the statement goes on to states with `Q`, or stops in states
with `E`. -/
def Triple (P : σ → Prop) (c : Prog σ α) (Q : α → σ → Prop) (E : Stop → σ → Prop) : Prop :=
  ∀ s, P s →
    match c.run s with
    | .ok a t => Q a t
    | .error stop t => E stop t

namespace Triple

variable {P : σ → Prop} {E : Stop → σ → Prop}

/-- A statement that is run goes on. -/
theorem of_run {c : Prog σ α} {Q : α → σ → Prop}
    (h : ∀ s, P s → ∃ a t, c.run s = .ok a t ∧ Q a t) : Triple P c Q E := by
  intro s hs
  obtain ⟨a, t, hrun, hQ⟩ := h s hs
  rw [hrun]
  exact hQ

theorem pure {a : α} {Q : α → σ → Prop} (h : ∀ s, P s → Q a s) :
    Triple P (Pure.pure a) Q E := h

theorem bind {c : Prog σ α} {f : α → Prog σ β} {R : α → σ → Prop} {Q : β → σ → Prop}
    (hc : Triple P c R E) (hf : ∀ a, Triple (R a) (f a) Q E) : Triple P (c >>= f) Q E := by
  intro s hs
  have hmid := hc s hs
  rw [EStateM.run_bind]
  cases hrun : c.run s with
  | ok a t =>
    rw [hrun] at hmid
    exact hf a t hmid
  | error stop t =>
    rw [hrun] at hmid
    exact hmid

/-- The consequence rule -/
theorem mono {P' : σ → Prop} {c : Prog σ α} {Q Q' : α → σ → Prop} {E' : Stop → σ → Prop}
    (h : Triple P' c Q' E') (hP : ∀ s, P s → P' s) (hQ : ∀ a s, Q' a s → Q a s)
    (hE : ∀ stop s, E' stop s → E stop s) : Triple P c Q E := by
  intro s hs
  have hrun := h s (hP s hs)
  cases hc : c.run s with
  | ok a t =>
    rw [hc] at hrun
    exact hQ a t hrun
  | error stop t =>
    rw [hc] at hrun
    exact hE stop t hrun

/-- An assignment -/
theorem modify {f : σ → σ} {Q : Unit → σ → Prop} (h : ∀ s, P s → Q () (f s)) :
    Triple P (modify f) Q E := h

theorem ite {c : Prop} [Decidable c] {p q : Prog σ α} {Q : α → σ → Prop}
    (hp : c → Triple P p Q E) (hq : ¬ c → Triple P q Q E) :
    Triple P (if c then p else q) Q E := by
  by_cases hc : c
  · rw [if_pos hc]
    exact hp hc
  · rw [if_neg hc]
    exact hq hc

/-- A counting loop keeps an invariant if each round takes it one further. -/
theorem forLoop {bound : Int} {body : Nat → Prog σ Unit} {I : Nat → σ → Prop}
    (h : ∀ i : Nat, (i : Int) < bound → Triple (I i) (body i) (fun _ => I (i + 1)) E) :
    Triple (I 0) (forLoop bound body) (fun _ => I bound.toNat) E := by
  unfold C.forLoop
  -- the rounds from `i` on, by induction on how many are left
  suffices hfrom : ∀ n i, i + n = bound.toNat →
      Triple (I i) ((List.range' i n).forM body) (fun _ => I bound.toNat) E by
    rw [List.range_eq_range']
    exact hfrom _ 0 (Nat.zero_add _)
  intro n
  induction n with
  | zero =>
    rintro i rfl
    exact Triple.pure fun _ hs => hs
  | succ n ih =>
    intro i hi
    rw [List.range'_succ]
    exact bind (h i (by omega)) fun _ => ih (i + 1) (by omega)

/-- What holds after a call -/
theorem call {c : Prog σ Int} {Q : Int → σ → Prop} (h : Triple P c Q E) {s : σ} (hs : P s) :
    (∃ ret, (call c s).1 = .returned ret ∧ Q ret (call c s).2) ∨
      E (call c s).1 (call c s).2 := by
  have hrun := h s hs
  unfold C.call
  cases hc : c.run s with
  | ok ret t =>
    rw [hc] at hrun
    exact .inl ⟨ret, rfl, hrun⟩
  | error stop t =>
    rw [hc] at hrun
    exact .inr hrun

end Triple

end SensorNet.C
